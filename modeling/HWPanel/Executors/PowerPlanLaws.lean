import HWPanel.Executors.PowerPlan

/-!
# Names of power plans

Every plan has a name that selects it again. What else the name check accepts is what
`sscanf_s` makes of the GUID format: short fields, blanks, signs, `0x` and any text
after the last field.
-/

namespace HWPanel.Executors

open HWPanel.Library

@[simp] theorem resolve_guidToAlias (guid : Guid) : resolve (guidToAlias guid) = some guid := by
  rw [guidToAlias]
  split
  case isTrue isBalanced =>
    rw [isBalanced]
    rfl
  case isFalse =>
    split
    case isTrue isHigh =>
      rw [isHigh]
      rfl
    case isFalse =>
      split
      case isTrue isSaver =>
        rw [isSaver]
        rfl
      case isFalse => exact resolve_of_spells (spells_guidToString guid)

namespace PowerPlanExecutor

variable {desired : String} {guid : Guid}

theorem apply_of_resolve (resolved : resolve desired = some guid) (manager : PowerManager) :
    apply desired manager = selectScheme desired guid manager := by
  rw [apply, resolved]

theorem apply_of_resolve_none (unknown : resolve desired = none) (manager : PowerManager) :
    apply desired manager = (⟨false, "unknown power plan: " ++ desired⟩, manager) := by
  rw [apply, unknown]

@[simp] theorem selectScheme_setCalls (desired : String) (guid : Guid) (manager : PowerManager) :
    (selectScheme desired guid manager).2.setCalls = manager.setCalls ++ [guid] := by
  rw [selectScheme, PowerManager.setActiveScheme]
  by_cases succeeds : manager.setResult guid = errorSuccess
  · rw [if_pos succeeds]
    rfl
  · simp [succeeds]

/-- When `PowerSetActiveScheme` succeeds the scheme is active. -/
theorem selectScheme_of_success (desired : String) {manager : PowerManager}
    (succeeds : manager.setResult guid = errorSuccess) :
    (selectScheme desired guid manager).1.ok = true ∧
      (selectScheme desired guid manager).2.activeScheme = (errorSuccess, some guid) := by
  rw [selectScheme, PowerManager.setActiveScheme, if_pos succeeds]
  exact ⟨rfl, rfl⟩

theorem currentValue_of_active {manager : PowerManager}
    (active : manager.activeScheme = (errorSuccess, some guid)) :
    currentValue manager = guidToAlias guid := by
  rw [currentValue, active]
  rfl

end PowerPlanExecutor

/-- The name of every GUID resolves to it, and applying the value read at any later time
asks the power manager for the scheme that was active. -/
theorem power_plan_names_round_trip :
    (∀ guid, resolve (guidToAlias guid) = some guid) ∧
      ∀ (manager : PowerManager) (guid : Guid),
        manager.activeScheme = (errorSuccess, some guid) → ∀ later : PowerManager,
          let previous := (powerPlanExecutor.currentValue manager).1
          let (result, restored) := powerPlanExecutor.apply previous later
          restored.setCalls = later.setCalls ++ [guid] ∧
            (later.setResult guid = errorSuccess →
              result.ok = true ∧ restored.activeScheme = (errorSuccess, some guid)) := by
  refine ⟨resolve_guidToAlias, fun manager guid active later => ?_⟩
  have read := PowerPlanExecutor.currentValue_of_active active
  simp only [powerPlanExecutor, read,
    PowerPlanExecutor.apply_of_resolve (resolve_guidToAlias guid) later]
  exact ⟨PowerPlanExecutor.selectScheme_setCalls _ guid later,
    PowerPlanExecutor.selectScheme_of_success _⟩

/-- A custom plan with leading zeros, restored after a switch to another one. -/
theorem power_plan_names_round_trip_custom :
    resolve "0000abcd-000f-0000-0001-00020000000a" =
        some ⟨0x0000abcd, 0x000f, 0, #v[0, 1, 0, 2, 0, 0, 0, 0x0a]⟩ ∧
      (powerPlanExecutor.apply "0000abcd-000f-0000-0001-00020000000a"
        ⟨(errorSuccess, some balanced), fun _ => errorSuccess, [balanced]⟩).2.setCalls =
          [balanced, ⟨0x0000abcd, 0x000f, 0, #v[0, 1, 0, 2, 0, 0, 0, 0x0a]⟩] := by
  have name : guidToAlias ⟨0x0000abcd, 0x000f, 0, #v[0, 1, 0, 2, 0, 0, 0, 0x0a]⟩ =
      "0000abcd-000f-0000-0001-00020000000a" := by decide
  have read : (powerPlanExecutor.currentValue
      ⟨(errorSuccess, some ⟨0x0000abcd, 0x000f, 0, #v[0, 1, 0, 2, 0, 0, 0, 0x0a]⟩),
        fun _ => errorSuccess, []⟩).1 = "0000abcd-000f-0000-0001-00020000000a" := name
  have restored := power_plan_names_round_trip.2
    ⟨(errorSuccess, some ⟨0x0000abcd, 0x000f, 0, #v[0, 1, 0, 2, 0, 0, 0, 0x0a]⟩),
      fun _ => errorSuccess, []⟩ _ rfl
    ⟨(errorSuccess, some balanced), fun _ => errorSuccess, [balanced]⟩
  rw [read] at restored
  exact ⟨name ▸ power_plan_names_round_trip.1 _, restored.1⟩

/-! ## The accepted names -/

/-- The textual form of a GUID: digits in groups of 8, 4, 4, 4 and 12. The first three
groups are its numbers, the others the bytes of its last field. -/
def IsGuidText (text : List Char) (guid : Guid) : Prop :=
  ∃ time mid high clock node : List Char,
    text = time ++ '-' :: (mid ++ '-' :: (high ++ '-' :: (clock ++ '-' :: node))) ∧
    (∀ c ∈ time ++ mid ++ high ++ clock ++ node, isDigitOf 16 c) ∧
    time.length = 8 ∧ mid.length = 4 ∧ high.length = 4 ∧ clock.length = 4 ∧
    node.length = 12 ∧
    guid.fields = numeral 16 time :: numeral 16 mid :: numeral 16 high ::
      digitPairs (clock ++ node)

/-- The scheme that a name stands for. -/
def Written (desired : String) (guid : Guid) : Prop :=
  (desired = "balanced" ∧ guid = balanced) ∨ (desired = "high" ∧ guid = highPerformance) ∨
    (desired = "saver" ∧ guid = powerSaver) ∨ IsGuidText desired.toList guid

/-- The text of a GUID spells its fields in the format. -/
theorem IsGuidText.spells {text : List Char} {guid : Guid} (isText : IsGuidText text guid) :
    Spells guidFormat text guid.fields := by
  obtain ⟨time, mid, high, clock, node, rfl, hexadecimal, timeFull, midFull, highFull,
    clockFull, nodeFull, fields⟩ := isText
  simp only [List.mem_append, or_imp, forall_and] at hexadecimal
  obtain ⟨⟨⟨⟨timeHex, midHex⟩, highHex⟩, clockHex⟩, nodeHex⟩ := hexadecimal
  have clockEven : clock.length = 2 * 2 := clockFull
  have nodeEven : node.length = 2 * 6 := nodeFull
  have clockSpelled := spells_digitPairs clockEven clockHex
  have nodeSpelled := spells_digitPairs nodeEven nodeHex
  have bytes := clockSpelled.append (.literal '-' nodeSpelled)
  have pairs : digitPairs (clock ++ node) = digitPairs clock ++ digitPairs node :=
    digitPairs_append clockEven node
  rw [← pairs] at bytes
  rw [fields]
  exact .hex timeHex timeFull (by decide) (.literal '-' (.hex midHex midFull (by decide)
    (.literal '-' (.hex highHex highFull (by decide) (.literal '-' bytes)))))

/-- Every text in these groups is that of a GUID. -/
theorem exists_isGuidText {time mid high clock node : List Char}
    (hexadecimal : ∀ c ∈ time ++ mid ++ high ++ clock ++ node, isDigitOf 16 c)
    (timeFull : time.length = 8) (midFull : mid.length = 4) (highFull : high.length = 4)
    (clockFull : clock.length = 4) (nodeFull : node.length = 12) :
    ∃ guid, IsGuidText
      (time ++ '-' :: (mid ++ '-' :: (high ++ '-' :: (clock ++ '-' :: node)))) guid := by
  have groups := hexadecimal
  simp only [List.mem_append, or_imp, forall_and] at groups
  obtain ⟨⟨⟨⟨timeHex, midHex⟩, highHex⟩, clockHex⟩, nodeHex⟩ := groups
  have even : (clock ++ node).length = 2 * 8 := by
    rw [List.length_append, clockFull, nodeFull]
  have bothHex : ∀ c ∈ clock ++ node, isDigitOf 16 c := fun c member =>
    (List.mem_append.mp member).elim (clockHex c) (nodeHex c)
  obtain ⟨eight, bytesFit⟩ := digitPairs_bytes even bothHex
  have timeFits := numeral_lt timeHex
  have midFits := numeral_lt midHex
  have highFits := numeral_lt highHex
  rw [timeFull] at timeFits
  rw [midFull] at midFits
  rw [highFull] at highFits
  exact ⟨_, time, mid, high, clock, node, rfl, hexadecimal, timeFull, midFull, highFull,
    clockFull, nodeFull, Guid.fields_ofFields timeFits midFits highFits eight bytesFit⟩

theorem resolve_of_written {desired : String} {guid : Guid} (written : Written desired guid) :
    resolve desired = some guid := by
  rcases written with ⟨rfl, rfl⟩ | ⟨rfl, rfl⟩ | ⟨rfl, rfl⟩ | isText
  · rfl
  · rfl
  · rfl
  · exact resolve_of_spells isText.spells

/-- An alias is written, whatever else is. -/
theorem written_of_aliasToGuid {desired : String} {guid : Guid}
    (named : aliasToGuid desired = some guid) : Written desired guid := by
  rw [aliasToGuid] at named
  split at named
  · cases named
    exact .inl ⟨‹_›, rfl⟩
  · split at named
    · cases named
      exact .inr (.inl ⟨‹_›, rfl⟩)
    · split at named
      · cases named
        exact .inr (.inr (.inl ⟨‹_›, rfl⟩))
      · cases named

theorem aliasToGuid_of_unwritten {desired : String}
    (unwritten : ¬∃ guid, Written desired guid) : aliasToGuid desired = none := by
  cases named : aliasToGuid desired with
  | none => rfl
  | some guid => exact absurd ⟨guid, written_of_aliasToGuid named⟩ unwritten

/-- The text up to its first NUL starts with the fields of a GUID, as `sscanf_s` reads
them. -/
def StartsWithGuid (desired : String) : Prop :=
  ∃ values, Matches guidFormat (cString desired.toList) values

theorem parseGuid_eq_none_iff (desired : String) :
    parseGuid desired = none ↔ ¬StartsWithGuid desired := by
  rw [parseGuid, StartsWithGuid]
  constructor
  · rintro unread ⟨values, matched⟩
    obtain ⟨assigned, all⟩ := matches_iff.mp matched
    rw [assigned] at unread
    rw [if_neg (fun short => short (all.trans (by decide)))] at unread
    cases unread
  · intro unmatched
    refine if_pos fun full => unmatched ⟨_, matches_iff.mpr ⟨rfl, ?_⟩⟩
    exact full.trans (by decide)

/-- The law of the name check: a written plan is selected, and any other name is rejected
without a call. -/
def ChecksName (desired : String) : Prop :=
  (∀ guid, Written desired guid → ∀ manager,
    powerPlanExecutor.apply desired manager =
      PowerPlanExecutor.selectScheme desired guid manager) ∧
  ((¬∃ guid, Written desired guid) → ∀ manager,
    powerPlanExecutor.apply desired manager =
      (⟨false, "unknown power plan: " ++ desired⟩, manager))

/-- The name check is right for the plans that are written and for the texts that do not
start with a GUID in the lenient sense of `sscanf_s`. -/
theorem checksName_iff (desired : String) :
    ChecksName desired ↔ (∃ guid, Written desired guid) ∨ ¬StartsWithGuid desired := by
  constructor
  · intro law
    by_contra neither
    rw [not_or, not_not] at neither
    obtain ⟨unwritten, started⟩ := neither
    have noAlias := aliasToGuid_of_unwritten unwritten
    cases parsed : parseGuid desired with
    | none => exact (parseGuid_eq_none_iff desired).mp parsed started
    | some guid =>
        have resolved : resolve desired = some guid := by
          rw [resolve, noAlias, parsed]
          rfl
        let manager : PowerManager := ⟨(errorSuccess, none), fun _ => errorSuccess, []⟩
        have selected := PowerPlanExecutor.apply_of_resolve resolved manager
        have called := PowerPlanExecutor.selectScheme_setCalls desired guid manager
        rw [selected.symm.trans (law.2 unwritten manager)] at called
        simp [manager] at called
  · intro right
    constructor
    · intro guid written manager
      exact PowerPlanExecutor.apply_of_resolve (resolve_of_written written) manager
    · intro unwritten manager
      have noAlias := aliasToGuid_of_unwritten unwritten
      have unread : parseGuid desired = none :=
        (parseGuid_eq_none_iff desired).mpr (right.resolve_left unwritten)
      have unknown : resolve desired = none := by
        rw [resolve, noAlias, unread]
        rfl
      exact PowerPlanExecutor.apply_of_resolve_none unknown manager

/-- A GUID with text after it is taken for the plan. -/
theorem checksName_trailing :
    resolve "381b4222-f694-41f0-9685-ff5bb260df2e, balanced" = some balanced ∧
      ¬ChecksName "381b4222-f694-41f0-9685-ff5bb260df2e, balanced" := by
  have resolved : resolve "381b4222-f694-41f0-9685-ff5bb260df2e, balanced" = some balanced := by
    decide
  refine ⟨resolved, fun law => ?_⟩
  have unwritten : ¬∃ guid, Written "381b4222-f694-41f0-9685-ff5bb260df2e, balanced" guid := by
    rintro ⟨guid, written | written | written | isText⟩
    · exact absurd written.1 (by decide)
    · exact absurd written.1 (by decide)
    · exact absurd written.1 (by decide)
    · exact absurd isText.spells.length_text (by decide)
  have rejected := law.2 unwritten ⟨(errorSuccess, none), fun _ => errorSuccess, []⟩
  have selected := PowerPlanExecutor.apply_of_resolve resolved
    ⟨(errorSuccess, none), fun _ => errorSuccess, []⟩
  have ok := congrArg (fun outcome => outcome.1.ok) (selected.symm.trans rejected)
  exact absurd ok (by decide)

end HWPanel.Executors
