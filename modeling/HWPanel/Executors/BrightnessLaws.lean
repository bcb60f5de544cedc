import HWPanel.Executors.Brightness

/-!
# Snapshots and input of the brightness executor

What `SwitchTo` relies on when it rolls a brightness back, and what a profile may
write: the exact inputs on which the executor keeps each law.
-/

namespace HWPanel.Executors

open HWPanel.Library

variable {desired : String} {monitors : List PhysicalMonitor}

/-- Reading a value, applying another and applying the first again leaves every monitor
at its level. -/
def RestoresLevels (desired : String) (monitors : List PhysicalMonitor) : Prop :=
  let (previous, monitors) := brightnessExecutor.currentValue monitors
  let (result, applied) := brightnessExecutor.apply desired monitors
  result.ok = true →
    (brightnessExecutor.apply previous applied).2.map (·.current) = monitors.map (·.current)

/-- The level each monitor is given last: the one read, where it can be applied again,
else the one desired. -/
def PhysicalMonitor.Kept (self : PhysicalMonitor) (snapshot desired : Nat) : Prop :=
  if snapshot ≤ 100 ∧ self.Accepts snapshot then self.current = snapshot
  else self.Accepts desired → self.current = desired

/-- The value read is the level of the first readable monitor. -/
theorem currentValue_of_find {first : PhysicalMonitor}
    (found : monitors.find? (·.readable) = some first) :
    BrightnessExecutor.currentValue monitors = toString first.current := by
  have read : monitors.findSome? PhysicalMonitor.getMonitorBrightness =
      some (first.minimum, first.current, first.maximum) := by
    induction monitors with
    | nil => cases found
    | cons m monitors ih =>
        rw [List.find?_cons] at found
        rw [List.findSome?_cons]
        cases readable : m.readable with
        | true =>
            rw [readable] at found
            cases found
            simp [PhysicalMonitor.getMonitorBrightness, readable]
        | false =>
            rw [readable] at found
            simp [PhysicalMonitor.getMonitorBrightness, readable, ih found]
  rw [BrightnessExecutor.currentValue, read]

theorem available_iff :
    BrightnessExecutor.available monitors = true ↔
      ∃ first, monitors.find? (·.readable) = some first := by
  rw [BrightnessExecutor.available, ← Option.isSome_iff_exists, List.find?_isSome, List.any_eq_true]
  refine exists_congr fun m => and_congr_right fun _ => ?_
  cases readable : m.readable with
  | true => simp [PhysicalMonitor.getMonitorBrightness, readable]
  | false => simp [PhysicalMonitor.getMonitorBrightness, readable]

/-- The monitors after the snapshot level is applied again. -/
theorem apply_snapshot (snapshot : Nat) :
    (BrightnessExecutor.apply (toString snapshot) monitors).2 =
      if snapshot ≤ 100 then monitors.map (·.setTo snapshot) else monitors := by
  have requested := requestedLevel_toString snapshot
  split
  case isTrue small =>
    rw [if_pos small] at requested
    exact (BrightnessExecutor.apply_of_requestedLevel monitors requested).1
  case isFalse large =>
    rw [if_neg large] at requested
    rw [BrightnessExecutor.apply_of_requestedLevel_none requested]

/-- A monitor that is set twice is back at its level exactly when it is kept. -/
theorem PhysicalMonitor.kept_iff (self : PhysicalMonitor) (snapshot level : Nat) :
    self.Kept snapshot level ↔
      (if snapshot ≤ 100 then (self.setTo level).setTo snapshot else self.setTo level).current =
        self.current := by
  rw [Kept]
  by_cases small : snapshot ≤ 100
  · rw [if_pos small, current_setTo]
    by_cases accepts : self.Accepts snapshot
    · rw [if_pos ⟨small, accepts⟩, if_pos ((self.accepts_setTo level snapshot).mpr accepts)]
      exact eq_comm
    · rw [if_neg (fun both => accepts both.2),
        if_neg (fun both => accepts ((self.accepts_setTo level snapshot).mp both)), current_setTo]
      by_cases desired : self.Accepts level
      · simp [desired, eq_comm]
      · simp [desired]
  · rw [if_neg small, if_neg (fun both => small both.1), current_setTo]
    by_cases desired : self.Accepts level
    · simp [desired, eq_comm]
    · simp [desired]

/-- A snapshot is restored exactly when nothing was applied or every monitor is kept. -/
theorem restoresLevels_iff_kept (monitors : List PhysicalMonitor)
    (available : BrightnessExecutor.available monitors = true) (desired : String) :
    RestoresLevels desired monitors ↔
      ∀ level, requestedLevel desired = some level → (∃ m ∈ monitors, m.Accepts level) →
        ∀ first, monitors.find? (·.readable) = some first →
          ∀ m ∈ monitors, m.Kept first.current level := by
  obtain ⟨first, found⟩ := available_iff.mp available
  simp only [RestoresLevels, brightnessExecutor, currentValue_of_find found, apply_snapshot]
  cases requested : requestedLevel desired with
  | none => simp [BrightnessExecutor.apply_of_requestedLevel_none requested]
  | some level =>
      obtain ⟨set, succeeds⟩ :=
        BrightnessExecutor.apply_of_requestedLevel monitors requested
      have restored : (if first.current ≤ 100 then
            (monitors.map (·.setTo level)).map (·.setTo first.current)
          else monitors.map (·.setTo level)).map (·.current) = monitors.map (·.current) ↔
          ∀ m ∈ monitors, m.Kept first.current level := by
        simp only [PhysicalMonitor.kept_iff]
        split
        · rw [List.map_map, List.map_map, List.map_inj_left]
          rfl
        · rw [List.map_map, List.map_inj_left]
          rfl
      rw [set, succeeds, restored]
      constructor
      · intro kept other same accepted chosen foundToo
        cases same
        cases found.symm.trans foundToo
        exact kept accepted
      · intro kept accepted
        exact kept level rfl accepted first found

/-- Two monitors at 30 and at 70: a switch to 50 and its rollback leave both at 30. -/
theorem restoresLevels_two_monitors :
    BrightnessExecutor.available [⟨0, 30, 100, true⟩, ⟨0, 70, 100, true⟩] = true ∧
      ¬RestoresLevels "50" [⟨0, 30, 100, true⟩, ⟨0, 70, 100, true⟩] := by
  constructor
  · decide
  · intro restores
    have levels := restores rfl
    exact absurd levels (by decide)

/-- A single monitor is restored. -/
theorem restoresLevels_iff_kept_single :
    RestoresLevels "50" [⟨0, 30, 100, true⟩] :=
  (restoresLevels_iff_kept [⟨0, 30, 100, true⟩] (by decide) "50").mpr
    fun _ _ _ _ found m member => by
      cases found
      cases List.mem_singleton.mp member
      rfl

/-! ## Accepted input -/

/-- A decimal numeral of an integer between 0 and 100. -/
def IsLevelNumeral (desired : String) : Prop :=
  desired.toList ≠ [] ∧ (∀ c ∈ desired.toList, isDigitOf 10 c) ∧
    numeral 10 desired.toList ≤ 100

/-- Success and changes are for level numerals only. -/
def ValidatesInput (desired : String) (monitors : List PhysicalMonitor) : Prop :=
  (brightnessExecutor.apply desired monitors).1.ok = true ∨
    (brightnessExecutor.apply desired monitors).2 ≠ monitors → IsLevelNumeral desired

/-- The input is validated exactly where it is a numeral, or where the number it starts
with is out of range or accepted by no monitor. -/
theorem validatesInput_iff (desired : String) (monitors : List PhysicalMonitor) :
    ValidatesInput desired monitors ↔
      IsLevelNumeral desired ∨
        ∀ level, requestedLevel desired = some level → ∀ m ∈ monitors, ¬m.Accepts level := by
  have effect : (BrightnessExecutor.apply desired monitors).1.ok = true ∨
        (BrightnessExecutor.apply desired monitors).2 ≠ monitors ↔
      ∃ level, requestedLevel desired = some level ∧ ∃ m ∈ monitors, m.Accepts level := by
    have changed : (BrightnessExecutor.apply desired monitors).2 ≠ monitors →
        (BrightnessExecutor.apply desired monitors).1.ok = true := by
      intro different
      by_contra failed
      exact different (BrightnessExecutor.apply_failed (Bool.eq_false_of_not_eq_true failed))
    rw [or_iff_left_of_imp changed]
    cases requested : requestedLevel desired with
    | none => simp [BrightnessExecutor.apply_of_requestedLevel_none requested]
    | some level =>
        rw [(BrightnessExecutor.apply_of_requestedLevel monitors requested).2]
        simp
  rw [ValidatesInput, brightnessExecutor, effect]
  constructor
  · intro validates
    by_cases plain : IsLevelNumeral desired
    · exact .inl plain
    · refine .inr fun level requested m member accepts => ?_
      exact plain (validates ⟨level, requested, m, member, accepts⟩)
  · rintro (plain | refused) ⟨level, requested, m, member, accepts⟩
    · exact plain
    · exact absurd accepts (refused level requested m member)

/-- The empty string turns the screen dark and reports success. -/
theorem validatesInput_empty :
    brightnessExecutor.apply "" [⟨0, 70, 100, true⟩] =
        (⟨true, "brightness ->  on 1 monitor(s)"⟩, [⟨0, 0, 100, true⟩]) ∧
      ¬ValidatesInput "" [⟨0, 70, 100, true⟩] := by
  have applied : brightnessExecutor.apply "" [⟨0, 70, 100, true⟩] =
      (⟨true, "brightness ->  on 1 monitor(s)"⟩, [⟨0, 0, 100, true⟩]) := rfl
  refine ⟨applied, fun validates => ?_⟩
  have plain := validates (.inl (by rw [applied]))
  exact plain.1 rfl

end HWPanel.Executors
