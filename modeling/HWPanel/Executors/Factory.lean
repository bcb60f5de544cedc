import HWPanel.Config.Transaction
import HWPanel.Executors.BrightnessLaws
import HWPanel.Executors.PowerPlanLaws
import Mathlib.Data.List.Sort

/-!
# The executors of the service

`ServiceHost::Start` gives its profile manager the power plan executor and the brightness
executor. Neither keeps the contract of a transaction: the law of a switch on the devices
themselves says what a profile leaves in force, and what a rollback does not bring back.
-/

namespace HWPanel.Executors

open HWPanel.Config
open HWPanel.Core
open HWPanel.Library
open HWPanel.Platform

/-- What the executors of the service write. -/
structure Devices where
  manager : PowerManager
  monitors : List PhysicalMonitor

/-- An executor on one part of a larger state. -/
def onPart {S T : Type} (executor : IExecutor T) (part : S → T) (update : S → T → S) :
    IExecutor S where
  key := executor.key
  available object :=
    let (available, after) := executor.available (part object)
    (available, update object after)
  currentValue object :=
    let (value, after) := executor.currentValue (part object)
    (value, update object after)
  apply desired object :=
    let (result, after) := executor.apply desired (part object)
    (result, update object after)

def makePowerPlanExecutor : IExecutor Devices :=
  onPart powerPlanExecutor Devices.manager fun devices manager => { devices with manager }

def makeBrightnessExecutor : IExecutor Devices :=
  onPart brightnessExecutor Devices.monitors fun devices monitors => { devices with monitors }

/-- The profile manager that `ServiceHost::Start` makes. -/
def serviceManager (store : ProfileStore) : ProfileManager Devices :=
  ⟨store, [makePowerPlanExecutor, makeBrightnessExecutor]⟩

variable {store : ProfileStore}

def planIndex : Fin (serviceManager store).executors.length := ⟨0, Nat.zero_lt_two⟩

def brightnessIndex : Fin (serviceManager store).executors.length := ⟨1, Nat.one_lt_two⟩

theorem planIndex_ne : (planIndex : Fin (serviceManager store).executors.length) ≠
    brightnessIndex := by
  intro same
  cases congrArg Fin.val same

/-- The power manager, as the power plan executor sees it. -/
def powerManager (state : ManagerState (serviceManager store)) : PowerManager :=
  (state.objects planIndex).manager

/-- The monitors, as the brightness executor sees them. -/
def displays (state : ManagerState (serviceManager store)) : List PhysicalMonitor :=
  (state.objects brightnessIndex).monitors

def levels (state : ManagerState (serviceManager store)) : List Nat :=
  (displays state).map (·.current)

/-- The executors, and the keys that select them. -/
theorem findExecutor_iff {key : String} {i : Fin (serviceManager store).executors.length} :
    (serviceManager store).findExecutor key = some i ↔
      i = planIndex ∧ key = "power.plan" ∨ i = brightnessIndex ∧ key = "display.brightness" := by
  constructor
  · intro found
    have selected := ProfileManager.key_of_findExecutor found
    match i with
    | ⟨0, _⟩ => exact .inl ⟨rfl, selected.symm⟩
    | ⟨1, _⟩ => exact .inr ⟨rfl, selected.symm⟩
  · rintro (⟨rfl, rfl⟩ | ⟨rfl, rfl⟩)
    · rfl
    · rfl

namespace PowerPlanExecutor

variable {desired : String} {manager : PowerManager} {guid : Guid}

@[simp] theorem selectScheme_setResult (desired : String) (guid : Guid) (manager : PowerManager) :
    (selectScheme desired guid manager).2.setResult = manager.setResult := by
  rw [selectScheme, PowerManager.setActiveScheme]
  by_cases succeeds : manager.setResult guid = errorSuccess
  · rw [if_pos succeeds]
    rfl
  · simp [succeeds]

/-- When `PowerSetActiveScheme` fails the scheme stays. -/
theorem selectScheme_of_failure (desired : String)
    (fails : manager.setResult guid ≠ errorSuccess) :
    (selectScheme desired guid manager).1.ok = false ∧
      (selectScheme desired guid manager).2.activeScheme = manager.activeScheme := by
  simp [selectScheme, PowerManager.setActiveScheme, fails]

/-- A successful `Apply` makes the scheme of its name the active one. -/
theorem apply_ok (ok : (apply desired manager).1.ok = true) :
    ∃ guid, resolve desired = some guid ∧ manager.setResult guid = errorSuccess ∧
      (apply desired manager).2.activeScheme = (errorSuccess, some guid) ∧
      (apply desired manager).2.setResult = manager.setResult := by
  cases resolved : resolve desired with
  | none =>
      rw [apply_of_resolve_none resolved] at ok
      cases ok
  | some guid =>
      rw [apply_of_resolve resolved] at ok ⊢
      by_cases succeeds : manager.setResult guid = errorSuccess
      · exact ⟨guid, rfl, succeeds, (selectScheme_of_success desired succeeds).2,
          selectScheme_setResult desired guid manager⟩
      · rw [(selectScheme_of_failure desired succeeds).1] at ok
        cases ok

/-- Any other `Apply` leaves the active scheme. -/
theorem apply_failed (failed : (apply desired manager).1.ok = false) :
    (apply desired manager).2.activeScheme = manager.activeScheme := by
  cases resolved : resolve desired with
  | none => rw [apply_of_resolve_none resolved]
  | some guid =>
      rw [apply_of_resolve resolved] at failed ⊢
      by_cases succeeds : manager.setResult guid = errorSuccess
      · rw [(selectScheme_of_success desired succeeds).1] at failed
        cases failed
      · exact (selectScheme_of_failure desired succeeds).2

end PowerPlanExecutor

/-- The active scheme can be read, and set again. -/
def PowerManager.Resumable (self : PowerManager) : Prop :=
  ∃ guid, self.activeScheme = (errorSuccess, some guid) ∧ self.setResult guid = errorSuccess

/-- A scheme read and set again over another one is active exactly where it is resumable. -/
theorem apply_currentValue_iff {manager after : PowerManager} {guid : Guid}
    (settable : manager.setResult guid = errorSuccess)
    (active : after.activeScheme = (errorSuccess, some guid))
    (same : after.setResult = manager.setResult) :
    (PowerPlanExecutor.apply (PowerPlanExecutor.currentValue manager) after).2.activeScheme =
      manager.activeScheme ↔ manager.Resumable := by
  have unread (empty : PowerPlanExecutor.currentValue manager = "") :
      (PowerPlanExecutor.apply (PowerPlanExecutor.currentValue manager) after).2.activeScheme =
        (errorSuccess, some guid) := by
    have unknown : resolve "" = none := rfl
    rw [empty, PowerPlanExecutor.apply_of_resolve_none unknown, active]
  cases scheme : manager.activeScheme with
  | mk code pointer =>
      cases pointer with
      | none =>
          rw [unread (by rw [PowerPlanExecutor.currentValue, scheme])]
          simp [PowerManager.Resumable, scheme]
      | some before =>
          by_cases readable : code = errorSuccess
          · have name := PowerPlanExecutor.currentValue_of_active (scheme.trans (by rw [readable]))
            rw [name, PowerPlanExecutor.apply_of_resolve (resolve_guidToAlias before), readable]
            by_cases again : manager.setResult before = errorSuccess
            · have set := PowerPlanExecutor.selectScheme_of_success (guidToAlias before)
                ((congrFun same before).trans again)
              exact iff_of_true set.2 ⟨before, scheme.trans (by rw [readable]), again⟩
            · have kept := PowerPlanExecutor.selectScheme_of_failure (guidToAlias before)
                (fun succeeds => again ((congrFun same before).symm.trans succeeds))
              rw [kept.2, active]
              refine iff_of_false (fun equal => ?_) ?_
              · cases equal
                exact again settable
              · rintro ⟨other, isActive, settableToo⟩
                cases scheme.symm.trans isActive
                exact again settableToo
          · rw [unread (by simp [PowerPlanExecutor.currentValue, scheme, readable])]
            refine iff_of_false (fun equal => ?_) ?_
            · cases equal
              exact readable rfl
            · rintro ⟨other, isActive, -⟩
              cases scheme.symm.trans isActive
              exact readable rfl

/-- A plan that was applied over the active scheme and undone. -/
theorem plan_restored_iff {desired previous : String} {devices after : Devices}
    (attempted : makePowerPlanExecutor.attempt desired devices = .applied previous after) :
    (makePowerPlanExecutor.apply previous after).2.manager.activeScheme =
      devices.manager.activeScheme ↔ devices.manager.Resumable := by
  obtain ⟨rfl, ok, rfl⟩ := IExecutor.attempt_applied attempted
  obtain ⟨guid, -, settable, active, same⟩ := PowerPlanExecutor.apply_ok ok
  exact apply_currentValue_iff settable active same

/-- A plan that is in force after its attempt. -/
theorem plan_applied {desired previous : String} {devices after : Devices}
    (attempted : makePowerPlanExecutor.attempt desired devices = .applied previous after) :
    ∃ guid, resolve desired = some guid ∧
      after.manager.activeScheme = (errorSuccess, some guid) := by
  obtain ⟨-, ok, rfl⟩ := IExecutor.attempt_applied attempted
  obtain ⟨guid, resolved, -, active, -⟩ := PowerPlanExecutor.apply_ok ok
  exact ⟨guid, resolved, active⟩

/-- A plan that was not applied. -/
theorem plan_refused {desired : String} {devices : Devices}
    (refused : ∀ previous after,
      makePowerPlanExecutor.attempt desired devices ≠ .applied previous after) :
    (makePowerPlanExecutor.attempt desired devices).object.manager.activeScheme =
      devices.manager.activeScheme := by
  rw [IExecutor.attempt_available rfl] at refused ⊢
  split
  case isTrue ok =>
    rw [if_pos ok] at refused
    exact absurd rfl (refused _ _)
  case isFalse failed =>
    exact PowerPlanExecutor.apply_failed (Bool.eq_false_of_not_eq_true failed)

/-- What a level takes away from the monitors, the snapshot of the first readable one
brings back. -/
def Recoverable (desired : String) (monitors : List PhysicalMonitor) : Prop :=
  ∀ level, requestedLevel desired = some level →
    ∀ first, monitors.find? (·.readable) = some first →
      ∀ m ∈ monitors, m.Kept first.current level

/-- A level that is in force after its attempt. -/
theorem brightness_applied {desired previous : String} {devices after : Devices}
    (attempted : makeBrightnessExecutor.attempt desired devices = .applied previous after) :
    ∃ level, requestedLevel desired = some level ∧
      (∃ m ∈ devices.monitors, m.Accepts level) ∧
      after.monitors = devices.monitors.map (·.setTo level) := by
  obtain ⟨-, ok, rfl⟩ := IExecutor.attempt_applied attempted
  cases requested : requestedLevel desired with
  | none =>
      have failed : (BrightnessExecutor.apply desired devices.monitors).1.ok = false := by
        rw [BrightnessExecutor.apply_of_requestedLevel_none requested]
      exact absurd (ok.symm.trans failed) (by decide)
  | some level =>
      obtain ⟨set, succeeds⟩ :=
        BrightnessExecutor.apply_of_requestedLevel devices.monitors requested
      exact ⟨level, rfl, succeeds.mp ok, set⟩

/-- An executor that was applied could read a monitor. -/
theorem exists_readable {desired previous : String} {devices after : Devices}
    (attempted : makeBrightnessExecutor.attempt desired devices = .applied previous after) :
    ∃ first, devices.monitors.find? (·.readable) = some first := by
  cases available : BrightnessExecutor.available devices.monitors with
  | true => exact available_iff.mp available
  | false =>
      rw [IExecutor.attempt_unavailable available] at attempted
      cases attempted

/-- A level that was applied and undone. -/
theorem brightness_restored_iff {desired previous : String} {devices after : Devices}
    (attempted : makeBrightnessExecutor.attempt desired devices = .applied previous after) :
    (makeBrightnessExecutor.apply previous after).2.monitors.map (·.current) =
      devices.monitors.map (·.current) ↔ Recoverable desired devices.monitors := by
  obtain ⟨first, found⟩ := exists_readable attempted
  obtain ⟨level, requested, -, set⟩ := brightness_applied attempted
  obtain ⟨snapshot, -, -⟩ := IExecutor.attempt_applied attempted
  have read : previous = toString first.current := snapshot.trans (currentValue_of_find found)
  have undone : (makeBrightnessExecutor.apply previous after).2.monitors =
      if first.current ≤ 100 then after.monitors.map (·.setTo first.current)
      else after.monitors := by
    rw [read]
    exact apply_snapshot first.current
  have each : (makeBrightnessExecutor.apply previous after).2.monitors.map (·.current) =
        devices.monitors.map (·.current) ↔
      ∀ m ∈ devices.monitors, m.Kept first.current level := by
    rw [undone, set]
    simp only [PhysicalMonitor.kept_iff]
    split
    · rw [List.map_map, List.map_map, List.map_inj_left]
      rfl
    · rw [List.map_map, List.map_inj_left]
      rfl
  rw [each]
  constructor
  · intro kept other same chosen foundToo
    cases requested.symm.trans same
    cases found.symm.trans foundToo
    exact kept
  · intro recoverable
    exact recoverable level requested first found

/-- A level that was not applied. -/
theorem brightness_refused {desired : String} {devices : Devices}
    (refused : ∀ previous after,
      makeBrightnessExecutor.attempt desired devices ≠ .applied previous after) :
    (makeBrightnessExecutor.attempt desired devices).object.monitors = devices.monitors := by
  cases available : BrightnessExecutor.available devices.monitors with
  | false =>
      rw [IExecutor.attempt_unavailable available]
      rfl
  | true =>
      rw [IExecutor.attempt_available available] at refused ⊢
      split
      case isTrue ok =>
        rw [if_pos ok] at refused
        exact absurd rfl (refused _ _)
      case isFalse failed =>
        exact BrightnessExecutor.apply_failed (Bool.eq_false_of_not_eq_true failed)

/-! ## The law of a switch -/

/-- The setting is in force: its plan is active, or every monitor has been given its level
and one accepts it. -/
def InForce (before final : ManagerState (serviceManager store)) (setting : String × String) :
    Prop :=
  (setting.1 = "power.plan" ∧ ∃ guid, resolve setting.2 = some guid ∧
      (powerManager final).activeScheme = (errorSuccess, some guid)) ∨
    (setting.1 = "display.brightness" ∧ ∃ level, requestedLevel setting.2 = some level ∧
      (∃ m ∈ displays before, m.Accepts level) ∧
      displays final = (displays before).map (·.setTo level))

/-- What a switch to a profile of these settings leaves behind. -/
structure DeviceLaw (settings : List (String × String))
    (before final : ManagerState (serviceManager store)) (result : SwitchResult) : Prop where
  inForce : result.ok = true → ∀ setting ∈ settings, InForce before final setting
  planKept : (∀ desired, ("power.plan", desired) ∉ settings) →
    powerManager final = powerManager before
  levelsKept : (∀ desired, ("display.brightness", desired) ∉ settings) →
    displays final = displays before
  planBack : result.ok = false →
    ((powerManager final).activeScheme = (powerManager before).activeScheme ↔
      ("power.plan" ∈ result.rolledBackKeys → (powerManager before).Resumable))
  levelsBack : result.ok = false →
    (levels final = levels before ↔
      ∀ desired, ("display.brightness", desired) ∈ settings →
        "display.brightness" ∈ result.rolledBackKeys → Recoverable desired (displays before))
  reported : result.rolledBackKeys.Sublist ["power.plan", "display.brightness"]

section

open ProfileManager

variable {before state : ManagerState (serviceManager store)}
  {steps : List (Step (serviceManager store))} {failing : String × String}
  {settings : List (String × String)}

/-- The executor of a step, and its key. -/
theorem selected_iff {step : Step (serviceManager store)}
    {objects : Fin (serviceManager store).executors.length → Devices}
    (taken : step.From objects) :
    (step.executor = planIndex ↔ step.setting.1 = "power.plan") ∧
      (step.executor = brightnessIndex ↔ step.setting.1 = "display.brightness") := by
  rcases findExecutor_iff.mp taken.found with ⟨isPlan, key⟩ | ⟨isBrightness, key⟩
  · rw [isPlan, key]
    exact ⟨iff_of_true rfl rfl, iff_of_false planIndex_ne (by decide)⟩
  · rw [isBrightness, key]
    exact ⟨iff_of_false planIndex_ne.symm (by decide), iff_of_true rfl rfl⟩

/-- The settings applied are in the order of their keys. -/
theorem applied_sublist (taken : ∀ step ∈ steps, step.From before.objects)
    (sorted : (steps.map (·.setting)).Pairwise fun earlier later => earlier.1 < later.1) :
    (steps.map (·.setting.1)).reverse.Sublist ["power.plan", "display.brightness"] := by
  have keys : (steps.map (·.setting.1)).Pairwise (· < ·) := by
    have mapped := List.pairwise_map.mpr sorted
    rw [List.map_map] at mapped
    exact mapped
  have known : steps.map (·.setting.1) ⊆ ["display.brightness", "power.plan"] := by
    intro key membership
    obtain ⟨step, stepMem, rfl⟩ := List.mem_map.mp membership
    rcases findExecutor_iff.mp (taken step stepMem).found with ⟨-, key⟩ | ⟨-, key⟩
    · rw [key]
      exact List.mem_cons_of_mem _ List.mem_cons_self
    · rw [key]
      exact List.mem_cons_self
  have subperm := List.subperm_of_subset (keys.imp ne_of_lt) known
  have ordered : ["display.brightness", "power.plan"].Pairwise (· < ·) := by decide
  exact (List.sublist_of_subperm_of_pairwise subperm keys ordered).reverse

/-- Every setting of a profile in force is. -/
theorem inForce_of_progress (progress : Progress before steps state) :
    ∀ setting ∈ steps.map (·.setting), InForce before state setting := by
  intro setting membership
  obtain ⟨⟨⟨key, desired⟩, i, previous, object⟩, stepMem, rfl⟩ := List.mem_map.mp membership
  have taken := progress.taken _ stepMem
  have reached := progress.reached _ stepMem
  rcases findExecutor_iff.mp taken.found with ⟨rfl, named⟩ | ⟨rfl, named⟩
  · obtain ⟨guid, resolved, active⟩ := plan_applied taken.attempted
    refine .inl ⟨named, guid, resolved, ?_⟩
    rw [powerManager, reached]
    exact active
  · obtain ⟨level, requested, accepted, set⟩ := brightness_applied taken.attempted
    refine .inr ⟨named, level, requested, accepted, ?_⟩
    rw [displays, reached]
    exact set

/-- Where a failed switch leaves the power plan. -/
theorem planBack_of_aborted (aborted : Aborted before steps failing state) :
    (powerManager state).activeScheme = (powerManager before).activeScheme ↔
      ("power.plan" ∈ steps.map (·.setting.1) → (powerManager before).Resumable) := by
  have keyed : planIndex ∈ steps.map (·.executor) ↔ "power.plan" ∈ steps.map (·.setting.1) := by
    simp only [List.mem_map]
    exact exists_congr fun step => and_congr_right fun stepMem =>
      (selected_iff (aborted.taken step stepMem)).1
  rw [powerManager, powerManager]
  have left := aborted.left planIndex
  generalize state.objects planIndex = object at left ⊢
  cases left with
  | undone step stepMem selected attempted =>
      have applied := keyed.mp (List.mem_map.mpr ⟨step, stepMem, selected⟩)
      rw [forall_prop_of_true applied]
      exact plan_restored_iff attempted
  | refused notApplied found refused =>
      exact iff_of_true (plan_refused refused) fun applied =>
        absurd (keyed.mpr applied) notApplied
  | untouched notApplied =>
      exact iff_of_true rfl fun applied => absurd (keyed.mpr applied) notApplied

/-- Where a failed switch leaves the monitors. -/
theorem levelsBack_of_aborted (aborted : Aborted before steps failing state) :
    levels state = levels before ↔ ∀ step ∈ steps, step.setting.1 = "display.brightness" →
      Recoverable step.setting.2 (displays before) := by
  have keyed (step : Step (serviceManager store)) (stepMem : step ∈ steps) :=
    (selected_iff (aborted.taken step stepMem)).2
  have vacuous (notApplied : brightnessIndex ∉ steps.map (·.executor)) : ∀ step ∈ steps,
      step.setting.1 = "display.brightness" → Recoverable step.setting.2 (displays before) :=
    fun step stepMem named =>
      absurd (List.mem_map.mpr ⟨step, stepMem, (keyed step stepMem).mpr named⟩) notApplied
  rw [levels, levels, displays, displays]
  have left := aborted.left brightnessIndex
  generalize state.objects brightnessIndex = object at left ⊢
  cases left with
  | undone step stepMem selected attempted =>
      have restored := brightness_restored_iff attempted
      constructor
      · intro back other otherMem named
        have same : other = step := List.inj_on_of_nodup_map aborted.distinct otherMem stepMem
          (((keyed other otherMem).mpr named).trans selected.symm)
        rw [same]
        exact restored.mp back
      · intro recoverable
        exact restored.mpr (recoverable step stepMem ((keyed step stepMem).mp selected))
  | refused notApplied found refused =>
      exact iff_of_true (congrArg _ (brightness_refused refused)) (vacuous notApplied)
  | untouched notApplied => exact iff_of_true rfl (vacuous notApplied)

/-- Settings of other keys select another executor. -/
theorem plan_unselected (absent : ∀ desired, ("power.plan", desired) ∉ settings) :
    ∀ setting ∈ settings, (serviceManager store).findExecutor setting.1 ≠ some planIndex := by
  intro setting membership found
  rcases findExecutor_iff.mp found with ⟨-, named⟩ | ⟨same, -⟩
  · exact absent setting.2 (named ▸ membership)
  · exact planIndex_ne same

theorem brightness_unselected (absent : ∀ desired, ("display.brightness", desired) ∉ settings) :
    ∀ setting ∈ settings,
      (serviceManager store).findExecutor setting.1 ≠ some brightnessIndex := by
  intro setting membership found
  rcases findExecutor_iff.mp found with ⟨same, -⟩ | ⟨-, named⟩
  · exact planIndex_ne same.symm
  · exact absent setting.2 (named ▸ membership)

/-- An executor that no setting selects is not touched by a failed switch. -/
theorem objects_of_aborted (aborted : Aborted before steps failing state)
    {i : Fin (serviceManager store).executors.length}
    (unselected : ∀ setting ∈ steps.map (·.setting) ++ failing :: settings,
      (serviceManager store).findExecutor setting.1 ≠ some i) :
    state.objects i = before.objects i := by
  apply aborted.untouched
  · intro applied
    obtain ⟨step, stepMem, rfl⟩ := List.mem_map.mp applied
    exact unselected step.setting (List.mem_append_left _ (List.mem_map_of_mem stepMem))
      (aborted.taken step stepMem).found
  · exact unselected failing (List.mem_append_right _ List.mem_cons_self)

/-- The steps of a failed switch are known by its settings and its report. -/
theorem levelsBack_iff_reported (sorted : (steps.map (·.setting) ++ failing :: settings).Pairwise
      fun earlier later => earlier.1 < later.1) :
    (∀ step ∈ steps, step.setting.1 = "display.brightness" →
        Recoverable step.setting.2 (displays before)) ↔
      ∀ desired, ("display.brightness", desired) ∈
          steps.map (·.setting) ++ failing :: settings →
        "display.brightness" ∈ (steps.map (·.setting.1)).reverse →
          Recoverable desired (displays before) := by
  constructor
  · intro recoverable desired present reported
    obtain ⟨step, stepMem, named⟩ := List.mem_map.mp (List.mem_reverse.mp reported)
    have inSettings : step.setting ∈ steps.map (·.setting) ++ failing :: settings :=
      List.mem_append_left _ (List.mem_map_of_mem stepMem)
    have distinct := List.pairwise_map.mpr (sorted.imp fun below => ne_of_lt below)
    have same := List.inj_on_of_nodup_map distinct inSettings present named
    have back := recoverable step stepMem named
    rw [same] at back
    exact back
  · intro recoverable step stepMem named
    refine recoverable step.setting.2 ?_ ?_
    · rw [← named]
      exact List.mem_append_left _ (List.mem_map_of_mem stepMem)
    · rw [← named]
      exact List.mem_reverse.mpr (List.mem_map_of_mem stepMem)

end

open ProfileManager in
/-- A switch to a profile that can be read ends with a result, whose devices obey the law. -/
theorem switch_on_devices (before : ManagerState (serviceManager store)) {id : String}
    {profile : Profile} (loaded : store.get before.fs id = .ok (some profile)) (io : SwitchIO) :
    ∃ result final, (serviceManager store).switchTo id io before = (.ok result, final) ∧
      DeviceLaw profile.settings.entries before final result := by
  have outcome := switchTo_outcome before id io
  have loaded' : (serviceManager store).store.get before.fs id = .ok (some profile) := loaded
  have sorted := profile.settings.sorted
  generalize (serviceManager store).switchTo id io before = returned at outcome ⊢
  obtain ⟨answer, final⟩ := returned
  cases outcome with
  | thrown error unreadable => cases loaded'.symm.trans unreadable
  | notFound missing => cases loaded'.symm.trans missing
  | applied other steps state found settings progress =>
      cases loaded'.symm.trans found
      refine ⟨_, _, rfl, ?_⟩
      rw [← settings]
      constructor
      · intro _
        have inForce := inForce_of_progress progress
        exact inForce
      · intro absent
        exact congrArg Devices.manager (progress.others (plan_unselected absent))
      · intro absent
        exact congrArg Devices.monitors (progress.others (brightness_unselected absent))
      · intro failed
        cases failed
      · intro failed
        cases failed
      · exact List.nil_sublist _
  | failed other steps failing later message final found settings aborted =>
      cases loaded'.symm.trans found
      refine ⟨_, _, rfl, ?_⟩
      rw [settings] at sorted ⊢
      constructor
      · intro ok
        cases ok
      · intro absent
        exact congrArg Devices.manager (objects_of_aborted aborted (plan_unselected absent))
      · intro absent
        exact congrArg Devices.monitors
          (objects_of_aborted aborted (brightness_unselected absent))
      · intro _
        rw [planBack_of_aborted aborted, List.mem_reverse]
      · intro _
        exact (levelsBack_of_aborted aborted).trans (levelsBack_iff_reported sorted)
      · exact applied_sublist aborted.taken (List.pairwise_append.mp sorted).1

/-- A brightness, and a plan that no name stands for. -/
def turbo : Profile :=
  ⟨"turbo", "Turbo", "", ⟨[("display.brightness", "50"), ("power.plan", "turbo")], by decide⟩⟩

/-- Two monitors at 30 and at 70, on the balanced plan. -/
def twoMonitors : ManagerState (serviceManager installed) where
  fs := holding turbo
  objects := fun _ => ⟨⟨(errorSuccess, some balanced), fun _ => errorSuccess, []⟩,
    [⟨0, 30, 100, true⟩, ⟨0, 70, 100, true⟩]⟩

/-- The plan stays, and the report names a brightness that is not brought back. -/
theorem switch_on_devices_turbo : ∃ final,
    (serviceManager installed).switchTo "turbo" ⟨writing (activeDoc "turbo"), 0⟩ twoMonitors =
      (.ok ⟨false, "unknown power plan: turbo", ["display.brightness"]⟩, final) ∧
    (powerManager final).activeScheme = (powerManager twoMonitors).activeScheme ∧
    levels final ≠ levels twoMonitors := by
  have loaded : installed.get (holding turbo) "turbo" = .ok (some turbo) :=
    ProfileManager.get_holding (plainStem_installed (by decide) (by decide))
  have law := switch_on_devices twoMonitors loaded ⟨writing (activeDoc "turbo"), 0⟩
  have returned : ∃ final,
      (serviceManager installed).switchTo "turbo" ⟨writing (activeDoc "turbo"), 0⟩ twoMonitors =
        (.ok ⟨false, "unknown power plan: turbo", ["display.brightness"]⟩, final) := by
    have found : (serviceManager installed).store.get twoMonitors.fs "turbo" = .ok (some turbo) :=
      loaded
    rw [ProfileManager.switchTo, found]
    exact ⟨_, rfl⟩
  obtain ⟨final, switched⟩ := returned
  obtain ⟨result, final', switched', law⟩ := law
  cases switched.symm.trans switched'
  refine ⟨final, switched, (law.planBack rfl).mpr fun reported => ?_, fun same => ?_⟩
  · exact absurd reported (by decide)
  · have recoverable := (law.levelsBack rfl).mp same "50" List.mem_cons_self List.mem_cons_self
    have kept := recoverable 50 (by decide) ⟨0, 30, 100, true⟩ rfl ⟨0, 70, 100, true⟩
      (List.mem_cons_of_mem _ List.mem_cons_self)
    rw [PhysicalMonitor.kept_iff] at kept
    exact absurd kept (by decide)

end HWPanel.Executors
