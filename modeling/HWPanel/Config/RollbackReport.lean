import HWPanel.Config.Transaction

/-!
# When the rollback report is true

`SwitchTo` reports a key as rolled back without looking at the result of the restoring
`Apply`, and restores an unreadable snapshot like any other. The report of a failed
call is true exactly when every setting it had applied could be restored.
-/

namespace HWPanel.Config

open HWPanel.Core
open HWPanel.Library
open HWPanel.Platform

variable {S : Type}

namespace ProfileManager

/-- The `Apply` calls made since then. -/
def callsSince {manager : ProfileManager S} (before final : ManagerState manager) :
    List ApplyCall :=
  final.calls.drop before.calls.length

/-- The rolled back keys are those of the executors that were applied and are back at
their values, and no unreadable snapshot was applied. -/
structure TruthfulReport {manager : ProfileManager S}
    (live : Fin manager.executors.length → S → String) (before final : ManagerState manager)
    (result : SwitchResult) : Prop where
  listed (key : String) : key ∈ result.rolledBackKeys ↔
    ∃ i, manager.findExecutor key = some i ∧
      (∃ value, .desired i value true ∈ callsSince before final) ∧
      live i (final.objects i) = live i (before.objects i)
  readable (i : Nat) (value : String) (ok : Bool) :
    .restore i value ok ∈ callsSince before final → value ≠ ""

/-- If the executor accepts the setting, its snapshot can be read, and is applied again
successfully or was never changed. -/
def undoable (manager : ProfileManager S) (live : Fin manager.executors.length → S → String)
    (objects : Fin manager.executors.length → S) (setting : String × String) : Bool :=
  match manager.findExecutor setting.1 with
  | none => true
  | some i =>
      match (manager.executors.get i).attempt setting.2 (objects i) with
      | .unavailable _ => true
      | .failed _ _ => true
      | .applied previous object =>
          previous ≠ "" && (((manager.executors.get i).apply previous object).1.ok ||
            setting.2 = live i (objects i))

variable {manager : ProfileManager S} {live : Fin manager.executors.length → S → String}
  {before final : ManagerState manager} {steps : List (Step manager)}
  {failing : String × String}

theorem Step.From.undoable {objects : Fin manager.executors.length → S} {step : Step manager}
    (taken : step.From objects) : manager.undoable live objects step.setting = true ↔
      step.previous ≠ "" ∧ (step.restore.1.ok = true ∨
        step.setting.2 = live step.executor (objects step.executor)) := by
  rw [ProfileManager.undoable, taken.found]
  simp only [taken.attempted]
  rw [Bool.and_eq_true, Bool.or_eq_true, decide_eq_true_iff, decide_eq_true_iff]
  rfl

theorem Aborted.callsSince_eq (aborted : Aborted before steps failing final) :
    ∃ refusals, (∀ call ∈ refusals, ∃ i, call = .desired i failing.2 false) ∧
      callsSince before final =
        steps.map (·.desiredCall) ++ refusals ++ steps.reverse.map (·.restoreCall) := by
  rcases aborted.calls with ⟨refusals, areRefusals, calls⟩
  refine ⟨refusals, areRefusals, ?_⟩
  rw [callsSince, calls, List.drop_left]

theorem Aborted.mem_desired (aborted : Aborted before steps failing final)
    (i : Fin manager.executors.length) :
    (∃ value, .desired i value true ∈ callsSince before final) ↔
      ∃ step ∈ steps, step.executor = i := by
  rcases aborted.callsSince_eq with ⟨refusals, areRefusals, calls⟩
  rw [calls]
  constructor
  · intro applied
    rcases applied with ⟨value, membership⟩
    rcases List.mem_append.mp membership with loop | undone
    · rcases List.mem_append.mp loop with desired | refused
      · rcases List.mem_map.mp desired with ⟨step, stepMem, same⟩
        rw [Step.desiredCall, ApplyCall.desired.injEq] at same
        exact ⟨step, stepMem, Fin.ext same.1⟩
      · rcases areRefusals _ refused with ⟨j, same⟩
        cases same
    · rcases List.mem_map.mp undone with ⟨step, -, same⟩
      cases same
  · intro applied
    rcases applied with ⟨step, stepMem, rfl⟩
    exact ⟨step.setting.2, List.mem_append_left _ (List.mem_append_left _
      (List.mem_map_of_mem stepMem))⟩

theorem Aborted.mem_restore (aborted : Aborted before steps failing final)
    (i : Nat) (value : String) (ok : Bool) :
    .restore i value ok ∈ callsSince before final ↔
      ∃ step ∈ steps, step.restoreCall = .restore i value ok := by
  rcases aborted.callsSince_eq with ⟨refusals, areRefusals, calls⟩
  rw [calls]
  constructor
  · intro membership
    rcases List.mem_append.mp membership with loop | undone
    · rcases List.mem_append.mp loop with desired | refused
      · rcases List.mem_map.mp desired with ⟨step, -, same⟩
        cases same
      · rcases areRefusals _ refused with ⟨j, same⟩
        cases same
    · rcases List.mem_map.mp undone with ⟨step, stepMem, same⟩
      exact ⟨step, List.mem_reverse.mp stepMem, same⟩
  · intro restored
    rcases restored with ⟨step, stepMem, same⟩
    rw [← same]
    exact List.mem_append_right _ (List.mem_map_of_mem (List.mem_reverse.mpr stepMem))

/-- An executor is back at its value if its snapshot was applied, or if it was given that
value in the first place. -/
theorem Aborted.live_step_iff (aborted : Aborted before steps failing final)
    (contract : ∀ i, (manager.executors.get i).Contract (live i)) {step : Step manager}
    (stepMem : step ∈ steps) (readable : step.previous ≠ "") :
    live step.executor (final.objects step.executor) =
        live step.executor (before.objects step.executor) ↔
      step.restore.1.ok = true ∨
        step.setting.2 = live step.executor (before.objects step.executor) := by
  have applied := (contract step.executor).applied (aborted.taken step stepMem).attempted
  have snapshot : step.previous = live step.executor (before.objects step.executor) :=
    applied.2.resolve_left readable
  rw [aborted.restored step stepMem]
  cases restored : step.restore.1.ok with
  | true =>
      have back : live step.executor step.restore.2 = step.previous :=
        (contract step.executor).apply_ok _ _ restored
      rw [back]
      exact ⟨fun _ => .inl rfl, fun _ => snapshot⟩
  | false =>
      have kept : live step.executor step.restore.2 = step.setting.2 :=
        ((contract step.executor).apply_failed _ _ restored).trans applied.1
      rw [kept]
      exact ⟨.inr, fun either => either.resolve_left Bool.false_ne_true⟩

theorem Aborted.truthful_iff (aborted : Aborted before steps failing final)
    (contract : ∀ i, (manager.executors.get i).Contract (live i)) (message : String) :
    TruthfulReport live before final
        ⟨false, message, (steps.map (·.setting.1)).reverse⟩ ↔
      ∀ step ∈ steps, manager.undoable live before.objects step.setting = true := by
  constructor
  · intro truthful step stepMem
    have taken := aborted.taken step stepMem
    have readable : step.previous ≠ "" := by
      apply truthful.readable step.executor step.previous step.restore.1.ok
      exact (aborted.mem_restore _ _ _).mpr ⟨step, stepMem, rfl⟩
    have listed : step.setting.1 ∈ (steps.map (·.setting.1)).reverse :=
      List.mem_reverse.mpr (List.mem_map_of_mem stepMem)
    rcases (truthful.listed step.setting.1).mp listed with ⟨i, found, -, back⟩
    cases Option.some.inj (taken.found.symm.trans found)
    exact taken.undoable.mpr ⟨readable, (aborted.live_step_iff contract stepMem readable).mp back⟩
  · intro undoable
    constructor
    · intro key
      rw [List.mem_reverse]
      constructor
      · intro listed
        rcases List.mem_map.mp listed with ⟨step, stepMem, rfl⟩
        have taken := aborted.taken step stepMem
        rcases taken.undoable.mp (undoable step stepMem) with ⟨readable, back⟩
        exact ⟨step.executor, taken.found, (aborted.mem_desired _).mpr ⟨step, stepMem, rfl⟩,
          (aborted.live_step_iff contract stepMem readable).mpr back⟩
      · intro applied
        rcases applied with ⟨i, found, desired, -⟩
        rcases (aborted.mem_desired i).mp desired with ⟨step, stepMem, rfl⟩
        have key_eq := (aborted.taken step stepMem).key_eq
        rw [key_of_findExecutor found] at key_eq
        exact List.mem_map.mpr ⟨step, stepMem, key_eq.symm⟩
    · intro i value ok restored
      rcases (aborted.mem_restore i value ok).mp restored with ⟨step, stepMem, same⟩
      cases same
      exact ((aborted.taken step stepMem).undoable.mp (undoable step stepMem)).1

/-- The report of a failed call is true if and only if every setting applied before the
failure can be undone. -/
theorem rollback_truthful_iff {result : SwitchResult} {id : String} {io : SwitchIO}
    (contract : ∀ i, (manager.executors.get i).Contract (live i))
    (switched : manager.switchTo id io before = (.ok result, final))
    (failed : result.ok = false) :
    TruthfulReport live before final result ↔
      ∀ profile, manager.store.get before.fs id = .ok (some profile) →
        ∀ setting ∈ profile.settings.entries.takeWhile (manager.accepts before.objects),
          manager.undoable live before.objects setting = true := by
  have outcome := switchTo_outcome before id io
  rw [switched] at outcome
  cases outcome with
  | notFound missing =>
      have noCalls : callsSince final final = [] := List.drop_length
      constructor
      · intro _ profile loaded
        rw [missing] at loaded
        cases loaded
      · intro _
        constructor
        · intro key
          rw [noCalls]
          simp
        · intro i value ok restored
          rw [noCalls] at restored
          cases restored
  | applied => cases failed
  | failed profile steps failing later message final loaded settings aborted =>
      rw [aborted.truthful_iff contract]
      constructor
      · intro undoable other otherLoaded setting membership
        cases loaded.symm.trans otherLoaded
        rw [settings, aborted.takeWhile] at membership
        rcases List.mem_map.mp membership with ⟨step, stepMem, rfl⟩
        exact undoable step stepMem
      · intro undoable step stepMem
        apply undoable profile loaded
        rw [settings, aborted.takeWhile]
        exact List.mem_map_of_mem stepMem

/-- Both executors can be read and set back, and the report is true. -/
theorem rollback_truthful_iff_failing :
    ∃ final, fakeManager.switchTo "night" ⟨writing (activeDoc "night"), 0⟩ failingPlan =
        (.ok ⟨false, "injected failure", ["display.brightness"]⟩, final) ∧
      TruthfulReport (fun _ => FakeDevice.value) failingPlan final
        ⟨false, "injected failure", ["display.brightness"]⟩ := by
  have contract : ∀ i, (fakeManager.executors.get i).Contract FakeDevice.value :=
    fun i => (fakeManager_restorable i).toContract
  rcases failingPlan_switched with ⟨final, switched⟩
  refine ⟨final, switched, (rollback_truthful_iff contract switched rfl).mpr ?_⟩
  intro profile loaded setting membership
  cases night_loaded.symm.trans loaded
  have undoable : ∀ setting ∈ night.settings.entries, fakeManager.undoable
      (fun _ => FakeDevice.value) failingPlan.objects setting = true := by
    decide
  exact undoable setting (List.takeWhile_subset _ membership)

/-! ## An unreadable snapshot -/

/-- An executor that is available and accepts values, but cannot be read. -/
def unreadableExecutor (key : String) : IExecutor FakeDevice :=
  { fakeExecutor key with currentValue := fun device => ("", device) }

theorem unreadableExecutor_contract (key : String) :
    (unreadableExecutor key).Contract FakeDevice.value := by
  have contract := (fakeExecutor_restorable key).toContract
  constructor
  · exact contract.available_live
  · intro device
    rfl
  · intro device
    exact .inl rfl
  · exact contract.apply_failed
  · exact contract.apply_ok

def unreadableManager : ProfileManager FakeDevice :=
  ⟨installed, [unreadableExecutor "display.brightness", fakeExecutor "power.plan"]⟩

def unreadableBrightness : ManagerState unreadableManager where
  fs := holding night
  objects := fun i => { failOnApply := i.val = 1 }

/-- The empty text is applied to the unreadable executor and its key reported. -/
theorem unreadable_snapshot_restored :
    (∀ i, (unreadableManager.executors.get i).Contract FakeDevice.value) ∧
    ∃ final, unreadableManager.switchTo "night" ⟨writing (activeDoc "night"), 0⟩
        unreadableBrightness =
        (.ok ⟨false, "injected failure", ["display.brightness"]⟩, final) ∧
      (unreadableBrightness.objects (0 : Fin 2)).value = "initial" ∧
      (final.objects (0 : Fin 2)).value = "" ∧
      ¬ TruthfulReport (fun _ => FakeDevice.value) unreadableBrightness final
        ⟨false, "injected failure", ["display.brightness"]⟩ := by
  have executed : ∃ final, unreadableManager.switchTo "night"
      ⟨writing (activeDoc "night"), 0⟩ unreadableBrightness =
        (.ok ⟨false, "injected failure", ["display.brightness"]⟩, final) ∧
      (final.objects (0 : Fin 2)).value = "" ∧ final.calls =
        [.desired 0 "30" true, .desired 1 "saver" false, .restore 0 "" true] := by
    have loaded : unreadableManager.store.get unreadableBrightness.fs "night" =
        .ok (some night) := night_loaded
    rw [switchTo, loaded]
    exact ⟨_, rfl, rfl, rfl⟩
  constructor
  · intro i
    rcases List.mem_pair.mp (List.get_mem unreadableManager.executors i) with first | second
    · rw [first]
      exact unreadableExecutor_contract _
    · rw [second]
      exact (fakeExecutor_restorable _).toContract
  · rcases executed with ⟨final, switched, restored, calls⟩
    refine ⟨final, switched, rfl, restored, ?_⟩
    intro truthful
    apply truthful.readable 0 "" true
    · rw [callsSince, calls]
      exact List.mem_cons_of_mem _ (List.mem_cons_of_mem _ List.mem_cons_self)
    · rfl

end ProfileManager

end HWPanel.Config
