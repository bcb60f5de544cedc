import HWPanel.Config.SwitchOutcome
import HWPanel.Core.Installation

/-!
# A switch is a transaction

What an executor promises, and the law of `SwitchTo` under that promise: a call that
returns ok leaves every executor of the profile at the desired value, any other call
leaves every executor and the active id as they were.
-/

namespace HWPanel.Config

open HWPanel.Core
open HWPanel.Library
open HWPanel.Platform

variable {S : Type}

/-- The interface of an executor with a live value: `CurrentValue` reads it or gives
`""`, a successful `Apply` sets it, and nothing else changes it. -/
structure IExecutor.Contract (executor : IExecutor S) (live : S → String) : Prop where
  available_live (object : S) : live (executor.available object).2 = live object
  currentValue_live (object : S) : live (executor.currentValue object).2 = live object
  currentValue_reads (object : S) : (executor.currentValue object).1 = "" ∨
    (executor.currentValue object).1 = live object
  apply_failed (value : String) (object : S) : (executor.apply value object).1.ok = false →
    live (executor.apply value object).2 = live object
  apply_ok (value : String) (object : S) : (executor.apply value object).1.ok = true →
    live (executor.apply value object).2 = value

/-- An executor that can always be read, and set back to what was read. -/
structure IExecutor.Restorable (executor : IExecutor S) (live : S → String) : Prop
    extends executor.Contract live where
  readable (object : S) : (executor.currentValue object).1 = live object
  restores (desired : String) (object : S) :
    (executor.apply desired (executor.currentValue object).2).1.ok = true →
      (executor.apply (executor.currentValue object).1
        (executor.apply desired (executor.currentValue object).2).2).1.ok = true

namespace IExecutor

variable {executor : IExecutor S} {live : S → String} {desired previous : String}
  {object after : S}

theorem attempt_unavailable (unavailable : (executor.available object).1 = false) :
    executor.attempt desired object = .unavailable (executor.available object).2 := by
  simp [attempt, unavailable]

theorem attempt_available (available : (executor.available object).1 = true) :
    executor.attempt desired object =
      if (executor.apply desired
          (executor.currentValue (executor.available object).2).2).1.ok = true then
        .applied (executor.currentValue (executor.available object).2).1 (executor.apply desired
          (executor.currentValue (executor.available object).2).2).2
      else .failed (executor.apply desired
          (executor.currentValue (executor.available object).2).2).1.message
        (executor.apply desired (executor.currentValue (executor.available object).2).2).2 := by
  simp [attempt, available]

/-- What an attempt that applies the value did. -/
theorem attempt_applied (attempted : executor.attempt desired object = .applied previous after) :
    previous = (executor.currentValue (executor.available object).2).1 ∧
      (executor.apply desired (executor.currentValue (executor.available object).2).2).1.ok =
        true ∧
      after =
        (executor.apply desired (executor.currentValue (executor.available object).2).2).2 := by
  cases available : (executor.available object).1 with
  | false =>
      rw [attempt_unavailable available] at attempted
      cases attempted
  | true =>
      rw [attempt_available available] at attempted
      split at attempted
      · rename_i ok
        cases attempted
        exact ⟨rfl, ok, rfl⟩
      · cases attempted

namespace Contract

theorem applied (contract : executor.Contract live)
    (attempted : executor.attempt desired object = .applied previous after) :
    live after = desired ∧ (previous = "" ∨ previous = live object) := by
  rcases attempt_applied attempted with ⟨rfl, ok, rfl⟩
  constructor
  · exact contract.apply_ok _ _ ok
  · rw [← contract.available_live object]
    exact contract.currentValue_reads _

/-- An attempt that does not apply the value changes nothing. -/
theorem refused (contract : executor.Contract live)
    (refused : ∀ previous after, executor.attempt desired object ≠ .applied previous after) :
    live (executor.attempt desired object).object = live object := by
  cases available : (executor.available object).1 with
  | false =>
      rw [attempt_unavailable available]
      exact contract.available_live object
  | true =>
      rw [attempt_available available] at refused ⊢
      split
      · rename_i ok
        rw [if_pos ok] at refused
        exact absurd rfl (refused _ _)
      · rename_i failed
        rw [Bool.not_eq_true] at failed
        exact (contract.apply_failed _ _ failed).trans
          ((contract.currentValue_live _).trans (contract.available_live object))

end Contract

/-- The snapshot of an applied value can be applied again. -/
theorem Restorable.restored (restorable : executor.Restorable live)
    (attempted : executor.attempt desired object = .applied previous after) :
    previous = live object ∧ live (executor.apply previous after).2 = live object := by
  rcases attempt_applied attempted with ⟨rfl, ok, rfl⟩
  have snapshot := (restorable.readable (executor.available object).2).trans
    (restorable.available_live object)
  refine ⟨snapshot, ?_⟩
  rw [restorable.apply_ok _ _ (restorable.restores desired _ ok)]
  exact snapshot

end IExecutor

namespace ProfileManager

variable {manager : ProfileManager S}

/-- A setting that is not accepted leaves its executor as it was. -/
theorem refused_live {live : Fin manager.executors.length → S → String}
    (contract : ∀ i, (manager.executors.get i).Contract (live i))
    {objects : Fin manager.executors.length → S} {setting : String × String}
    (refused : manager.accepts objects setting = false) {i : Fin manager.executors.length}
    (found : manager.findExecutor setting.1 = some i) :
    live i ((manager.executors.get i).attempt setting.2 (objects i)).object =
      live i (objects i) := by
  apply (contract i).refused
  intro previous after attempted
  rw [accepts, found] at refused
  simp only [attempted] at refused
  cases refused

/-- The keys of the executors that were given a desired value, in order. -/
def appliedKeys (manager : ProfileManager S) (calls : List ApplyCall) : List String :=
  calls.filterMap fun call =>
    match call with
    | .desired i _ true => manager.executors[i]?.map (·.key)
    | _ => none

/-- The profile is in force: its settings, and as the active one. -/
structure Committed (live : Fin manager.executors.length → S → String)
    (before final : ManagerState manager) (id : String) (settings : List (String × String))
    (result : SwitchResult) : Prop where
  selected : ∀ setting ∈ settings, ∃ i, manager.findExecutor setting.1 = some i ∧
    live i (final.objects i) = setting.2
  others : ∀ j, (∀ setting ∈ settings, manager.findExecutor setting.1 ≠ some j) →
    final.objects j = before.objects j
  activeId : manager.activeId final = id
  rolled : result.rolledBackKeys = []

/-- Nothing is in force that was not before, and the report lists what was undone. -/
structure RolledBack (live : Fin manager.executors.length → S → String)
    (before final : ManagerState manager) (result : SwitchResult) : Prop where
  live : ∀ j, live j (final.objects j) = live j (before.objects j)
  activeId : manager.activeId final = manager.activeId before
  rolled : ∃ made, final.calls = before.calls ++ made ∧
    result.rolledBackKeys = (manager.appliedKeys made).reverse

/-- The law of one call. A profile that cannot be read ends it with an exception. -/
structure TransactionLaw (live : Fin manager.executors.length → S → String)
    (before : ManagerState manager) (id : String)
    (outcome : Except StoreError SwitchResult × ManagerState manager) : Prop where
  thrown (error : StoreError) : outcome.1 = .error error → outcome.2 = before
  committed (result : SwitchResult) : outcome.1 = .ok result → result.ok = true →
    ∃ profile, manager.store.get before.fs id = .ok (some profile) ∧
      Committed live before outcome.2 id profile.settings.entries result
  rolledBack (result : SwitchResult) : outcome.1 = .ok result → result.ok = false →
    RolledBack live before outcome.2 result

@[simp] theorem appliedKeys_append (first second : List ApplyCall) :
    manager.appliedKeys (first ++ second) =
      manager.appliedKeys first ++ manager.appliedKeys second :=
  List.filterMap_append

theorem appliedKeys_desired {objects : Fin manager.executors.length → S}
    {steps : List (Step manager)} (taken : ∀ step ∈ steps, step.From objects) :
    manager.appliedKeys (steps.map (·.desiredCall)) = steps.map (·.setting.1) := by
  induction steps with
  | nil => rfl
  | cons step rest ih =>
      have key := (taken step List.mem_cons_self).key_eq
      have later := ih fun other membership => taken other (List.mem_cons_of_mem _ membership)
      have one : manager.appliedKeys [step.desiredCall] = [step.setting.1] := by
        simp [appliedKeys, Step.desiredCall, ← key]
      rw [List.map_cons, List.map_cons, ← List.singleton_append, appliedKeys_append, one, later]
      rfl

@[simp] theorem appliedKeys_refusals {value : String} {refusals : List ApplyCall}
    (areRefusals : ∀ call ∈ refusals, ∃ i, call = .desired i value false) :
    manager.appliedKeys refusals = [] := by
  apply List.filterMap_eq_nil_iff.mpr
  intro call membership
  rcases areRefusals call membership with ⟨i, rfl⟩
  rfl

@[simp] theorem appliedKeys_restores (steps : List (Step manager)) :
    manager.appliedKeys (steps.map (·.restoreCall)) = [] := by
  apply List.filterMap_eq_nil_iff.mpr
  intro call membership
  rcases List.mem_map.mp membership with ⟨step, -, rfl⟩
  rfl

/-! ## One call -/

section

variable {live : Fin manager.executors.length → S → String}
  {before state : ManagerState manager} {steps : List (Step manager)}

theorem Progress.selected (progress : Progress before steps state)
    (contract : ∀ i, (manager.executors.get i).Contract (live i)) :
    ∀ setting ∈ steps.map (·.setting), ∃ i, manager.findExecutor setting.1 = some i ∧
      live i (state.objects i) = setting.2 := by
  intro setting membership
  rcases List.mem_map.mp membership with ⟨step, stepMem, rfl⟩
  have taken := progress.taken step stepMem
  refine ⟨step.executor, taken.found, ?_⟩
  rw [progress.reached step stepMem]
  exact ((contract step.executor).applied taken.attempted).1

theorem Progress.others (progress : Progress before steps state)
    {j : Fin manager.executors.length}
    (notSelected : ∀ setting ∈ steps.map (·.setting), manager.findExecutor setting.1 ≠ some j) :
    state.objects j = before.objects j := by
  apply progress.untouched
  intro membership
  rcases List.mem_map.mp membership with ⟨step, stepMem, rfl⟩
  exact notSelected step.setting (List.mem_map_of_mem stepMem) (progress.taken step stepMem).found

/-- Where a failed call leaves an executor it has not applied. -/
theorem Aborted.live_other {failing : String × String}
    (aborted : Aborted before steps failing state)
    (contract : ∀ i, (manager.executors.get i).Contract (live i))
    {j : Fin manager.executors.length} (notApplied : j ∉ steps.map (·.executor)) :
    live j (state.objects j) = live j (before.objects j) := by
  by_cases found : manager.findExecutor failing.1 = some j
  · rw [aborted.attempted j found]
    exact refused_live contract aborted.refused found
  · rw [aborted.untouched j notApplied found]

theorem Aborted.live_eq {failing : String × String}
    (aborted : Aborted before steps failing state)
    (restorable : ∀ i, (manager.executors.get i).Restorable (live i))
    (j : Fin manager.executors.length) :
    live j (state.objects j) = live j (before.objects j) := by
  by_cases applied : j ∈ steps.map (·.executor)
  · rcases List.mem_map.mp applied with ⟨step, stepMem, rfl⟩
    rw [aborted.restored step stepMem]
    exact ((restorable step.executor).restored (aborted.taken step stepMem).attempted).2
  · exact aborted.live_other (fun i => (restorable i).toContract) applied

theorem Aborted.appliedKeys {failing : String × String}
    (aborted : Aborted before steps failing state) :
    ∃ made, state.calls = before.calls ++ made ∧
      manager.appliedKeys made = steps.map (·.setting.1) := by
  rcases aborted.calls with ⟨refusals, areRefusals, calls⟩
  refine ⟨_, calls, ?_⟩
  rw [appliedKeys_append, appliedKeys_append, appliedKeys_desired aborted.taken,
    appliedKeys_refusals areRefusals, appliedKeys_restores, List.append_nil, List.append_nil]

/-- Where the loop has applied all settings, the profile is in force. -/
theorem Progress.committed {id : String} {io : SwitchIO}
    (progress : Progress before steps state) (name : String)
    (contract : ∀ i, (manager.executors.get i).Contract (live i))
    (faithful : manager.store.codec.Faithful)
    (persisted : io.write.Succeeds (manager.store.codec.dump (activeDoc id)).length) :
    Committed live before
      ({ state with fs := manager.store.setActiveId before.fs id io.write }.publishNow io.now
        "info" "Profile applied" name)
      id (steps.map (·.setting)) ⟨true, "ok", []⟩ := by
  constructor
  · exact progress.selected contract
  · intro j notSelected
    exact progress.others notSelected
  · exact ProfileStore.activeId_setActiveId faithful before.fs persisted
  · rfl

/-- Where the loop has failed, everything is as before. -/
theorem Aborted.rolledBack {failing : String × String}
    (aborted : Aborted before steps failing state)
    (restorable : ∀ i, (manager.executors.get i).Restorable (live i)) (message : String) :
    RolledBack live before state ⟨false, message, (steps.map (·.setting.1)).reverse⟩ := by
  constructor
  · exact aborted.live_eq restorable
  · rw [activeId, activeId, aborted.fs]
  · rcases aborted.appliedKeys with ⟨made, calls, keys⟩
    exact ⟨made, calls, by rw [keys]⟩

theorem rolledBack_unchanged (live : Fin manager.executors.length → S → String)
    (state : ManagerState manager) (message : String) :
    RolledBack live state state ⟨false, message, []⟩ := by
  constructor
  · intro j
    rfl
  · rfl
  · exact ⟨[], (List.append_nil _).symm, rfl⟩

theorem transactionLaw_of_failed {id message : String} {keys : List String}
    (rolledBack : RolledBack live before state ⟨false, message, keys⟩) :
    TransactionLaw live before id (.ok ⟨false, message, keys⟩, state) := by
  constructor
  · intro error thrown
    cases thrown
  · intro result returned ok
    cases returned
    cases ok
  · intro result returned _
    cases returned
    exact rolledBack

end

/-- Whatever was called before and however it ended, the next call obeys the law. -/
theorem switch_transaction {live : Fin manager.executors.length → S → String}
    (restorable : ∀ i, (manager.executors.get i).Restorable (live i))
    (faithful : manager.store.codec.Faithful) (initial : ManagerState manager)
    (earlier : List (String × SwitchIO)) (id : String) (io : SwitchIO)
    (persisted : io.write.Succeeds (manager.store.codec.dump (activeDoc id)).length) :
    TransactionLaw live (manager.switchAll earlier initial) id
      (manager.switchTo id io (manager.switchAll earlier initial)) := by
  generalize manager.switchAll earlier initial = before
  have outcome := switchTo_outcome before id io
  cases call : manager.switchTo id io before with
  | mk result final =>
      rw [call] at outcome
      cases outcome with
      | thrown error unreadable =>
          constructor
          · intro _ _
            rfl
          · intro result returned
            cases returned
          · intro result returned
            cases returned
      | notFound missing => exact transactionLaw_of_failed (rolledBack_unchanged live final _)
      | applied profile steps state loaded settings progress =>
          have contract : ∀ i, (manager.executors.get i).Contract (live i) :=
            fun i => (restorable i).toContract
          have committed := progress.committed profile.name contract faithful persisted
          rw [settings] at committed
          constructor
          · intro error thrown
            cases thrown
          · intro result returned _
            cases returned
            exact ⟨profile, loaded, committed⟩
          · intro result returned failed
            cases returned
            cases failed
      | failed profile steps failing later message final loaded settings aborted =>
          exact transactionLaw_of_failed (aborted.rolledBack restorable message)

end ProfileManager

/-- The state of a `FakeExecutor`. -/
structure FakeDevice where
  available : Bool := true
  failOnApply : Bool := false
  value : String := "initial"

/-- `FakeExecutor`. -/
def fakeExecutor (key : String) : IExecutor FakeDevice where
  key := key
  available device := (device.available, device)
  currentValue device := (device.value, device)
  apply desired device :=
    if device.failOnApply then (⟨false, "injected failure"⟩, device)
    else (⟨true, "ok"⟩, { device with value := desired })

theorem fakeExecutor_restorable (key : String) :
    (fakeExecutor key).Restorable FakeDevice.value := by
  constructor
  · constructor
    · intro device
      rfl
    · intro device
      rfl
    · intro device
      exact .inr rfl
    · intro value device failed
      simp only [fakeExecutor] at failed ⊢
      split
      · rfl
      · rename_i accepted
        rw [if_neg accepted] at failed
        cases failed
    · intro value device ok
      simp only [fakeExecutor] at ok ⊢
      split
      · rename_i failing
        rw [if_pos failing] at ok
        cases ok
      · rfl
  · intro device
    rfl
  · intro desired device ok
    cases device with
    | mk available failOnApply value =>
        cases failOnApply with
        | true => cases ok
        | false => rfl

/-- A profile with two settings. -/
def night : Profile :=
  ⟨"night", "Night", "", ⟨[("display.brightness", "30"), ("power.plan", "saver")], by decide⟩⟩

/-- The files of a store that holds this profile only. -/
def holding (profile : Profile) : FileSystem installed.env :=
  FileSystem.empty.put (installed.file (profile.id ++ ".json"))
    (installed.codec.dump (profileDoc profile))

def fakeManager : ProfileManager FakeDevice :=
  ⟨installed, [fakeExecutor "display.brightness", fakeExecutor "power.plan"]⟩

/-- The second executor of the profile fails. -/
def failingPlan : ManagerState fakeManager where
  fs := holding night
  objects := fun i => { failOnApply := i.val = 1 }

namespace ProfileManager

@[simp] theorem get_holding {profile : Profile} (plain : PlainStem installed.env profile.id) :
    installed.get (holding profile) profile.id = .ok (some profile) :=
  ProfileStore.get_put_plain JsonText.codec_faithful FileSystem.empty plain profile

theorem night_plain : PlainStem installed.env night.id :=
  plainStem_installed (by decide) (by decide)

@[simp] theorem night_loaded : installed.get (holding night) "night" = .ok (some night) :=
  get_holding night_plain

theorem fakeManager_restorable (i : Fin fakeManager.executors.length) :
    (fakeManager.executors.get i).Restorable FakeDevice.value := by
  rcases List.mem_pair.mp (List.get_mem fakeManager.executors i) with first | second
  · rw [first]
    exact fakeExecutor_restorable _
  · rw [second]
    exact fakeExecutor_restorable _

theorem failingPlan_switched :
    ∃ final, fakeManager.switchTo "night" ⟨writing (activeDoc "night"), 0⟩ failingPlan =
      (.ok ⟨false, "injected failure", ["display.brightness"]⟩, final) := by
  have loaded : fakeManager.store.get failingPlan.fs "night" = .ok (some night) := night_loaded
  rw [switchTo, loaded]
  exact ⟨_, rfl⟩

/-- The first setting is undone after the second one failed. -/
theorem switch_transaction_failing :
    ∃ final, fakeManager.switchTo "night" ⟨writing (activeDoc "night"), 0⟩ failingPlan =
        (.ok ⟨false, "injected failure", ["display.brightness"]⟩, final) ∧
      RolledBack (fun _ => FakeDevice.value) failingPlan final
        ⟨false, "injected failure", ["display.brightness"]⟩ := by
  have faithful : fakeManager.store.codec.Faithful := JsonText.codec_faithful
  have persisted : (writing (activeDoc "night")).Succeeds
      (fakeManager.store.codec.dump (activeDoc "night")).length :=
    writing_succeeds (activeDoc "night")
  have law := switch_transaction fakeManager_restorable faithful failingPlan [] "night"
    ⟨writing (activeDoc "night"), 0⟩ persisted
  rcases failingPlan_switched with ⟨final, switched⟩
  rw [switchAll, switched] at law
  exact ⟨final, switched, law.rolledBack _ rfl rfl⟩

end ProfileManager

end HWPanel.Config
