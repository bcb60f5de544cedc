import HWPanel.Config.Transaction
import HWPanel.Core.StoreEffects

/-!
# The result of a switch and the active id on disk

`SetActiveId` hands no result back, so `SwitchTo` returns ok whether or not the active
id was written.
-/

namespace HWPanel.Config

open HWPanel.Core
open HWPanel.Library
open HWPanel.Platform

variable {S : Type} {manager : ProfileManager S}

namespace ProfileManager

/-- The file operations of `SetActiveId` succeed for this id. -/
def Persists (manager : ProfileManager S) (id : String) (io : SwitchIO) : Prop :=
  io.write.Succeeds (manager.store.codec.dump (activeDoc id)).length

/-- The profile can be loaded and all its settings are accepted. -/
def Appliable (before : ManagerState manager) (id : String) : Prop :=
  ∃ profile, manager.store.get before.fs id = .ok (some profile) ∧
    ∀ setting ∈ profile.settings.entries, manager.accepts before.objects setting = true

/-- An ok result means that the active id is the one requested, and that it was written. -/
structure Agreement (id : String) (io : SwitchIO)
    (outcome : Except StoreError SwitchResult × ManagerState manager) : Prop where
  active (result : SwitchResult) : outcome.1 = .ok result → result.ok = true →
    manager.activeId outcome.2 = id
  persisted (result : SwitchResult) : ¬ manager.Persists id io → outcome.1 = .ok result →
    result.ok = false

variable {before : ManagerState manager} {id : String} {io : SwitchIO}

/-- A call ends with ok exactly when the profile can be applied. -/
theorem switchTo_ok_iff :
    (∃ result, (manager.switchTo id io before).1 = .ok result ∧ result.ok = true) ↔
      Appliable before id := by
  have outcome := switchTo_outcome before id io
  cases call : manager.switchTo id io before with
  | mk result final =>
      rw [call] at outcome
      cases outcome with
      | thrown error unreadable =>
          constructor
          · intro succeeded
            rcases succeeded with ⟨_, returned, -⟩
            cases returned
          · intro appliable
            rcases appliable with ⟨profile, loaded, -⟩
            cases unreadable.symm.trans loaded
      | notFound missing =>
          constructor
          · intro succeeded
            rcases succeeded with ⟨_, returned, ok⟩
            cases returned
            cases ok
          · intro appliable
            rcases appliable with ⟨profile, loaded, -⟩
            cases missing.symm.trans loaded
      | applied profile steps state loaded settings progress =>
          constructor
          · intro _
            refine ⟨profile, loaded, ?_⟩
            rw [← settings]
            intro setting membership
            rcases List.mem_map.mp membership with ⟨step, stepMem, rfl⟩
            exact (progress.taken step stepMem).accepts
          · intro _
            exact ⟨_, rfl, rfl⟩
      | failed profile steps failing later message final loaded settings aborted =>
          constructor
          · intro succeeded
            rcases succeeded with ⟨_, returned, ok⟩
            cases returned
            cases ok
          · intro appliable
            rcases appliable with ⟨other, otherLoaded, accepted⟩
            cases loaded.symm.trans otherLoaded
            have failingMem : failing ∈ profile.settings.entries := by
              rw [settings]
              exact List.mem_append_right _ List.mem_cons_self
            have refused := aborted.refused
            rw [accepted failing failingMem] at refused
            cases refused

/-- After an ok result, the active id is what the write left. -/
theorem activeId_of_ok {result : SwitchResult}
    (returned : (manager.switchTo id io before).1 = .ok result) (ok : result.ok = true) :
    manager.activeId (manager.switchTo id io before).2 =
      manager.store.activeId (manager.store.setActiveId before.fs id io.write) := by
  have outcome := switchTo_outcome before id io
  cases call : manager.switchTo id io before with
  | mk _ final =>
      rw [call] at outcome returned
      cases outcome with
      | thrown error unreadable => cases returned
      | notFound missing =>
          cases returned
          cases ok
      | applied profile steps state loaded settings progress => rfl
      | failed profile steps failing later message final loaded settings aborted =>
          cases returned
          cases ok

/-- After an ok result whose active id was written, that is the active id. -/
theorem activeId_of_persisted (faithful : manager.store.codec.Faithful)
    (persists : manager.Persists id io) {result : SwitchResult}
    (returned : (manager.switchTo id io before).1 = .ok result) (ok : result.ok = true) :
    manager.activeId (manager.switchTo id io before).2 = id := by
  rw [activeId_of_ok returned ok]
  exact ProfileStore.activeId_setActiveId faithful before.fs persists

/-- The result agrees with the active id on disk if and only if the active id is written
or the profile cannot be applied. -/
theorem agreement_iff (faithful : manager.store.codec.Faithful) (before : ManagerState manager)
    (id : String) (io : SwitchIO) :
    Agreement id io (manager.switchTo id io before) ↔
      manager.Persists id io ∨ ¬ Appliable before id := by
  constructor
  · intro agreement
    by_cases persists : manager.Persists id io
    · exact .inl persists
    · apply Or.inr
      intro appliable
      rcases switchTo_ok_iff.mpr appliable with ⟨result, returned, ok⟩
      have failed := agreement.persisted result persists returned
      rw [ok] at failed
      cases failed
  · intro condition
    constructor
    · intro result returned ok
      have persists := condition.resolve_right
        (not_not_intro (switchTo_ok_iff.mp ⟨result, returned, ok⟩))
      exact activeId_of_persisted faithful persists returned ok
    · intro result lost returned
      have notAppliable := condition.resolve_left lost
      rw [← Bool.not_eq_true]
      exact fun ok => notAppliable (switchTo_ok_iff.mp ⟨result, returned, ok⟩)

/-! ## A lost active id -/

/-- Both executors accept the profile. -/
def acceptingPlan : ManagerState fakeManager where
  fs := holding night
  objects := fun _ => {}

theorem agreement_iff_written :
    Agreement "night" ⟨writing (activeDoc "night"), 0⟩
      (fakeManager.switchTo "night" ⟨writing (activeDoc "night"), 0⟩ acceptingPlan) := by
  have faithful : fakeManager.store.codec.Faithful := JsonText.codec_faithful
  have persists : fakeManager.Persists "night" ⟨writing (activeDoc "night"), 0⟩ :=
    writing_succeeds (activeDoc "night")
  exact (agreement_iff faithful acceptingPlan "night" _).mpr (.inl persists)

/-- The temporary file cannot be opened. -/
def unopened : SwitchIO := ⟨⟨false, 0, false⟩, 0⟩

/-- The switch returns ok and no active id is on disk. -/
theorem unwritten_switch_returns_ok :
    ∃ final, fakeManager.switchTo "night" unopened acceptingPlan = (.ok ⟨true, "ok", []⟩, final) ∧
      ¬ fakeManager.Persists "night" unopened ∧ fakeManager.activeId final = "" ∧
      ¬ Agreement "night" unopened (fakeManager.switchTo "night" unopened acceptingPlan) := by
  have loaded : fakeManager.store.get acceptingPlan.fs "night" = .ok (some night) := night_loaded
  have executed : ∃ final, fakeManager.switchTo "night" unopened acceptingPlan =
      (.ok ⟨true, "ok", []⟩, final) ∧ final.fs = holding night := by
    rw [switchTo, loaded]
    exact ⟨_, rfl, rfl⟩
  have unset : installed.activeId (holding night) = "" := by
    have absent : (holding night).find? (installed.file "active.json") = none := by
      rw [holding, FileSystem.find?_put (installed.canHold_json night_plain),
        if_neg (by decide)]
      rfl
    exact ProfileStore.activeId_of_absent absent
  have lost : ¬ fakeManager.Persists "night" unopened := by
    intro persists
    cases persists.1
  rcases executed with ⟨final, switched, sameFiles⟩
  have active : fakeManager.activeId final = "" := by
    rw [activeId, sameFiles]
    exact unset
  refine ⟨final, switched, lost, active, ?_⟩
  intro agreement
  have failed := agreement.persisted ⟨true, "ok", []⟩ lost (by rw [switched])
  cases failed

end ProfileManager

end HWPanel.Config
