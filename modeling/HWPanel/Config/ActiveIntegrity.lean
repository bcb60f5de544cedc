import HWPanel.Config.ListedSwitch
import HWPanel.Core.ActiveReference
import HWPanel.Core.StoreRefinement
import HWPanel.Library.Run

/-!
# The active id over a run

Any sequence of operations on the profiles and of switches: after which of them the active
id still names a profile.
-/

namespace HWPanel.Config

open HWPanel.Core
open HWPanel.Library
open HWPanel.Platform

/-- An operation that adds, replaces, deletes or activates profiles. -/
inductive ManagerOp where
  | ensureDefaults (io : DefaultsIO)
  | save (profile : Profile) (io : WriteIO)
  | remove (id : String)
  | switchTo (id : String) (io : SwitchIO)

variable {S : Type} {manager : ProfileManager S}

namespace ProfileManager

/-- An `EnsureDefaults` that throws has written nothing. -/
def apply (before : ManagerState manager) : ManagerOp → ManagerState manager
  | .ensureDefaults io =>
      match manager.store.ensureDefaults before.fs io with
      | .ok seeded => { before with fs := seeded }
      | .error _ => before
  | .save profile io => { before with fs := (manager.store.save before.fs profile io).2 }
  | .remove id => { before with fs := (manager.store.remove before.fs id true).2 }
  | .switchTo id io => (manager.switchTo id io before).2

def after (start : ManagerState manager) (ops : List ManagerOp) : ManagerState manager :=
  ops.foldl apply start

@[simp] theorem after_snoc (start : ManagerState manager) (past : List ManagerOp) (op : ManagerOp) :
    after start (past ++ [op]) = apply (after start past) op := by
  rw [after, List.foldl_append]
  rfl

/-- The file operations of the call succeed, and the ids it writes are plain. -/
def Regular (manager : ProfileManager S) : ManagerOp → Prop
  | .ensureDefaults io => manager.store.Seeds io
  | .save profile io => PlainStem manager.store.env profile.id ∧
      io.Succeeds (manager.store.codec.dump (profileDoc profile)).length
  | .remove _ => True
  | .switchTo id io => PlainStem manager.store.env id ∧ manager.Persists id io

/-- The call does not remove the file of the active profile, nor does it switch to a profile
that lies in the file of the active id. -/
def KeepsReference (before : ManagerState manager) : ManagerOp → Prop
  | .remove id => manager.activeId before ≠ "" →
      ¬manager.store.SameFile (manager.activeId before) id
  | .switchTo id _ => manager.store.NamesMarker id → ¬Appliable before id
  | _ => True

variable (faithful : manager.store.codec.Faithful)
include faithful

theorem markerWritten_apply {before : ManagerState manager}
    (written : manager.store.MarkerWritten before.fs) {op : ManagerOp}
    (regular : manager.Regular op) : manager.store.MarkerWritten (apply before op).fs := by
  cases op with
  | ensureDefaults io =>
      rw [apply]
      cases ensured : manager.store.ensureDefaults before.fs io with
      | error raised => exact written
      | ok seeded =>
          exact (ProfileStore.ensureDefaults_keeps faithful regular written ensured).1
  | save profile io =>
      exact ProfileStore.markerWritten_save regular.2 regular.1 faithful written
  | remove id => exact ProfileStore.markerWritten_remove written id
  | switchTo id io =>
      have files := switchTo_fs before id io
      rw [apply]
      by_cases succeeded : Succeeded before id io
      · rw [files.1 succeeded]
        exact ProfileStore.markerWritten_setActiveId regular.2 regular.1 before.fs
      · rw [files.2 succeeded]
        exact written

/-- From a state whose active id refers, an operation leads to another one exactly when it
keeps the reference. -/
theorem refers_apply_iff {before : ManagerState manager}
    (written : manager.store.MarkerWritten before.fs)
    (refers : manager.store.Refers before.fs) {op : ManagerOp} (regular : manager.Regular op) :
    manager.store.Refers (apply before op).fs ↔ KeepsReference before op := by
  cases op with
  | ensureDefaults io =>
      refine iff_of_true ?_ trivial
      rw [apply]
      cases ensured : manager.store.ensureDefaults before.fs io with
      | error raised => exact refers
      | ok seeded =>
          exact (ProfileStore.ensureDefaults_keeps faithful regular written ensured).2 refers
  | save profile io =>
      refine iff_of_true ?_ trivial
      exact ProfileStore.refers_save regular.2 regular.1 faithful written refers
  | remove id => exact ProfileStore.refers_remove_iff faithful written refers id
  | switchTo id io =>
      have files := switchTo_fs before id io
      rw [apply, KeepsReference]
      by_cases succeeded : Succeeded before id io
      · obtain ⟨profile, loaded, accepted⟩ := switchTo_ok_iff.mp succeeded
        rw [files.1 succeeded, ProfileStore.refers_setActiveId_iff regular.2 regular.1 faithful
          ⟨profile, loaded⟩]
        constructor
        · intro apart marker
          exact absurd marker apart
        · intro kept marker
          exact kept marker ⟨profile, loaded, accepted⟩
      · rw [files.2 succeeded]
        refine iff_of_true refers ?_
        intro _ appliable
        exact succeeded (switchTo_ok_iff.mpr appliable)

theorem markerWritten_after {start : ManagerState manager}
    (written : manager.store.MarkerWritten start.fs) {ops : List ManagerOp}
    (regular : ∀ op ∈ ops, manager.Regular op) :
    manager.store.MarkerWritten (after start ops).fs := by
  induction ops generalizing start with
  | nil => exact written
  | cons op rest ih =>
      apply ih (markerWritten_apply faithful written (regular op List.mem_cons_self))
      exact fun other member => regular other (List.mem_cons_of_mem _ member)

/-- In every run from an empty directory the active id is empty or names a profile after
each operation exactly when no operation removes the file of the active profile or
switches to a profile in the file of the active id. -/
theorem active_id_refers_iff {start : ManagerState manager}
    (empty : start.fs.filesIn manager.store.dir.full = []) {ops : List ManagerOp}
    (regular : ∀ op ∈ ops, manager.Regular op) :
    (∀ front back, ops = front ++ back → manager.store.Refers (after start front).fs) ↔
      AlongHistory (fun past op => KeepsReference (after start past) op) ops := by
  have unset := ProfileStore.activeId_of_empty empty
  apply prefixes_iff_alongHistory
  · exact .inl unset
  · intro past op back split refers
    have members : ∀ other ∈ past ++ [op], other ∈ ops := by
      intro other member
      rw [split, List.append_cons]
      exact List.mem_append_left _ member
    rw [after_snoc]
    apply refers_apply_iff faithful _ refers
    · exact regular op (members op (List.mem_append_right _ List.mem_cons_self))
    · apply markerWritten_after faithful (.inl unset)
      exact fun other member => regular other (members other (List.mem_append_left _ member))

omit faithful

/-- A new installation whose executors accept every value. -/
def newInstallation : ManagerState fakeManager where
  fs := FileSystem.empty
  objects := fun _ => {}

theorem performance_plain : PlainStem installed.env "performance" :=
  plainStem_installed (by decide) (by decide)

theorem seeding_seeds : installed.Seeds seeding where
  save profile member := (seeding_permitted.1 profile member).2
  setActiveId := seeding_permitted.2
  plain profile member := seededIds_plain.plain profile.id (seeding_permitted.1 profile member).1

theorem active_id_refers_iff_switch :
    installed.Refers (after newInstallation [.ensureDefaults seeding,
      .switchTo "performance" ⟨writing (activeDoc "performance"), 0⟩]).fs := by
  have empty : newInstallation.fs.filesIn fakeManager.store.dir.full = [] := rfl
  have regular : ∀ op ∈ [ManagerOp.ensureDefaults seeding,
      .switchTo "performance" ⟨writing (activeDoc "performance"), 0⟩],
      fakeManager.Regular op := by
    intro op member
    cases List.mem_pair.mp member with
    | inl first =>
        rw [first]
        exact seeding_seeds
    | inr second =>
        rw [second]
        exact ⟨performance_plain, writing_succeeds (activeDoc "performance")⟩
  have apart := installed.not_namesMarker_of_length performance_plain (by decide)
  have seeded : AlongHistory (fun past op => KeepsReference (after newInstallation past) op)
      [.ensureDefaults seeding] :=
    alongHistory_snoc.mpr ⟨alongHistory_nil, trivial⟩
  have switched : KeepsReference (after newInstallation [.ensureDefaults seeding])
      (.switchTo "performance" ⟨writing (activeDoc "performance"), 0⟩) :=
    fun marker => absurd marker apart
  have faithful : fakeManager.store.codec.Faithful := JsonText.codec_faithful
  apply (active_id_refers_iff faithful empty regular).mpr
  · exact alongHistory_snoc.mpr ⟨seeded, switched⟩
  · exact (List.append_nil _).symm

/-- The active profile is removed, and the active id goes on naming it. -/
theorem removed_profile_stays_active :
    installed.activeId
        (after newInstallation [.ensureDefaults seeding, .remove "balanced"]).fs = "balanced" ∧
      installed.get (after newInstallation [.ensureDefaults seeding, .remove "balanced"]).fs
        "balanced" = .ok none ∧
      ¬installed.Refers
        (after newInstallation [.ensureDefaults seeding, .remove "balanced"]).fs := by
  have empty : FileSystem.filesIn (FileSystem.empty : FileSystem installed.env)
      installed.dir.full = [] := rfl
  have initial := ProfileStore.represents_empty seededIds_plain empty
  obtain ⟨seeded, ensured, represents⟩ :=
    initial.ensureDefaults JsonText.codec_faithful seededIds_plain seeding_permitted
  have reached : (after newInstallation [.ensureDefaults seeding, .remove "balanced"]).fs =
      (installed.remove seeded "balanced" true).2 := by
    have called : fakeManager.store.ensureDefaults newInstallation.fs seeding = .ok seeded :=
      ensured
    rw [after, List.foldl_cons, apply, called]
    rfl
  have active : installed.activeId seeded = "balanced" := by
    have absent : ¬ProfileMap.empty.Present := by
      intro present
      obtain ⟨id, stored⟩ := present
      cases stored
    rw [represents.activeId_eq JsonText.codec_faithful, ProfileMap.step, if_neg absent]
    rfl
  have balancedPlain : PlainStem installed.env "balanced" :=
    plainStem_installed (by decide) (by decide)
  have apart := installed.not_namesMarker_of_length balancedPlain (by decide)
  have kept : installed.activeId (installed.remove seeded "balanced" true).2 = "balanced" := by
    rw [ProfileStore.activeId_remove, if_neg apart, active]
  have lost : installed.get (installed.remove seeded "balanced" true).2 "balanced" = .ok none := by
    rw [ProfileStore.get_remove _ _ balancedPlain, if_pos]
    exact (installed.sameFile_iff balancedPlain).mpr ((installed.names_iff balancedPlain).mpr rfl)
  rw [reached]
  refine ⟨kept, lost, ?_⟩
  intro refers
  rw [ProfileStore.Refers, kept, ProfileStore.Found, lost] at refers
  obtain ⟨profile, loaded⟩ := refers.resolve_left (by decide)
  cases loaded

end ProfileManager

end HWPanel.Config
