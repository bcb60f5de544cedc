import HWPanel.Config.ActivePersistence
import HWPanel.Core.Indexes

/-!
# Switching to what is listed

`List` and `Get` together with `SwitchTo`: a client switches to an id it was shown, and
finds one listed profile with the active id afterwards.
-/

namespace HWPanel.Config

open HWPanel.Core
open HWPanel.Library
open HWPanel.Platform

variable {S : Type} {manager : ProfileManager S}

namespace ProfileManager

/-- `List` and `Get` agree, and after a switch to a listed profile whose active id was
written exactly one listed profile has the active id. -/
structure ListedSwitches (before : ManagerState manager) : Prop where
  agree : manager.store.IndexesAgree before.fs
  switched : ∀ profiles, manager.store.list before.fs = .ok profiles → ∀ profile ∈ profiles,
    ∀ io, manager.Persists profile.id io →
      ∀ result, (manager.switchTo profile.id io before).1 = .ok result → result.ok = true →
        ∃ after, manager.store.list (manager.switchTo profile.id io before).2.fs = .ok after ∧
          (after.map (·.id)).count
            (manager.activeId (manager.switchTo profile.id io before).2) = 1

/-- No listed file is `active.json` in another case and holds a profile whose settings
are all accepted. -/
def MarkerFree (before : ManagerState manager) : Prop :=
  ∀ entry ∈ manager.store.listedFiles before.fs,
    manager.store.env.fold entry.1 = manager.store.env.fold (manager.store.file "active.json") →
      ∀ profile, manager.store.profileIn entry.2 = some profile →
        ∃ setting ∈ profile.settings.entries, manager.accepts before.objects setting = false

variable {before : ManagerState manager}

/-- `SwitchTo` returns ok. -/
def Succeeded (before : ManagerState manager) (id : String) (io : SwitchIO) : Prop :=
  ∃ result, (manager.switchTo id io before).1 = .ok result ∧ result.ok = true

/-- A switch that returns ok writes the active id, any other leaves the files alone. -/
theorem switchTo_fs (before : ManagerState manager) (id : String) (io : SwitchIO) :
    (Succeeded before id io → (manager.switchTo id io before).2.fs =
      manager.store.setActiveId before.fs id io.write) ∧
    (¬Succeeded before id io → (manager.switchTo id io before).2.fs = before.fs) := by
  have outcome := switchTo_outcome before id io
  unfold Succeeded
  cases call : manager.switchTo id io before with
  | mk result final =>
      rw [call] at outcome
      cases outcome with
      | thrown error unreadable => simp
      | notFound missing => simp
      | applied profile steps state loaded settings progress =>
          refine ⟨fun _ => rfl, ?_⟩
          intro failed
          exact absurd ⟨_, rfl, rfl⟩ failed
      | failed profile steps failing later message final loaded settings aborted =>
          simpa using aborted.fs

/-- A listed profile in a case variant of `active.json` that could be switched to would
disappear, and its id with it. -/
theorem markerFree_of_listedSwitches (faithful : manager.store.codec.Faithful)
    (switches : ListedSwitches before) (tame : manager.store.ListsTame before.fs) :
    MarkerFree before := by
  have returned := manager.store.list_of_tame tame
  have distinct := (manager.store.nodup_list_iff returned).mp (switches.agree.distinct _ returned)
  intro entry listed isMarker profile held
  by_contra accepted
  have shown := (manager.store.mem_list returned).mpr ⟨entry, listed, held⟩
  have appliable : Appliable before profile.id := by
    refine ⟨profile, switches.agree.found _ returned profile shown, ?_⟩
    intro setting member
    rw [← Bool.not_eq_false]
    exact fun refused => accepted ⟨setting, member, refused⟩
  obtain ⟨write, written⟩ :=
    WriteIO.exists_succeeds (manager.store.codec.dump (activeDoc profile.id)).length
  have persists : manager.Persists profile.id ⟨write, 0⟩ := written
  have succeeded : Succeeded before profile.id ⟨write, 0⟩ := switchTo_ok_iff.mpr appliable
  obtain ⟨result, switched, ok⟩ := succeeded
  obtain ⟨after, afterReturned, one⟩ :=
    switches.switched _ returned profile shown ⟨write, 0⟩ persists result switched ok
  rw [(switchTo_fs before profile.id ⟨write, 0⟩).1 ⟨result, switched, ok⟩] at afterReturned
  rw [activeId_of_persisted faithful persists switched ok] at one
  have present : profile.id ∈ after.map (·.id) := by
    apply List.count_pos_iff.mp
    rw [one]
    exact Nat.zero_lt_one
  obtain ⟨other, otherShown, sameId⟩ := List.mem_map.mp present
  obtain ⟨otherEntry, otherListed, otherHeld⟩ :=
    (manager.store.mem_list afterReturned).mp otherShown
  obtain ⟨wasListed, notMarker⟩ :=
    (ProfileStore.mem_listedFiles_setActiveId persists).mp otherListed
  -- The only file with this id was the marker's, which the switch has replaced.
  rw [distinct entry listed profile held otherEntry wasListed other otherHeld sameId] at notMarker
  exact notMarker isMarker

/-- A listed profile outside the file of the active id is listed once after the switch to
it. -/
theorem listed_once_of_markerFree (faithful : manager.store.codec.Faithful)
    (agree : manager.store.IndexesAgree before.fs) (markerFree : MarkerFree before)
    {profiles : List Profile} (returned : manager.store.list before.fs = .ok profiles)
    {profile : Profile} (member : profile ∈ profiles) {io : SwitchIO}
    (persists : manager.Persists profile.id io) {result : SwitchResult}
    (switched : (manager.switchTo profile.id io before).1 = .ok result)
    (ok : result.ok = true) :
    ∃ after, manager.store.list (manager.switchTo profile.id io before).2.fs = .ok after ∧
      (after.map (·.id)).count
        (manager.activeId (manager.switchTo profile.id io before).2) = 1 := by
  have tame := manager.store.list_isOk_iff.mp ⟨profiles, returned⟩
  have distinct := (manager.store.nodup_list_iff returned).mp (agree.distinct _ returned)
  obtain ⟨entry, listed, held⟩ := (manager.store.mem_list returned).mp member
  have succeeded : Succeeded before profile.id io := ⟨result, switched, ok⟩
  obtain ⟨loaded, found, accepted⟩ := switchTo_ok_iff.mp succeeded
  have same := found.symm.trans (agree.found _ returned profile member)
  cases same
  have notMarker : manager.store.env.fold entry.1 ≠
      manager.store.env.fold (manager.store.file "active.json") := by
    intro isMarker
    obtain ⟨setting, settingMember, refused⟩ := markerFree entry listed isMarker profile held
    rw [accepted setting settingMember] at refused
    cases refused
  have after := manager.store.list_of_tame (manager.store.listsTame_setActiveId persists tame)
  rw [(switchTo_fs before profile.id io).1 succeeded,
    activeId_of_persisted faithful persists switched ok]
  refine ⟨_, after, ?_⟩
  apply List.count_eq_one_of_mem
  · exact (manager.store.nodup_list_iff after).mpr
      (manager.store.distinctIds_setActiveId persists distinct)
  · apply List.mem_map_of_mem
    apply (manager.store.mem_list after).mpr
    exact ⟨entry, (ProfileStore.mem_listedFiles_setActiveId persists).mpr ⟨listed, notMarker⟩,
      held⟩

/-- On every directory, `List` and `Get` agree and a successful switch to a listed profile
leaves one listed profile with the active id exactly when, unless `List` throws, the
listed files are named by their ids and none that could be switched to is the active
file in another case. -/
theorem listed_switches_iff (faithful : manager.store.codec.Faithful)
    (before : ManagerState manager) :
    ListedSwitches before ↔ (manager.store.ListsTame before.fs →
      manager.store.NamedByIds before.fs ∧ MarkerFree before) := by
  constructor
  · intro switches tame
    exact ⟨(manager.store.indexesAgree_iff before.fs).mp switches.agree tame,
      markerFree_of_listedSwitches faithful switches tame⟩
  · intro condition
    have agree := (manager.store.indexesAgree_iff before.fs).mpr fun tame => (condition tame).1
    refine ⟨agree, ?_⟩
    intro profiles returned profile member io persists result switched ok
    have markerFree := (condition (manager.store.list_isOk_iff.mp ⟨profiles, returned⟩)).2
    exact listed_once_of_markerFree faithful agree markerFree returned member persists switched ok

/-! ## A copied profile -/

theorem listed_switches_iff_night :
    ListedSwitches acceptingPlan ↔ (installed.ListsTame (holding night) →
      installed.NamedByIds (holding night) ∧ MarkerFree acceptingPlan) :=
  have faithful : fakeManager.store.codec.Faithful := JsonText.codec_faithful
  listed_switches_iff faithful acceptingPlan

/-- `night.json` copied to `copy.json` in the Explorer. -/
def copiedFiles : FileSystem installed.env :=
  (holding night).put (installed.file ("copy" ++ ".json"))
    (installed.codec.dump (profileDoc night))

def copiedPlan : ManagerState fakeManager := { acceptingPlan with fs := copiedFiles }

/-- The listing shows the profile twice under one id. -/
theorem copied_profile_listed_twice :
    (∃ profiles, fakeManager.store.list copiedPlan.fs = .ok profiles ∧
      ¬(profiles.map (·.id)).Nodup) ∧ ¬ListedSwitches copiedPlan := by
  have faithful : installed.codec.Faithful := JsonText.codec_faithful
  have held := installed.profileIn_profileDoc faithful night
  have nightPlain : PlainStem installed.env "night" := night_plain
  have copyPlain : PlainStem installed.env "copy" := plainStem_installed (by decide) (by decide)
  have nightHolds := installed.canHold_json nightPlain
  have copyHolds := installed.canHold_json copyPlain
  have apart : installed.env.fold (installed.file ("night" ++ ".json")) ≠
      installed.env.fold (installed.file ("copy" ++ ".json")) := by
    rw [installed.file_json nightPlain, installed.file_json copyPlain, Ne,
      ProfileStore.fold_json]
    decide
  have entries : ∀ entry, entry ∈ copiedFiles.entries →
      entry.2 = installed.codec.dump (profileDoc night) := by
    intro entry member
    cases (FileSystem.mem_put copyHolds).mp member with
    | inl copy => rw [copy]
    | inr original =>
        cases (FileSystem.mem_put nightHolds).mp original.1 with
        | inl night => rw [night]
        | inr none => cases none.1
  have copyListed : (installed.file ("copy" ++ ".json"),
      installed.codec.dump (profileDoc night)) ∈ installed.listedFiles copiedFiles :=
    (installed.listed_json_iff copyPlain).mpr
      ⟨(FileSystem.mem_put copyHolds).mpr (.inl rfl), by decide, by decide⟩
  have nightListed : (installed.file ("night" ++ ".json"),
      installed.codec.dump (profileDoc night)) ∈ installed.listedFiles copiedFiles :=
    (installed.listed_json_iff nightPlain).mpr
      ⟨(FileSystem.mem_put copyHolds).mpr
        (.inr ⟨(FileSystem.mem_put nightHolds).mpr (.inl rfl), apart⟩), by decide, by decide⟩
  have tame : installed.ListsTame copiedFiles := by
    intro entry listed
    rw [ProfileStore.RaisesAt, entries entry (installed.mem_listedFiles.mp listed).1]
    exact installed.not_raises_profileDoc faithful _ night
  have returned := installed.list_of_tame tame
  have twice : ¬installed.DistinctIds copiedFiles := by
    intro distinct
    have same := distinct _ nightListed night held _ copyListed night held rfl
    exact apart (congrArg (fun entry => installed.env.fold entry.1) same).symm
  have repeated := fun ids => twice ((installed.nodup_list_iff returned).mp ids)
  refine ⟨⟨_, returned, repeated⟩, ?_⟩
  intro switches
  exact repeated (switches.agree.distinct _ returned)

end ProfileManager

end HWPanel.Config
