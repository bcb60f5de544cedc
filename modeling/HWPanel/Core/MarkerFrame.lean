import HWPanel.Core.Installation
import HWPanel.Core.StoreEffects

/-!
# The active id beside the profiles

The active id lies in a file among those of the profiles. What `Save` leaves of the active
id, what `SetActiveId` leaves of the profiles, and the ids for which they do collide.
-/

namespace HWPanel.Core

open HWPanel.Library
open HWPanel.Platform

namespace ProfileStore

variable (store : ProfileStore)

/-- A `Save` of this profile leaves the active id and shows the profile, and writing this
active id leaves every profile. -/
structure Independent (fs : FileSystem store.env) (profile : Profile) (active : String) :
    Prop where
  activeId_kept : ∀ io : WriteIO, io.Succeeds (store.codec.dump (profileDoc profile)).length →
    store.activeId (store.save fs profile io).2 = store.activeId fs
  shown : ∀ io : WriteIO, io.Succeeds (store.codec.dump (profileDoc profile)).length →
    ∃ profiles, store.list (store.save fs profile io).2 = .ok profiles ∧ profile ∈ profiles
  get_kept : ∀ io : WriteIO, io.Succeeds (store.codec.dump (activeDoc active)).length →
    ∀ id, store.get (store.setActiveId fs active io) id = store.get fs id
  list_kept : ∀ io : WriteIO, io.Succeeds (store.codec.dump (activeDoc active)).length →
    store.list (store.setActiveId fs active io) = store.list fs

/-- The file of the profile is not the one an active id lies in, `List` selects it or shows
the profile from another file and throws for no other, and the files of the active id
already are no profile: an id finds none there, and a listing skips them. -/
structure KeptApart (fs : FileSystem store.env) (profile : Profile) : Prop where
  unset : store.NamesMarker profile.id → store.activeId fs = ""
  tame : ∀ entry ∈ store.listedFiles fs, store.RaisesAt entry →
    store.env.fold entry.1 = store.env.fold (store.file (profile.id ++ ".json"))
  elsewhere : profile.id = "" ∨ profile.id = "active" → ∃ entry ∈ store.listedFiles fs,
    store.env.fold entry.1 ≠ store.env.fold (store.file (profile.id ++ ".json")) ∧
      store.profileIn entry.2 = some profile
  markerFree : ∀ id path, store.child (id ++ ".json") = .ok path →
    store.env.fold (store.env.resolve path) = store.env.fold (store.file "active.json") →
      store.get fs id = store.warn path
  temporaryFree : ∀ id, store.Names id (store.file "active.json.tmp") →
    store.get fs id = .ok none
  markerTame : ∀ entry ∈ store.listedFiles fs,
    store.env.fold entry.1 = store.env.fold (store.file "active.json") → ¬store.RaisesAt entry

variable {store} {fs : FileSystem store.env} {profile : Profile} {active : String}

theorem shown_of_keptApart (faithful : store.codec.Faithful)
    (plain : PlainStem store.env profile.id) (apart : store.KeptApart fs profile) {io : WriteIO}
    (succeeds : io.Succeeds (store.codec.dump (profileDoc profile)).length) :
    ∃ profiles, store.list (store.save fs profile io).2 = .ok profiles ∧ profile ∈ profiles := by
  have tame : store.ListsTame (store.save fs profile io).2 := by
    intro entry listed raises
    cases (mem_listedFiles_save succeeds plain).mp listed with
    | inl new =>
        rw [new.1] at raises
        exact store.not_raises_profileDoc faithful _ profile raises
    | inr old => exact old.2 (apart.tame entry old.1 raises)
  have returned := store.list_of_tame tame
  refine ⟨_, returned, (store.mem_list returned).mpr ?_⟩
  by_cases hidden : profile.id = "" ∨ profile.id = "active"
  · obtain ⟨entry, listed, different, held⟩ := apart.elsewhere hidden
    exact ⟨entry, (mem_listedFiles_save succeeds plain).mpr (.inr ⟨listed, different⟩), held⟩
  · exact ⟨_, (mem_listedFiles_save succeeds plain).mpr (.inl ⟨rfl, not_or.mp hidden⟩),
      store.profileIn_profileDoc faithful profile⟩

/-- A file that reads as a warning holds no profile. -/
theorem profileIn_of_get_eq_warn {entry : FullPath × List UInt8} (member : entry ∈ fs.entries)
    (marker : store.env.fold entry.1 = store.env.fold (store.file "active.json"))
    (warned : store.get fs "active" =
      store.warn (store.dir.path.join (.ofText ("active" ++ ".json").toList))) :
    store.profileIn entry.2 = none := by
  have names := store.active_namesMarker
  rw [NamesMarker, store.file_active] at names
  rw [store.file_active] at marker
  obtain ⟨path, got⟩ := get_of_names names
  cases held : store.profileIn entry.2 with
  | none => rfl
  | some profile =>
      rw [got, FileSystem.find?_of_mem member marker] at warned
      have shown : store.parseBytes path entry.2 = .ok (some profile) :=
        store.parseBytes_eq_some_iff.mpr held
      exact absurd (warned.symm.trans shown) not_some_of_warn

theorem list_setActiveId_of_keptApart (apart : store.KeptApart fs profile) {io : WriteIO}
    (succeeds : io.Succeeds (store.codec.dump (activeDoc active)).length) :
    store.list (store.setActiveId fs active io) = store.list fs := by
  apply store.list_of_filter (listedFiles_setActiveId succeeds fs)
  intro entry listed replaced
  have marker : store.env.fold entry.1 = store.env.fold (store.file "active.json") := by
    simpa using replaced
  refine ⟨apart.markerTame entry listed marker, ?_⟩
  apply profileIn_of_get_eq_warn (store.mem_listedFiles.mp listed).1 marker
  apply apart.markerFree "active" _ (store.child_json (plainStem_active store.env))
  exact (store.names_iff (plainStem_active store.env)).mp store.active_namesMarker

theorem get_setActiveId_of_keptApart (faithful : store.codec.Faithful)
    (apart : store.KeptApart fs profile) {io : WriteIO}
    (succeeds : io.Succeeds (store.codec.dump (activeDoc active)).length) (id : String) :
    store.get (store.setActiveId fs active io) id = store.get fs id := by
  cases converted : store.child (id ++ ".json") with
  | error thrown => rw [get, get, converted]; rfl
  | ok path =>
      rw [get_setActiveId succeeds faithful fs converted]
      split
      case isTrue marker => exact (apart.markerFree id path converted marker).symm
      case isFalse =>
        split
        case isTrue temporary => exact (apart.temporaryFree id ⟨path, converted, temporary⟩).symm
        case isFalse => rfl

end ProfileStore

/-- On any directory, `Save` of a profile and `SetActiveId` keep out of each other's way
exactly when the files they write are apart. -/
theorem independent_iff {store : ProfileStore} (faithful : store.codec.Faithful)
    (fs : FileSystem store.env) {profile : Profile} (plain : PlainStem store.env profile.id)
    (active : String) :
    store.Independent fs profile active ↔ store.KeptApart fs profile := by
  obtain ⟨saving, saves⟩ := WriteIO.exists_succeeds (store.codec.dump (profileDoc profile)).length
  obtain ⟨marking, sets⟩ := WriteIO.exists_succeeds (store.codec.dump (activeDoc active)).length
  constructor
  · intro independent
    obtain ⟨profiles, returned, member⟩ := independent.shown saving saves
    have tame := store.list_isOk_iff.mp ⟨profiles, returned⟩
    have kept := fun entry listed different =>
      tame entry ((ProfileStore.mem_listedFiles_save saves plain).mpr (.inr ⟨listed, different⟩))
    have listKept := independent.list_kept marking sets
    have getKept := independent.get_kept marking sets
    constructor
    · intro marker
      rw [← independent.activeId_kept saving saves,
        ProfileStore.activeId_save saves plain faithful, if_pos marker]
    · intro entry listed raises
      by_contra different
      exact kept entry listed different raises
    · intro hidden
      obtain ⟨entry, listed, held⟩ := (store.mem_list returned).mp member
      cases (ProfileStore.mem_listedFiles_save saves plain).mp listed with
      | inl new => exact absurd new.2 (not_and_or.mpr (hidden.imp not_not_intro not_not_intro))
      | inr old => exact ⟨entry, old.1, old.2, held⟩
    · intro id path converted marker
      rw [← getKept id, ProfileStore.get_setActiveId sets faithful fs converted, if_pos marker]
    · intro id names
      obtain ⟨path, converted, temporary⟩ := names
      have notMarker : store.env.fold (store.env.resolve path) ≠
          store.env.fold (store.file "active.json") := by
        intro marker
        have apart := store.json_ne_marker_tmp (plainStem_active store.env)
        rw [← ProfileStore.active_json] at apart
        exact apart (marker.symm.trans temporary)
      rw [← getKept id, ProfileStore.get_setActiveId sets faithful fs converted,
        if_neg notMarker, if_pos temporary]
    · intro entry listed marker raises
      -- All that is left after the write is listed, so something was before.
      have after : store.ListsTame (store.setActiveId fs active marking) := by
        intro other otherListed otherRaises
        obtain ⟨old, notMarker⟩ := (ProfileStore.mem_listedFiles_setActiveId sets).mp otherListed
        by_cases own : store.env.fold other.1 =
            store.env.fold (store.file (profile.id ++ ".json"))
        · by_cases entryOwn : store.env.fold entry.1 =
              store.env.fold (store.file (profile.id ++ ".json"))
          · exact notMarker ((own.trans entryOwn.symm).trans marker)
          · exact kept entry listed entryOwn raises
        · exact kept other old own otherRaises
      have before := store.list_isOk_iff.mp ⟨_, listKept.symm.trans (store.list_of_tame after)⟩
      exact before entry listed raises
  · intro apart
    constructor
    · intro io succeeds
      rw [ProfileStore.activeId_save succeeds plain faithful]
      split
      next marker => exact (apart.unset marker).symm
      next => rfl
    · intro io succeeds
      exact ProfileStore.shown_of_keptApart faithful plain apart succeeds
    · intro io succeeds id
      exact ProfileStore.get_setActiveId_of_keptApart faithful apart succeeds id
    · intro io succeeds
      exact ProfileStore.list_setActiveId_of_keptApart apart succeeds

/-- A directory with an active id and no profile. -/
def markedFiles : FileSystem installed.env :=
  installed.setActiveId FileSystem.empty "balanced" (writing (activeDoc "balanced"))

@[simp] theorem listedFiles_markedFiles : installed.listedFiles markedFiles = [] := by
  rw [markedFiles, ProfileStore.listedFiles_setActiveId (writing_succeeds (activeDoc "balanced"))]
  rfl

theorem independent_iff_balanced :
    installed.Independent markedFiles ProfileStore.balanced "performance" := by
  have plain : PlainStem installed.env ProfileStore.balanced.id :=
    plainStem_installed (by decide) (by decide)
  apply (independent_iff JsonText.codec_faithful markedFiles plain "performance").mpr
  constructor
  · intro marker
    exact absurd marker (installed.not_namesMarker_of_length plain (by decide))
  · intro entry listed
    rw [listedFiles_markedFiles] at listed
    cases listed
  · intro hidden
    exact absurd hidden (by decide)
  · intro id path converted marker
    rw [markedFiles, ProfileStore.get_setActiveId (writing_succeeds (activeDoc "balanced"))
      JsonText.codec_faithful _ converted, if_pos marker]
  · rintro id ⟨path, converted, temporary⟩
    have notMarker : installed.env.fold (installed.env.resolve path) ≠
        installed.env.fold (installed.file "active.json") := by
      rw [temporary]
      decide
    rw [markedFiles, ProfileStore.get_setActiveId (writing_succeeds (activeDoc "balanced"))
      JsonText.codec_faithful _ converted, if_neg notMarker, if_pos temporary]
  · intro entry listed
    rw [listedFiles_markedFiles] at listed
    cases listed

/-- A profile with the id that names the file of the active id. -/
def activeMode : Profile := ⟨"active", "Active mode", "", .singleton "power.plan" "high"⟩

/-- Its `Save` loses the active id, and the profile is not listed. -/
theorem saving_active_loses_active_id :
    installed.activeId markedFiles = "balanced" ∧
      installed.activeId
        (installed.save markedFiles activeMode (writing (profileDoc activeMode))).2 = "" ∧
      installed.list
        (installed.save markedFiles activeMode (writing (profileDoc activeMode))).2 = .ok [] ∧
      ¬installed.Independent markedFiles activeMode "balanced" := by
  have succeeds := writing_succeeds (profileDoc activeMode)
  have plain : PlainStem installed.env activeMode.id := plainStem_active installed.env
  have marked : installed.activeId markedFiles = "balanced" :=
    ProfileStore.activeId_setActiveId JsonText.codec_faithful FileSystem.empty
      (writing_succeeds (activeDoc "balanced"))
  have lost : installed.activeId
      (installed.save markedFiles activeMode (writing (profileDoc activeMode))).2 = "" := by
    rw [ProfileStore.activeId_save succeeds plain JsonText.codec_faithful]
    exact if_pos installed.active_namesMarker
  have none_listed : installed.listedFiles
      (installed.save markedFiles activeMode (writing (profileDoc activeMode))).2 = [] := by
    apply List.eq_nil_iff_forall_not_mem.mpr
    intro entry listed
    cases (ProfileStore.mem_listedFiles_save succeeds plain).mp listed with
    | inl new => exact new.2.2 rfl
    | inr old =>
        rw [listedFiles_markedFiles] at old
        cases old.1
  have tame : installed.ListsTame
      (installed.save markedFiles activeMode (writing (profileDoc activeMode))).2 := by
    intro entry listed
    rw [none_listed] at listed
    cases listed
  refine ⟨marked, lost, ?_, ?_⟩
  · rw [installed.list_of_tame tame, ProfileStore.loaded, none_listed]
    rfl
  · intro independent
    have kept := independent.activeId_kept _ succeeds
    rw [lost, marked] at kept
    exact absurd kept (by decide)

end HWPanel.Core
