import HWPanel.Core.StoreEffects
import Mathlib.Data.List.Pairwise

/-!
# The two indexes of the store

`List` knows a profile by the id inside its file, `Get` and `Save` by the name of the
file. On an arbitrary directory the two indexes agree exactly when the files are named
by the ids they hold.
-/

namespace HWPanel.Core

open HWPanel.Library
open HWPanel.Platform

namespace ProfileStore

variable (store : ProfileStore) {fs : FileSystem store.env}

/-- `List` gives distinct ids, and `Get` gives every profile it shows. -/
structure IndexesAgree (fs : FileSystem store.env) : Prop where
  distinct : ∀ profiles, store.list fs = .ok profiles → (profiles.map (·.id)).Nodup
  found : ∀ profiles, store.list fs = .ok profiles → ∀ profile ∈ profiles,
    store.get fs profile.id = .ok (some profile)

/-- Every file that `List` loads a profile from is the file its id names, up to case. Only
a file that `List` does not read may stand in for it: the id names that one, it holds
the same profile, and no other listed file holds the id. -/
def NamedByIds (fs : FileSystem store.env) : Prop :=
  ∀ entry ∈ store.listedFiles fs, ∀ profile, store.profileIn entry.2 = some profile →
    store.Names profile.id entry.1 ∨
    (∃ path bytes, store.child (profile.id ++ ".json") = .ok path ∧
      fs.read (store.env.resolve path) = some bytes ∧ store.profileIn bytes = some profile) ∧
    ∀ other ∈ store.listedFiles fs, ∀ shown, store.profileIn other.2 = some shown →
      shown.id = profile.id → other = entry

/-- Each id is in one listed file at most. -/
def DistinctIds (fs : FileSystem store.env) : Prop :=
  ∀ entry ∈ store.listedFiles fs, ∀ profile, store.profileIn entry.2 = some profile →
    ∀ other ∈ store.listedFiles fs, ∀ shown, store.profileIn other.2 = some shown →
      shown.id = profile.id → other = entry

theorem nodup_listedFiles (fs : FileSystem store.env) : (store.listedFiles fs).Nodup :=
  (List.Nodup.of_map _ fs.distinct).sublist (List.filter_sublist.trans List.filter_sublist)

/-- Two files that are one up to case are one entry. -/
theorem listed_unique {first second : FullPath × List UInt8}
    (firstListed : first ∈ store.listedFiles fs) (secondListed : second ∈ store.listedFiles fs)
    (same : store.env.fold first.1 = store.env.fold second.1) : first = second :=
  fs.entry_unique (store.mem_listedFiles.mp firstListed).1
    (store.mem_listedFiles.mp secondListed).1 same

/-- The profiles of two files have different ids. -/
def Apart (first second : FullPath × List UInt8) : Prop :=
  ∀ profile, store.profileIn first.2 = some profile →
    ∀ shown, store.profileIn second.2 = some shown → profile.id ≠ shown.id

instance : Std.Symm store.Apart where
  symm _ _ apart := fun profile held shown shownHeld =>
    (apart shown shownHeld profile held).symm

theorem nodup_loaded_iff :
    ((store.loaded fs).map (·.id)).Nodup ↔ store.DistinctIds fs := by
  have pairs : ((store.loaded fs).map (·.id)).Nodup ↔
      (store.listedFiles fs).Pairwise store.Apart := by
    rw [List.Nodup, List.pairwise_map, loaded, List.pairwise_filterMap]
    rfl
  rw [pairs]
  constructor
  · intro apart entry listed profile held other otherListed shown otherHeld same
    by_contra different
    exact apart.forall otherListed listed different shown otherHeld profile held same
  · intro distinct
    apply (store.nodup_listedFiles fs).imp_of_mem
    intro first second firstListed secondListed different profile held shown shownHeld same
    exact different
      (distinct second secondListed shown shownHeld first firstListed profile held same)

/-- The ids of a listing. -/
theorem nodup_list_iff {profiles : List Profile} (returned : store.list fs = .ok profiles) :
    (profiles.map (·.id)).Nodup ↔ store.DistinctIds fs := by
  have tame := store.list_isOk_iff.mp ⟨profiles, returned⟩
  rw [store.list_of_tame tame] at returned
  rw [← Except.ok.inj returned, ← store.nodup_loaded_iff]
  exact ((List.perm_insertionSort (fun first second : Profile => first.id ≤ second.id)
    (store.loaded fs)).map (·.id)).nodup_iff

/-- `Get` by what the file of the id holds. -/
theorem get_eq_some_iff {id : String} {profile : Profile} :
    store.get fs id = .ok (some profile) ↔
      ∃ path bytes, store.child (id ++ ".json") = .ok path ∧
        fs.read (store.env.resolve path) = some bytes ∧
          store.profileIn bytes = some profile := by
  cases converted : store.child (id ++ ".json") with
  | error thrown => simp [get, converted, Bind.bind, Except.bind]
  | ok path =>
      rw [get_of_child fs converted]
      cases found : fs.read (store.env.resolve path) with
      | none => simp [found]
      | some bytes => simp [found, parseBytes_eq_some_iff]

/-- A file that its profile's id names is what `Get` reads. -/
theorem get_of_named {entry : FullPath × List UInt8}
    (listed : entry ∈ store.listedFiles fs) {profile : Profile}
    (held : store.profileIn entry.2 = some profile) (named : store.Names profile.id entry.1) :
    store.get fs profile.id = .ok (some profile) := by
  obtain ⟨member, inDir, -⟩ := store.mem_listedFiles.mp listed
  obtain ⟨name, last, -⟩ := PathEnv.exists_name_of_canHold (fs.held entry member)
  have same := PathEnv.fold_file_of_parent last inDir
  obtain ⟨path, converted, names⟩ := named
  refine store.get_eq_some_iff.mpr ⟨path, entry.2, converted, ?_, held⟩
  rw [fs.read_of_fold (names.trans same.symm)]
  exact FileSystem.find?_of_mem member same.symm

/-- The indexes agree exactly when, unless `List` throws, the listed files are named by
the ids they hold. -/
theorem indexesAgree_iff (fs : FileSystem store.env) :
    store.IndexesAgree fs ↔ (store.ListsTame fs → store.NamedByIds fs) := by
  constructor
  · intro agree tame entry listed profile held
    have returned := store.list_of_tame tame
    have distinct := (store.nodup_list_iff returned).mp (agree.distinct _ returned)
    have shown := (store.mem_list returned).mpr ⟨entry, listed, held⟩
    by_cases named : store.Names profile.id entry.1
    · exact .inl named
    · exact .inr ⟨store.get_eq_some_iff.mp (agree.found _ returned profile shown),
        distinct entry listed profile held⟩
  · intro condition
    constructor
    · intro profiles returned
      have tame := store.list_isOk_iff.mp ⟨profiles, returned⟩
      apply (store.nodup_list_iff returned).mpr
      intro entry listed profile held other otherListed shown otherHeld same
      rcases condition tame entry listed profile held with named | ⟨_, alone⟩
      · rcases condition tame other otherListed shown otherHeld with otherNamed | ⟨_, otherAlone⟩
        · rw [same] at otherNamed
          obtain ⟨path, converted, names⟩ := named
          obtain ⟨_, otherConverted, otherNames⟩ := otherNamed
          cases converted.symm.trans otherConverted
          exact store.listed_unique otherListed listed (otherNames.symm.trans names)
        · exact (otherAlone entry listed profile held same.symm).symm
      · exact alone other otherListed shown otherHeld same
    · intro profiles returned profile member
      have tame := store.list_isOk_iff.mp ⟨profiles, returned⟩
      obtain ⟨entry, listed, held⟩ := (store.mem_list returned).mp member
      rcases condition tame entry listed profile held with named | ⟨standIn, _⟩
      · exact store.get_of_named listed held named
      · exact store.get_eq_some_iff.mpr standIn

theorem listsTame_setActiveId {id : String} {io : WriteIO}
    (succeeds : io.Succeeds (store.codec.dump (activeDoc id)).length)
    (tame : store.ListsTame fs) : store.ListsTame (store.setActiveId fs id io) := by
  intro entry listed
  exact tame entry ((mem_listedFiles_setActiveId succeeds).mp listed).1

theorem distinctIds_setActiveId {id : String} {io : WriteIO}
    (succeeds : io.Succeeds (store.codec.dump (activeDoc id)).length)
    (distinct : store.DistinctIds fs) : store.DistinctIds (store.setActiveId fs id io) := by
  intro entry listed profile held other otherListed shown otherHeld same
  exact distinct entry ((mem_listedFiles_setActiveId succeeds).mp listed).1 profile held
    other ((mem_listedFiles_setActiveId succeeds).mp otherListed).1 shown otherHeld same

end ProfileStore

end HWPanel.Core
