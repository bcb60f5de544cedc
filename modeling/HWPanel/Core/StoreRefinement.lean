import HWPanel.Core.Indexes
import HWPanel.Core.Installation

/-!
# The store refines the map

`Represents` relates the files of the directory to a map of profiles. Every
operation keeps it, and under it the queries of the store answer as the map does.
-/

namespace HWPanel.Core

open HWPanel.Library
open HWPanel.Platform

namespace ProfileStore

variable {store : ProfileStore} {ids : Set String}

/-- The directory holds the document of each profile of the map under its id, the
document of the active id, and no other file. -/
structure Represents (store : ProfileStore) (ids : Set String)
    (fs : FileSystem store.env) (map : ProfileMap) : Prop where
  profile : ∀ id ∈ ids, fs.find? (store.file (id ++ ".json")) =
    (map.profiles id).map fun profile => store.codec.dump (profileDoc profile)
  named : ∀ id profile, map.profiles id = some profile → profile.id = id ∧ id ∈ ids
  active : (fs.find? (store.file "active.json") = none ∧ map.active = "") ∨
    fs.find? (store.file "active.json") = some (store.codec.dump (activeDoc map.active))
  files : ∀ entry ∈ fs.filesIn store.dir.full,
    (∃ id ∈ ids, entry.1 = store.file (id ++ ".json")) ∨ entry.1 = store.file "active.json"

section

variable (plainIds : PlainIds store.env ids)
include plainIds

/-- Two profiles share a file only if they have one id. -/
theorem fold_profile_file {id other : String} (idMem : id ∈ ids) (otherMem : other ∈ ids) :
    store.env.fold (store.file (other ++ ".json")) =
      store.env.fold (store.file (id ++ ".json")) ↔ other = id := by
  rw [store.file_json (plainIds.plain id idMem), store.file_json (plainIds.plain other otherMem),
    fold_json]
  constructor
  · exact plainIds.distinct other otherMem id idMem
  · rintro rfl
    rfl

theorem not_namesMarker {id : String} (idMem : id ∈ ids) : ¬store.NamesMarker id := by
  rw [store.namesMarker_iff (plainIds.plain id idMem)]
  exact plainIds.notActive id idMem

theorem fold_profile_ne_active {id : String} (idMem : id ∈ ids) :
    store.env.fold (store.file (id ++ ".json")) ≠
      store.env.fold (store.file "active.json") :=
  fun same => not_namesMarker plainIds idMem
    ((store.names_iff (plainIds.plain id idMem)).mpr same)

end

namespace Represents

variable {fs : FileSystem store.env} {map : ProfileMap}

theorem save (represents : store.Represents ids fs map) (plainIds : PlainIds store.env ids)
    {profile : Profile} {io : WriteIO} (idMem : profile.id ∈ ids)
    (succeeds : io.Succeeds (store.codec.dump (profileDoc profile)).length) :
    (store.save fs profile io).1 = .ok true ∧
      store.Represents ids (store.save fs profile io).2 (map.save profile) := by
  have plain := plainIds.plain profile.id idMem
  refine ⟨?_, ?_, ?_, ?_, ?_⟩
  · rw [save_of_plain plain, FileSystem.replace_of_succeeds (store.canHold_json_tmp plain)
      (store.canHold_json plain) fs succeeds]
    rfl
  · intro id otherMem
    rw [find?_save succeeds plain,
      if_neg (store.json_ne_tmp (plainIds.plain id otherMem) plain), ProfileMap.save_profiles]
    by_cases same : id = profile.id
    · rw [same, if_pos rfl, if_pos rfl]
      rfl
    · rw [if_neg fun equal => same ((fold_profile_file plainIds idMem otherMem).mp equal),
        if_neg same]
      exact represents.profile id otherMem
  · intro id other mapped
    rw [ProfileMap.save_profiles] at mapped
    split at mapped
    · rename_i same
      cases mapped
      exact ⟨same.symm, same ▸ idMem⟩
    · exact represents.named id other mapped
  · rw [find?_marker_save succeeds plain fs (not_namesMarker plainIds idMem)]
    exact represents.active
  · intro entry membership
    rcases FileSystem.mem_filesIn.mp membership with ⟨inside, parent⟩
    rw [save_of_plain plain] at inside
    rcases (FileSystem.mem_replace (store.canHold_json_tmp plain) (store.canHold_json plain) fs
      succeeds entry).mp inside with rfl | ⟨old, -, -⟩
    · exact .inl ⟨profile.id, idMem, rfl⟩
    · exact represents.files entry (FileSystem.mem_filesIn.mpr ⟨old, parent⟩)

theorem setActiveId (represents : store.Represents ids fs map)
    (plainIds : PlainIds store.env ids) {id : String} {io : WriteIO}
    (succeeds : io.Succeeds (store.codec.dump (activeDoc id)).length) :
    store.Represents ids (store.setActiveId fs id io) (map.setActive id) := by
  have entries := FileSystem.mem_replace store.canHold_active_tmp store.canHold_active fs succeeds
  constructor
  · intro other otherMem
    rw [find?_setActiveId succeeds, if_neg (fold_profile_ne_active plainIds otherMem),
      if_neg (store.json_ne_marker_tmp (plainIds.plain other otherMem))]
    exact represents.profile other otherMem
  · exact represents.named
  · right
    rw [find?_setActiveId succeeds, if_pos rfl]
    rfl
  · intro entry membership
    rcases FileSystem.mem_filesIn.mp membership with ⟨inside, parent⟩
    rcases (entries entry).mp inside with rfl | ⟨old, -, -⟩
    · exact .inr rfl
    · exact represents.files entry (FileSystem.mem_filesIn.mpr ⟨old, parent⟩)

theorem remove (represents : store.Represents ids fs map)
    (plainIds : PlainIds store.env ids) {id : String} (idMem : id ∈ ids) :
    (store.remove fs id true).1 = .ok (map.profiles id).isSome ∧
      store.Represents ids (store.remove fs id true).2 (map.remove id) := by
  have plain := plainIds.plain id idMem
  refine ⟨?_, ?_, ?_, ?_, ?_⟩
  · rw [remove_of_plain plain, FileSystem.remove_permitted, represents.profile id idMem,
      Option.isSome_map]
  · intro other otherMem
    have names : store.Names id (store.file (other ++ ".json")) ↔ _ := store.names_iff plain
    rw [eq_comm, fold_profile_file plainIds idMem otherMem] at names
    rw [find?_remove, ProfileMap.remove_profiles]
    by_cases same : other = id
    · rw [if_pos (names.mpr same), if_pos same]
      rfl
    · rw [if_neg (mt names.mp same), if_neg same]
      exact represents.profile other otherMem
  · intro other profile mapped
    rw [ProfileMap.remove_profiles] at mapped
    split at mapped
    · cases mapped
    · exact represents.named other profile mapped
  · rw [find?_marker_remove fs (not_namesMarker plainIds idMem)]
    exact represents.active
  · intro entry membership
    rcases FileSystem.mem_filesIn.mp membership with ⟨inside, parent⟩
    rw [remove_of_plain plain, FileSystem.remove_permitted] at inside
    exact represents.files entry (FileSystem.mem_filesIn.mpr
      ⟨(FileSystem.mem_erase.mp inside).1, parent⟩)

theorem get_eq (represents : store.Represents ids fs map) (faithful : store.codec.Faithful)
    (plainIds : PlainIds store.env ids) {id : String} (idMem : id ∈ ids) :
    store.get fs id = .ok (map.profiles id) := by
  have plain := plainIds.plain id idMem
  rw [ProfileStore.get, store.child_json plain]
  exact parseProfileFile_of_find faithful (store.canHold_json plain) (represents.profile id idMem)

theorem activeId_eq (represents : store.Represents ids fs map)
    (faithful : store.codec.Faithful) : store.activeId fs = map.active := by
  rcases represents.active with ⟨absent, unset⟩ | present
  · rw [activeId_of_absent absent, unset]
  · exact activeId_of_find faithful present

/-- A listed file holds the profile of the map that its name stands for. -/
theorem listed (represents : store.Represents ids fs map) {entry : FullPath × List UInt8}
    (isListed : entry ∈ store.listedFiles fs) :
    ∃ profile, profile.id ∈ ids ∧ map.profiles profile.id = some profile ∧
      entry = (store.file (profile.id ++ ".json"), store.codec.dump (profileDoc profile)) := by
  obtain ⟨member, parent, selected⟩ := store.mem_listedFiles.mp isListed
  rcases represents.files entry (FileSystem.mem_filesIn.mpr ⟨member, parent⟩) with
    ⟨id, idMem, fileEq⟩ | fileEq
  · have content := FileSystem.find?_of_mem member (congrArg store.env.fold fileEq)
    rw [represents.profile id idMem, Option.map_eq_some_iff] at content
    obtain ⟨profile, mapped, dumped⟩ := content
    obtain ⟨rfl, -⟩ := represents.named id profile mapped
    exact ⟨profile, idMem, mapped, Prod.ext fileEq dumped.symm⟩
  · rw [fileEq, store.isProfileFile_active_file] at selected
    cases selected

/-- The file of a profile of the map is listed. -/
theorem listed_of_mapped (represents : store.Represents ids fs map)
    (plainIds : PlainIds store.env ids) {profile : Profile}
    (mapped : map.profiles profile.id = some profile) :
    (store.file (profile.id ++ ".json"), store.codec.dump (profileDoc profile)) ∈
      store.listedFiles fs := by
  have idMem := (represents.named _ _ mapped).2
  have found := represents.profile profile.id idMem
  rw [mapped, Option.map_some, KeyedMap.find?_eq_some] at found
  obtain ⟨entry, member, same, dumped⟩ := found
  have inDir : entry ∈ fs.filesIn store.dir.full := by
    refine FileSystem.mem_filesIn.mpr ⟨member, ?_⟩
    rw [PathEnv.fold_parent, same, ← PathEnv.fold_parent,
      store.file_json (plainIds.plain _ idMem), Directory.parent_file]
  have fileEq : entry.1 = store.file (profile.id ++ ".json") := by
    rcases represents.files entry inDir with ⟨other, otherMem, otherEq⟩ | activeEq
    · rw [otherEq] at same ⊢
      rw [(fold_profile_file plainIds idMem otherMem).mp same]
    · rw [activeEq] at same
      exact absurd same.symm (fold_profile_ne_active plainIds idMem)
  rw [store.listed_json_iff (plainIds.plain _ idMem), ← fileEq, ← dumped]
  refine ⟨member, plainIds.nonempty _ idMem, fun isActive => ?_⟩
  exact plainIds.notActive _ idMem (by rw [isActive])

/-- `List` gives the profiles of the map, in ascending order of their ids. -/
theorem list_exact (represents : store.Represents ids fs map)
    (faithful : store.codec.Faithful) (plainIds : PlainIds store.env ids) :
    ∃ profiles, store.list fs = .ok profiles ∧
      (∀ profile, profile ∈ profiles ↔ map.profiles profile.id = some profile) ∧
      profiles.Pairwise fun earlier later => earlier.id < later.id := by
  have held := store.profileIn_profileDoc faithful
  have tame : store.ListsTame fs := by
    intro entry isListed
    obtain ⟨profile, -, -, rfl⟩ := represents.listed isListed
    exact store.not_raises_profileDoc faithful _ profile
  have returned := store.list_of_tame tame
  refine ⟨_, returned, ?_, ?_⟩
  · intro profile
    rw [store.mem_list returned]
    constructor
    · rintro ⟨entry, isListed, loaded⟩
      obtain ⟨stored, -, mapped, rfl⟩ := represents.listed isListed
      cases (held stored).symm.trans loaded
      exact mapped
    · intro mapped
      exact ⟨_, represents.listed_of_mapped plainIds mapped, held profile⟩
  · have distinct : store.DistinctIds fs := by
      intro entry isListed profile loaded other otherListed shown otherLoaded same
      obtain ⟨stored, -, mapped, rfl⟩ := represents.listed isListed
      obtain ⟨otherStored, -, otherMapped, rfl⟩ := represents.listed otherListed
      cases (held stored).symm.trans loaded
      cases (held otherStored).symm.trans otherLoaded
      rw [same, mapped] at otherMapped
      cases otherMapped
      rfl
    have sorted := List.pairwise_insertionSort
      (fun first second : Profile => first.id ≤ second.id) (store.loaded fs)
    have sortedDistinct := (store.nodup_list_iff returned).mpr distinct
    rw [List.Nodup, List.pairwise_map] at sortedDistinct
    exact sorted.imp₂ (fun _ _ le ne => lt_of_le_of_ne le ne) sortedDistinct

theorem mem_list_iff (represents : store.Represents ids fs map)
    (faithful : store.codec.Faithful) (plainIds : PlainIds store.env ids)
    {profiles : List Profile} (listed : store.list fs = .ok profiles) (profile : Profile) :
    profile ∈ profiles ↔ map.profiles profile.id = some profile := by
  obtain ⟨others, listedOthers, member, -⟩ := represents.list_exact faithful plainIds
  cases listed.symm.trans listedOthers
  exact member profile

/-- `List` depends on the profiles of the map only. -/
theorem list_setActive (represents : store.Represents ids fs map)
    (faithful : store.codec.Faithful) (plainIds : PlainIds store.env ids)
    {later : FileSystem store.env} {active : String}
    (after : store.Represents ids later (map.setActive active)) :
    store.list later = store.list fs := by
  obtain ⟨profiles, listed, member, sorted⟩ := represents.list_exact faithful plainIds
  obtain ⟨profilesLater, listedLater, memberLater, sortedLater⟩ :=
    after.list_exact faithful plainIds
  have same : profilesLater = profiles := by
    apply sortedLater.eq_of_mem_iff sorted
    intro profile
    rw [memberLater, member]
    rfl
  rw [listed, listedLater, same]

/-! ## Runs -/

theorem foldl_save (represents : store.Represents ids fs map) (plainIds : PlainIds store.env ids)
    (io : DefaultsIO) (profiles : List Profile) (permitted : ∀ profile ∈ profiles,
      profile.id ∈ ids ∧
        (io.save profile.id).Succeeds (store.codec.dump (profileDoc profile)).length) :
    store.Represents ids
      (profiles.foldl (fun fs profile => (store.save fs profile (io.save profile.id)).2) fs)
      (profiles.foldl ProfileMap.save map) := by
  induction profiles generalizing fs map with
  | nil => exact represents
  | cons profile rest ih =>
      rcases permitted profile List.mem_cons_self with ⟨idMem, succeeds⟩
      have saved := (represents.save plainIds idMem succeeds).2
      exact ih saved fun other membership => permitted other (List.mem_cons_of_mem _ membership)

theorem ensureDefaults (represents : store.Represents ids fs map)
    (faithful : store.codec.Faithful) (plainIds : PlainIds store.env ids) {io : DefaultsIO}
    (permitted : store.Permits ids (.ensureDefaults io)) :
    ∃ next, store.ensureDefaults fs io = .ok next ∧
      store.Represents ids next (map.step (.ensureDefaults io)).2 := by
  rcases represents.list_exact faithful plainIds with ⟨profiles, listed, exact_, -⟩
  have plain := fun profile member => plainIds.plain profile.id (permitted.1 profile member).1
  refine ⟨_, ensureDefaults_of_list plain listed, ?_⟩
  cases profiles with
  | cons profile rest =>
      have present : map.Present :=
        ⟨profile.id, by rw [(exact_ profile).mp List.mem_cons_self]; rfl⟩
      rw [ProfileMap.step, if_pos present]
      exact represents
  | nil =>
      have absent : ¬ map.Present := by
        rintro ⟨id, present⟩
        rcases Option.isSome_iff_exists.mp present with ⟨profile, mapped⟩
        have sameId := (represents.named id profile mapped).1
        have member := (exact_ profile).mpr (sameId ▸ mapped)
        cases member
      have saved := represents.foldl_save plainIds io ProfileStore.defaults permitted.1
      have active := saved.activeId_eq faithful
      have kept : (ProfileStore.defaults.foldl ProfileMap.save map).active = map.active := rfl
      rw [kept] at active
      rw [ProfileMap.step, if_neg absent, ProfileMap.seeded, List.isEmpty_nil, if_pos rfl,
        seededFiles, active]
      split
      · exact saved.setActiveId plainIds permitted.2
      · exact saved

theorem step (represents : store.Represents ids fs map) (faithful : store.codec.Faithful)
    (plainIds : PlainIds store.env ids) {op : StoreOp} (permitted : store.Permits ids op) :
    ∃ next, store.step fs op = .ok ((map.step op).1, next) ∧
      store.Represents ids next (map.step op).2 := by
  cases op with
  | save profile io =>
      obtain ⟨done, after⟩ := represents.save plainIds permitted.1 permitted.2
      cases saved : store.save fs profile io with
      | mk result next =>
          rw [saved] at done after
          cases done
          refine ⟨next, ?_, after⟩
          rw [ProfileStore.step, saved]
          rfl
  | remove id allowed =>
      rcases permitted with ⟨idMem, rfl⟩
      obtain ⟨done, after⟩ := represents.remove plainIds idMem
      cases removed : store.remove fs id true with
      | mk result next =>
          rw [removed] at done after
          cases done
          refine ⟨next, ?_, after⟩
          rw [ProfileStore.step, removed]
          rfl
  | setActiveId id io => exact ⟨_, rfl, represents.setActiveId plainIds permitted⟩
  | ensureDefaults io =>
      rcases represents.ensureDefaults faithful plainIds permitted with ⟨next, done, after⟩
      refine ⟨next, ?_, after⟩
      rw [ProfileStore.step, done]
      rfl

theorem run (represents : store.Represents ids fs map) (faithful : store.codec.Faithful)
    (plainIds : PlainIds store.env ids) (ops : List StoreOp)
    (permitted : ∀ op ∈ ops, store.Permits ids op) :
    ∃ last, store.run fs ops = .ok ((map.run ops).1, last) ∧
      store.Represents ids last (map.run ops).2 := by
  induction ops generalizing fs map with
  | nil => exact ⟨fs, rfl, represents⟩
  | cons op rest ih =>
      rcases represents.step faithful plainIds (permitted op List.mem_cons_self) with
        ⟨next, taken, after⟩
      rcases ih after fun other membership => permitted other (List.mem_cons_of_mem _ membership)
        with ⟨last, executed, final⟩
      refine ⟨last, ?_, final⟩
      simp only [ProfileStore.run, taken, bind, Except.bind, executed]
      rfl

end Represents

/-- An empty directory represents the empty map. -/
theorem represents_empty {fs : FileSystem store.env} (plainIds : PlainIds store.env ids)
    (empty : fs.filesIn store.dir.full = []) :
    store.Represents ids fs ProfileMap.empty := by
  have absent := store.find?_of_empty empty
  constructor
  · intro id idMem
    rw [store.file_json (plainIds.plain id idMem), absent]
    rfl
  · intro id profile mapped
    cases mapped
  · rw [store.file_active, absent]
    exact .inl ⟨rfl, rfl⟩
  · intro entry membership
    rw [empty] at membership
    cases membership

end ProfileStore

/-- Whatever operations are run from an empty directory, the store reports the results
of the map and answers every query as the map does. -/
theorem profile_store_refines_map {store : ProfileStore} (faithful : store.codec.Faithful)
    {ids : Set String} (plainIds : PlainIds store.env ids) {fs : FileSystem store.env}
    (empty : fs.filesIn store.dir.full = []) {ops : List StoreOp}
    (permitted : ∀ op ∈ ops, store.Permits ids op) :
    ∃ results map, ProfileMap.empty.run ops = (results, map) ∧
      ∃ last, store.run fs ops = .ok (results, last) ∧
        (∀ id ∈ ids, store.get last id = .ok (map.profiles id)) ∧
        (∃ profiles, store.list last = .ok profiles ∧
          (∀ profile, profile ∈ profiles ↔ map.profiles profile.id = some profile) ∧
          profiles.Pairwise fun earlier later => earlier.id < later.id) ∧
        store.activeId last = map.active := by
  have initial := ProfileStore.represents_empty plainIds empty
  rcases initial.run faithful plainIds ops permitted with ⟨last, executed, represents⟩
  refine ⟨_, _, rfl, last, executed, ?_, represents.list_exact faithful plainIds,
    represents.activeId_eq faithful⟩
  intro id idMem
  exact represents.get_eq faithful plainIds idMem

/-- The built-in profiles are installed and one of them is removed. -/
theorem profile_store_refines_map_defaults :
    ∃ last, installed.run FileSystem.empty [.ensureDefaults seeding, .remove "powersaver" true] =
        .ok ([none, some true], last) ∧
      installed.get last "performance" = .ok (some ProfileStore.performance) ∧
      installed.get last "powersaver" = .ok none ∧
      installed.activeId last = "balanced" := by
  have permitted : ∀ op ∈ [StoreOp.ensureDefaults seeding, .remove "powersaver" true],
      installed.Permits seededIds op := by
    intro op membership
    rcases List.mem_pair.mp membership with rfl | rfl
    · exact seeding_permitted
    · exact ⟨by simp [seededIds], rfl⟩
  have empty : FileSystem.filesIn (FileSystem.empty : FileSystem installed.env)
      installed.dir.full = [] := rfl
  rcases profile_store_refines_map JsonText.codec_faithful seededIds_plain empty permitted with
    ⟨results, map, mapped, last, executed, gets, -, active⟩
  have absent : ¬ ProfileMap.empty.Present := by
    rintro ⟨id, present⟩
    cases present
  simp only [ProfileMap.run, ProfileMap.step, if_neg absent] at mapped
  cases mapped
  exact ⟨last, executed, gets "performance" (by simp [seededIds]),
    gets "powersaver" (by simp [seededIds]), active⟩

end HWPanel.Core
