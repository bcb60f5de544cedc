import HWPanel.Core.Listing

/-!
# What an operation changes

The effect of `Save`, `Remove` and `SetActiveId` on `Get`, `ActiveId` and the files that
`List` reads, on any directory, once their file operations succeed. Ids that differ in
case only name one file, and `active` names the file of the active id.
-/

namespace HWPanel.Core

open HWPanel.Library
open HWPanel.Platform

namespace ProfileStore

variable (store : ProfileStore)

/-- Both ids name one file. -/
def SameFile (id other : String) : Prop := ∃ file, store.Names id file ∧ store.Names other file

instance (id other : String) : Decidable (store.SameFile id other) :=
  match converted : store.child (other ++ ".json") with
  | .ok path => decidable_of_iff (store.Names id (store.env.resolve path)) (by
      constructor
      · exact fun names => ⟨_, names, path, converted, rfl⟩
      · rintro ⟨file, names, otherPath, otherConverted, same⟩
        cases converted.symm.trans otherConverted
        rwa [Names, same])
  | .error _ => .isFalse (by
      rintro ⟨file, -, path, otherConverted, -⟩
      cases converted.symm.trans otherConverted)

/-- The id names the file of the active id. -/
abbrev NamesMarker (id : String) : Prop := store.Names id (store.file "active.json")

variable {store} in
theorem names_congr {id : String} {file other : FullPath}
    (same : store.env.fold file = store.env.fold other) :
    store.Names id file ↔ store.Names id other := by
  rw [Names, Names, same]

theorem sameFile_iff {id other : String} (plain : PlainStem store.env other) :
    store.SameFile id other ↔ store.Names id (store.file (other ++ ".json")) := by
  constructor
  · rintro ⟨file, names, otherNames⟩
    exact (names_congr ((store.names_iff plain).mp otherNames)).mpr names
  · exact fun names => ⟨_, names, (store.names_iff plain).mpr rfl⟩

theorem sameFile_comm {id other : String} : store.SameFile id other ↔ store.SameFile other id :=
  exists_congr fun _ => And.comm

theorem namesMarker_iff {id : String} (plain : PlainStem store.env id) :
    store.NamesMarker id ↔
      id.toList.map store.env.upcase = "active".toList.map store.env.upcase := by
  rw [NamesMarker, store.names_iff plain, store.file_json plain, store.file_active, fold_json]

theorem active_namesMarker : store.NamesMarker "active" := by
  rw [NamesMarker, store.names_iff (plainStem_active store.env), active_json]

/-- Ids of another length name another file. -/
theorem not_namesMarker_of_length {id : String} (plain : PlainStem store.env id)
    (length : id.toList.length ≠ 6) : ¬store.NamesMarker id := by
  rw [store.namesMarker_iff plain]
  intro same
  have lengths := congrArg List.length same
  rw [List.length_map, List.length_map] at lengths
  exact length lengths

theorem marker_ne_tmp {stem : String} (plain : PlainStem store.env stem) :
    store.env.fold (store.file "active.json") ≠
      store.env.fold (store.file (stem ++ ".json.tmp")) := by
  rw [store.file_active, store.file_json_tmp plain]
  exact store.fold_json_ne_tmp _ _

theorem json_ne_tmp {id stem : String} (idPlain : PlainStem store.env id)
    (plain : PlainStem store.env stem) :
    store.env.fold (store.file (id ++ ".json")) ≠
      store.env.fold (store.file (stem ++ ".json.tmp")) := by
  rw [store.file_json idPlain, store.file_json_tmp plain]
  exact store.fold_json_ne_tmp _ _

theorem json_ne_marker_tmp {id : String} (plain : PlainStem store.env id) :
    store.env.fold (store.file (id ++ ".json")) ≠
      store.env.fold (store.file "active.json.tmp") := by
  rw [active_json_tmp]
  exact store.json_ne_tmp plain (plainStem_active store.env)

@[simp] theorem isProfileFile_active_file : isProfileFile (store.file "active.json") = false := by
  rw [store.file_active]
  exact store.isProfileFile_active

variable {store} {fs other : FileSystem store.env}

/-- `Get` by the path of the id. -/
theorem get_of_child {id : String} {path : Path} (fs : FileSystem store.env)
    (converted : store.child (id ++ ".json") = .ok path) :
    store.get fs id =
      match fs.read (store.env.resolve path) with
      | none => .ok none
      | some bytes => store.parseBytes path bytes := by
  rw [get, converted]
  rfl

/-- `Get` of a plain id. -/
theorem get_of_plain {id : String} (plain : PlainStem store.env id)
    (fs : FileSystem store.env) :
    store.get fs id =
      match fs.find? (store.file (id ++ ".json")) with
      | none => .ok none
      | some bytes =>
          store.parseBytes (store.dir.path.join (.ofText (id ++ ".json").toList)) bytes := by
  rw [← fs.read_of_canHold (store.canHold_json plain)]
  exact get_of_child fs (store.child_json plain)

/-- `Get` depends on the file of the id. -/
theorem get_congr {id : String} (same : ∀ path, store.child (id ++ ".json") = .ok path →
    fs.read (store.env.resolve path) = other.read (store.env.resolve path)) :
    store.get fs id = store.get other id := by
  cases converted : store.child (id ++ ".json") with
  | error thrown => rw [get, get, converted]; rfl
  | ok path => rw [get_of_child fs converted, get_of_child other converted, same path converted]

/-- An id that names this file is looked up there. -/
theorem get_of_names {id : String} {name : Name} (names : store.Names id (store.dir.file name)) :
    ∃ path, ∀ fs : FileSystem store.env, store.get fs id =
      match fs.find? (store.dir.file name) with
      | none => .ok none
      | some bytes => store.parseBytes path bytes := by
  obtain ⟨path, converted, same⟩ := names
  exact ⟨path, fun fs => by rw [get_of_child fs converted, fs.read_of_fold same]⟩

/-- An id that names another file does not see a change of this one. -/
theorem get_congr_of_find? {id : String} (same : ∀ file, store.Names id file →
    fs.find? file = other.find? file) : store.get fs id = store.get other id := by
  apply get_congr
  intro path converted
  rw [FileSystem.read, FileSystem.read, same _ ⟨path, converted, rfl⟩]

theorem activeId_congr (same : fs.find? (store.file "active.json") =
    other.find? (store.file "active.json")) : store.activeId fs = store.activeId other := by
  rw [activeId, activeId, fs.read_of_canHold store.canHold_active,
    other.read_of_canHold store.canHold_active, same]

theorem activeId_of_absent (absent : fs.find? (store.file "active.json") = none) :
    store.activeId fs = "" := by
  rw [activeId, fs.read_of_canHold store.canHold_active, absent]

/-- The document of a profile has no active id. -/
theorem activeId_of_profileDoc (faithful : store.codec.Faithful) {profile : Profile}
    (found : fs.find? (store.file "active.json") =
      some (store.codec.dump (profileDoc profile))) : store.activeId fs = "" := by
  have unset : (profileDoc profile).value "active" "" = .ok "" := rfl
  rw [activeId, fs.read_of_canHold store.canHold_active, found]
  simp only [faithful.parse_dump _ (profileDoc_textual profile), unset]

/-- The document of the active id holds no profile. -/
theorem parseBytes_activeDoc (faithful : store.codec.Faithful) (id : String) (path : Path) :
    store.parseBytes path (store.codec.dump (activeDoc id)) = store.warn path := by
  rw [parseBytes, faithful.parse_dump _ (activeDoc_textual id)]
  rfl

/-- A warning is no profile. -/
theorem not_some_of_warn {path : Path} {profile : Profile} :
    store.warn path ≠ .ok (some profile) := by
  rw [warn]
  split
  · intro same
    cases same
  · intro same
    cases same

section Save

variable {profile : Profile} {io : WriteIO}
  (succeeds : io.Succeeds (store.codec.dump (profileDoc profile)).length)
  (plain : PlainStem store.env profile.id)

include plain in
/-- A `Save` under a plain id replaces its file. -/
theorem save_of_plain (fs : FileSystem store.env) (io : WriteIO) :
    store.save fs profile io =
      (.ok ((fs.replace (store.file (profile.id ++ ".json.tmp"))
          (store.file (profile.id ++ ".json")) (store.codec.dump (profileDoc profile)) io).1.getD
            false),
        (fs.replace (store.file (profile.id ++ ".json.tmp")) (store.file (profile.id ++ ".json"))
          (store.codec.dump (profileDoc profile)) io).2) := by
  rw [save, store.child_json plain, store.child_json_tmp plain]
  rfl

include succeeds plain

theorem find?_save (fs : FileSystem store.env) (file : FullPath) :
    (store.save fs profile io).2.find? file =
      if store.env.fold file = store.env.fold (store.file (profile.id ++ ".json")) then
        some (store.codec.dump (profileDoc profile))
      else if store.env.fold file = store.env.fold (store.file (profile.id ++ ".json.tmp")) then
        none
      else fs.find? file := by
  rw [save_of_plain plain]
  exact FileSystem.find?_replace (store.canHold_json_tmp plain) (store.canHold_json plain) fs
    succeeds file

theorem get_save (faithful : store.codec.Faithful) (fs : FileSystem store.env) {id : String}
    (idPlain : PlainStem store.env id) :
    store.get (store.save fs profile io).2 id =
      if store.SameFile id profile.id then .ok (some profile) else store.get fs id := by
  split
  case isTrue same =>
    rw [store.sameFile_iff plain, store.file_json plain] at same
    obtain ⟨path, got⟩ := get_of_names same
    rw [got, find?_save succeeds plain, store.file_json plain, if_pos rfl]
    exact store.parseBytes_profileDoc faithful path profile
  case isFalse apart =>
    apply get_congr_of_find?
    intro file names
    have same := (store.names_iff idPlain).mp names
    have notTmp := store.json_ne_tmp idPlain plain
    have notFile : store.env.fold file ≠ store.env.fold (store.file (profile.id ++ ".json")) :=
      fun equal => apart ((store.sameFile_iff plain).mpr ((names_congr equal).mp names))
    rw [same] at notTmp
    rw [find?_save succeeds plain, if_neg notFile, if_neg notTmp]

/-- A save under another name leaves the file of the active id. -/
theorem find?_marker_save (fs : FileSystem store.env) (apart : ¬store.NamesMarker profile.id) :
    (store.save fs profile io).2.find? (store.file "active.json") =
      fs.find? (store.file "active.json") := by
  rw [NamesMarker, store.names_iff plain] at apart
  rw [find?_save succeeds plain, if_neg fun same => apart same.symm,
    if_neg (store.marker_ne_tmp plain)]

theorem activeId_save (faithful : store.codec.Faithful) (fs : FileSystem store.env) :
    store.activeId (store.save fs profile io).2 =
      if store.NamesMarker profile.id then "" else store.activeId fs := by
  split
  case isTrue marker =>
    have found := find?_save succeeds plain fs (store.file "active.json")
    rw [if_pos ((store.names_iff plain).mp marker).symm] at found
    exact activeId_of_profileDoc faithful found
  case isFalse apart => exact activeId_congr (find?_marker_save succeeds plain fs apart)

/-- The listed files after a save are the one it wrote, if that is listed, and the others
that were. -/
theorem mem_listedFiles_save {entry : FullPath × List UInt8} :
    entry ∈ store.listedFiles (store.save fs profile io).2 ↔
      (entry = (store.file (profile.id ++ ".json"), store.codec.dump (profileDoc profile)) ∧
        profile.id ≠ "" ∧ profile.id ≠ "active") ∨
      (entry ∈ store.listedFiles fs ∧
        store.env.fold entry.1 ≠ store.env.fold (store.file (profile.id ++ ".json"))) := by
  have written := FileSystem.mem_replace (store.canHold_json_tmp plain)
    (store.canHold_json plain) fs succeeds entry
  rw [save_of_plain plain]
  constructor
  · intro listed
    obtain ⟨member, inDir, selected⟩ := store.mem_listedFiles.mp listed
    cases written.mp member with
    | inl new =>
        rw [new] at listed
        exact .inl ⟨new, ((store.listed_json_iff plain).mp listed).2⟩
    | inr old => exact .inr ⟨store.mem_listedFiles.mpr ⟨old.1, inDir, selected⟩, old.2.2⟩
  · intro either
    cases either with
    | inl new =>
        rw [new.1]
        rw [new.1] at written
        exact (store.listed_json_iff plain).mpr ⟨written.mpr (.inl rfl), new.2⟩
    | inr old =>
        obtain ⟨member, inDir, selected⟩ := store.mem_listedFiles.mp old.1
        exact store.mem_listedFiles.mpr
          ⟨written.mpr (.inr ⟨member, store.fold_ne_tmp selected plain, old.2⟩), inDir, selected⟩

end Save

/-- A list of profiles with plain ids is saved one after the other. -/
theorem saveAll_eq {io : DefaultsIO} {profiles : List Profile}
    (plain : ∀ profile ∈ profiles, PlainStem store.env profile.id)
    (fs : FileSystem store.env) :
    store.saveAll io profiles fs = .ok (profiles.foldl (fun fs profile =>
      (store.save fs profile (io.save profile.id)).2) fs) := by
  induction profiles generalizing fs with
  | nil => rfl
  | cons profile rest ih =>
      rw [saveAll, save_of_plain (plain profile List.mem_cons_self), List.foldl_cons,
        save_of_plain (plain profile List.mem_cons_self)]
      exact ih (fun other member => plain other (List.mem_cons_of_mem _ member)) _

theorem remove_of_plain {id : String} (plain : PlainStem store.env id)
    (fs : FileSystem store.env) (permitted : Bool) :
    store.remove fs id permitted =
      (.ok (fs.remove (store.file (id ++ ".json")) permitted).1,
        (fs.remove (store.file (id ++ ".json")) permitted).2) := by
  rw [remove, store.child_json plain]
  rfl

theorem find?_remove (fs : FileSystem store.env) (id : String) (file : FullPath) :
    (store.remove fs id true).2.find? file =
      if store.Names id file then none else fs.find? file := by
  rw [remove]
  cases converted : store.child (id ++ ".json") with
  | error thrown =>
      have unnamed : ¬store.Names id file := by
        rintro ⟨path, named, -⟩
        cases converted.symm.trans named
      rw [if_neg unnamed]
  | ok path =>
      have names : store.Names id file ↔
          store.env.fold file = store.env.fold (store.env.resolve path) := by
        simp [Names, converted, eq_comm]
      simp only [FileSystem.remove_permitted, FileSystem.find?_erase, names]

theorem get_remove (fs : FileSystem store.env) (removed : String) {id : String}
    (plain : PlainStem store.env id) :
    store.get (store.remove fs removed true).2 id =
      if store.SameFile id removed then .ok none else store.get fs id := by
  split
  case isTrue same =>
    rw [sameFile_comm, store.sameFile_iff plain, store.file_json plain] at same
    have names := (store.names_iff plain).mpr (congrArg store.env.fold (store.file_json plain))
    obtain ⟨path, got⟩ := get_of_names names
    rw [got, find?_remove, if_pos same]
  case isFalse apart =>
    apply get_congr_of_find?
    intro file names
    rw [find?_remove, if_neg fun removes => apart ⟨file, names, removes⟩]

theorem find?_marker_remove (fs : FileSystem store.env) {removed : String}
    (apart : ¬store.NamesMarker removed) :
    (store.remove fs removed true).2.find? (store.file "active.json") =
      fs.find? (store.file "active.json") := by
  rw [find?_remove, if_neg apart]

theorem activeId_remove (fs : FileSystem store.env) (removed : String) :
    store.activeId (store.remove fs removed true).2 =
      if store.NamesMarker removed then "" else store.activeId fs := by
  split
  case isTrue marker =>
    have found := find?_remove fs removed (store.file "active.json")
    rw [if_pos marker] at found
    exact activeId_of_absent found
  case isFalse apart => exact activeId_congr (find?_marker_remove fs apart)

section SetActiveId

variable {active : String} {io : WriteIO}
  (succeeds : io.Succeeds (store.codec.dump (activeDoc active)).length)
include succeeds

theorem find?_setActiveId (fs : FileSystem store.env) (file : FullPath) :
    (store.setActiveId fs active io).find? file =
      if store.env.fold file = store.env.fold (store.file "active.json") then
        some (store.codec.dump (activeDoc active))
      else if store.env.fold file = store.env.fold (store.file "active.json.tmp") then none
      else fs.find? file :=
  FileSystem.find?_replace store.canHold_active_tmp store.canHold_active fs succeeds file

/-- Neither the file of the active id nor its temporary file holds a profile then; the
former is warned of. -/
theorem get_setActiveId (faithful : store.codec.Faithful) (fs : FileSystem store.env)
    {id : String} {path : Path} (converted : store.child (id ++ ".json") = .ok path) :
    store.get (store.setActiveId fs active io) id =
      if store.env.fold (store.env.resolve path) = store.env.fold (store.file "active.json") then
        store.warn path
      else if store.env.fold (store.env.resolve path) =
          store.env.fold (store.file "active.json.tmp") then .ok none
      else store.get fs id := by
  split
  case isTrue marker =>
    rw [store.file_active] at marker
    rw [get_of_child _ converted, FileSystem.read_of_fold _ marker, ← store.file_active,
      find?_setActiveId succeeds, if_pos rfl]
    exact parseBytes_activeDoc faithful active path
  case isFalse notMarker =>
    split
    case isTrue temporary =>
      have tmp := store.file_json_tmp (plainStem_active store.env)
      rw [← active_json_tmp] at tmp
      rw [tmp] at temporary
      rw [get_of_child _ converted, FileSystem.read_of_fold _ temporary, ← tmp,
        find?_setActiveId succeeds, if_neg, if_pos rfl]
      rw [tmp, ← temporary]
      exact notMarker
    case isFalse notTemporary =>
      apply get_congr_of_find?
      rintro file ⟨other, otherConverted, same⟩
      cases converted.symm.trans otherConverted
      rw [find?_setActiveId succeeds, if_neg (same ▸ notMarker), if_neg (same ▸ notTemporary)]

theorem get_setActiveId_of_plain (faithful : store.codec.Faithful) (fs : FileSystem store.env)
    {id : String} (plain : PlainStem store.env id) :
    store.get (store.setActiveId fs active io) id =
      if store.NamesMarker id then
        store.warn (store.dir.path.join (.ofText (id ++ ".json").toList))
      else store.get fs id := by
  rw [get_setActiveId succeeds faithful fs (store.child_json plain)]
  have names : store.NamesMarker id ↔ _ := store.names_iff plain
  have notTmp := store.json_ne_marker_tmp plain
  split
  case isTrue marker => rw [if_pos (names.mpr marker)]
  case isFalse apart =>
    rw [if_neg (mt names.mp apart)]
    exact if_neg notTmp

/-- Writing the active id removes a listed file only if that is `active.json` in another
case. -/
theorem listedFiles_setActiveId (fs : FileSystem store.env) :
    store.listedFiles (store.setActiveId fs active io) =
      (store.listedFiles fs).filter fun entry =>
        store.env.fold entry.1 ≠ store.env.fold (store.file "active.json") := by
  have kept := store.listedFiles_set_tmp fs (plainStem_active store.env)
    (store.codec.dump (activeDoc active))
  have holds := store.canHold_active
  rw [← active_json_tmp] at kept
  rw [← kept, setActiveId,
    FileSystem.replace_of_succeeds store.canHold_active_tmp holds fs succeeds]
  simp only [listedFiles, FileSystem.filesIn, FileSystem.put, dif_pos holds, KeyedMap.put,
    KeyedMap.erase, FileSystem.erase, List.filter_append, List.filter_filter]
  have unlisted : isProfileFile (store.file "active.json") = false :=
    store.isProfileFile_active_file
  simp only [List.filter_cons, List.filter_nil, unlisted, Bool.false_and, Bool.false_eq_true,
    if_false, List.append_nil]
  apply List.filter_congr
  intro entry _
  cases selected : isProfileFile entry.1 with
  | false => simp
  | true =>
      have notTmp := store.fold_ne_tmp selected (plainStem_active store.env)
      rw [← active_json_tmp] at notTmp
      simp [notTmp, Bool.and_comm]

theorem mem_listedFiles_setActiveId {entry : FullPath × List UInt8} :
    entry ∈ store.listedFiles (store.setActiveId fs active io) ↔
      entry ∈ store.listedFiles fs ∧
        store.env.fold entry.1 ≠ store.env.fold (store.file "active.json") := by
  rw [listedFiles_setActiveId succeeds, List.mem_filter, decide_eq_true_iff]

end SetActiveId

/-- The files after `EnsureDefaults` on a directory without profiles. -/
def seededFiles (io : DefaultsIO) (fs : FileSystem store.env) : FileSystem store.env :=
  let saved := defaults.foldl (fun fs profile =>
    (store.save fs profile (io.save profile.id)).2) fs
  if store.activeId saved = "" then store.setActiveId saved "balanced" io.setActiveId else saved

/-- What `EnsureDefaults` does is decided by its listing. -/
theorem ensureDefaults_of_list {io : DefaultsIO} {profiles : List Profile}
    (plain : ∀ profile ∈ defaults, PlainStem store.env profile.id)
    (listed : store.list fs = .ok profiles) :
    store.ensureDefaults fs io =
      .ok (if profiles.isEmpty then seededFiles io fs else fs) := by
  rw [ensureDefaults, listed]
  cases profiles with
  | cons profile rest => rfl
  | nil =>
      simp only [Bind.bind, Except.bind, List.isEmpty_nil, if_true, saveAll_eq plain, seededFiles]
      split
      · rfl
      · rfl

end ProfileStore

end HWPanel.Core
