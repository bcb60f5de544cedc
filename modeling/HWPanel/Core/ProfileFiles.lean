import HWPanel.Core.ProfileStore
import Mathlib.Data.Set.Defs

/-!
# The files of the store

Which file each document of the store lies in, and that the document is read back
from the bytes written. All files share one directory; their names keep the
profiles, the active id and the temporary files apart.
-/

namespace HWPanel.Core

open HWPanel.Library
open HWPanel.Platform

theorem profileDoc_textual (profile : Profile) : (profileDoc profile).Textual := by
  apply Json.Textual.object
  · have keys : ["description", "id", "name", "settings"].Pairwise (· < ·) := by decide
    rw [← List.pairwise_map (f := Prod.fst) (R := (· < ·))]
    exact keys
  · intro field membership
    simp only [profileFields, List.mem_cons, List.not_mem_nil, or_false] at membership
    rcases membership with rfl | rfl | rfl | rfl
    · exact .string _
    · exact .string _
    · exact .string _
    · apply Json.Textual.object
      · rw [List.pairwise_map]
        exact profile.settings.sorted
      · intro setting membership
        rcases List.mem_map.mp membership with ⟨entry, -, rfl⟩
        exact .string entry.2

theorem activeDoc_textual (id : String) : (activeDoc id).Textual := by
  apply Json.Textual.object
  · exact List.pairwise_singleton _ _
  · intro field membership
    cases List.mem_singleton.mp membership
    exact .string id

/-- The settings read are those written: the loop inserts them in their own order. -/
theorem settingsOf_written (settings : SortedMap String String) {fields : List (String × Json)}
    (found : Json.find? fields "settings" = some (.object
      (settings.entries.map fun entry => (entry.1, .string entry.2)))) :
    settingsOf fields = settings := by
  rw [settingsOf, found]
  simp only [List.foldl_map]
  exact settings.foldl_insert

@[simp] theorem profileOfDoc_profileDoc (profile : Profile) :
    profileOfDoc (profileDoc profile) = .ok (some profile) := by
  have settings : settingsOf (profileFields profile) = profile.settings :=
    settingsOf_written profile.settings rfl
  have read : profileOfDoc (profileDoc profile) = .ok (some
      ⟨profile.id, profile.name, profile.description, settingsOf (profileFields profile)⟩) := rfl
  rw [read, settings]

@[simp] theorem value_activeDoc (id : String) : (activeDoc id).value "active" "" = .ok id := rfl

/-- A file name without its extension, and no device name, whose characters the code page
keeps. -/
structure PlainStem (env : PathEnv) (stem : String) : Prop where
  plain : PlainText stem.toList
  notDevice : ¬ env.IsDevice stem.toList
  kept : env.codePage.decode (stem ++ ".json") = some (stem ++ ".json").toList
  kept_tmp : env.codePage.decode (stem ++ ".json.tmp") = some (stem ++ ".json.tmp").toList

/-- Ids that are plain file names, distinct from each other and from `active` up to the
case folding of the file system. -/
structure PlainIds (env : PathEnv) (ids : Set String) : Prop where
  plain : ∀ id ∈ ids, PlainStem env id
  nonempty : ∀ id ∈ ids, id ≠ ""
  distinct : ∀ id ∈ ids, ∀ other ∈ ids,
    id.toList.map env.upcase = other.toList.map env.upcase → id = other
  notActive : ∀ id ∈ ids, id.toList.map env.upcase ≠ "active".toList.map env.upcase

theorem plain_json : PlainText ".json".toList := by
  decide

theorem plain_json_tmp : PlainText ".json.tmp".toList := by
  decide

@[simp] theorem deviceName_active (env : PathEnv) :
    env.deviceName "active".toList = "ACTIVE".toList := by
  have ascii : ∀ c ∈ "active".toList, env.upcase c = c.toUpper := by
    have small : isAscii "active".toList = true := by
      decide
    intro c membership
    apply env.upcase_ascii
    simpa using List.all_eq_true.mp small c membership
  have folded : env.deviceName "active".toList = "active".toList.map env.upcase := rfl
  rw [folded, List.map_congr_left ascii]
  decide

theorem plainStem_active (env : PathEnv) : PlainStem env "active" := by
  constructor
  · decide
  · rw [PathEnv.IsDevice, deviceName_active]
    exact env.active_free
  · exact env.codePage.decode_ascii _ (by decide)
  · exact env.codePage.decode_ascii _ (by decide)

theorem solid_json (stem : List Char) : SolidName (stem ++ ".json".toList) :=
  .of_getLast (c := 'n') (by rw [List.getLast?_append]; rfl) (by decide) (by decide)

theorem solid_json_tmp (stem : List Char) : SolidName (stem ++ ".json.tmp".toList) :=
  .of_getLast (c := 'p') (by rw [List.getLast?_append]; rfl) (by decide) (by decide)

@[simp] theorem extension_json {stem : List Char} (nonempty : stem ≠ []) :
    Path.extension (stem ++ ".json".toList) = ".json".toList := by
  have suffix : ((stem ++ ".json".toList).reverse.takeWhile (· ≠ '.')).length = 4 := by
    rw [List.reverse_append]
    rfl
  have long : 4 + 1 < (stem ++ ".json".toList).length := by
    rw [List.length_append]
    exact Nat.lt_add_of_pos_left (List.length_pos_iff.mpr nonempty)
  have start : (stem ++ ".json".toList).length - (4 + 1) = stem.length := by
    rw [List.length_append]
    exact Nat.add_sub_cancel _ 5
  simp only [Path.extension, suffix]
  rw [if_pos long, start, List.drop_left]

namespace ProfileStore

variable (store : ProfileStore)

/-- The file of a profile or of the active id. -/
theorem file_json {stem : String} (plain : PlainStem store.env stem) :
    store.file (stem ++ ".json") = store.dir.file (stem.toList ++ ".json".toList) := by
  rw [file, String.toList_append]
  apply store.env.resolve_join_plain store.dir (plain.plain.append plain_json) (solid_json _)
  exact fun device => plain.notDevice ((store.env.isDevice_extension _ _).mp device)

/-- Its temporary file. -/
theorem file_json_tmp {stem : String} (plain : PlainStem store.env stem) :
    store.file (stem ++ ".json.tmp") = store.dir.file (stem.toList ++ ".json.tmp".toList) := by
  rw [file, String.toList_append]
  apply store.env.resolve_join_plain store.dir (plain.plain.append plain_json_tmp)
    (solid_json_tmp _)
  exact fun device => plain.notDevice ((store.env.isDevice_extension _ _).mp device)

@[simp] theorem canHold_json {stem : String} (plain : PlainStem store.env stem) :
    store.env.canHold (store.file (stem ++ ".json")) = true := by
  rw [store.file_json plain]
  apply store.env.canHold_file store.dir (plain.plain.append plain_json) (solid_json _)
  · exact fun device => plain.notDevice ((store.env.isDevice_extension _ _).mp device)
  · exact store.room _

@[simp] theorem canHold_json_tmp {stem : String} (plain : PlainStem store.env stem) :
    store.env.canHold (store.file (stem ++ ".json.tmp")) = true := by
  rw [store.file_json_tmp plain]
  apply store.env.canHold_file store.dir (plain.plain.append plain_json_tmp) (solid_json_tmp _)
  · exact fun device => plain.notDevice ((store.env.isDevice_extension _ _).mp device)
  · exact store.room _

theorem child_json {stem : String} (plain : PlainStem store.env stem) :
    store.child (stem ++ ".json") =
      .ok (store.dir.path.join (.ofText (stem ++ ".json").toList)) := by
  rw [child, plain.kept]

theorem child_json_tmp {stem : String} (plain : PlainStem store.env stem) :
    store.child (stem ++ ".json.tmp") =
      .ok (store.dir.path.join (.ofText (stem ++ ".json.tmp").toList)) := by
  rw [child, plain.kept_tmp]

theorem active_json : "active.json" = "active" ++ ".json" := by
  decide

theorem active_json_tmp : "active.json.tmp" = "active" ++ ".json.tmp" := by
  decide

@[simp] theorem file_active : store.file "active.json" =
    store.dir.file ("active".toList ++ ".json".toList) := by
  rw [active_json]
  exact store.file_json (plainStem_active store.env)

@[simp] theorem canHold_active : store.env.canHold (store.file "active.json") = true := by
  rw [active_json]
  exact store.canHold_json (plainStem_active store.env)

@[simp] theorem canHold_active_tmp : store.env.canHold (store.file "active.json.tmp") = true := by
  rw [active_json_tmp]
  exact store.canHold_json_tmp (plainStem_active store.env)

/-- The id names this file, up to case: the file of its converted name. -/
def Names (id : String) (file : FullPath) : Prop :=
  ∃ path, store.child (id ++ ".json") = .ok path ∧
    store.env.fold (store.env.resolve path) = store.env.fold file

instance (id : String) (file : FullPath) : Decidable (store.Names id file) :=
  match converted : store.child (id ++ ".json") with
  | .ok path => decidable_of_iff
      (store.env.fold (store.env.resolve path) = store.env.fold file) (by simp [Names, converted])
  | .error _ => .isFalse (by simp [Names, converted])

theorem names_iff {id : String} (plain : PlainStem store.env id) {file : FullPath} :
    store.Names id file ↔
      store.env.fold (store.file (id ++ ".json")) = store.env.fold file := by
  rw [Names, store.child_json plain]
  constructor
  · rintro ⟨path, converted, same⟩
    cases converted
    exact same
  · exact fun same => ⟨_, rfl, same⟩

/-- No document shares its file with a temporary file. -/
theorem fold_json_ne_tmp (stem other : List Char) :
    store.env.fold (store.dir.file (stem ++ ".json".toList)) ≠
      store.env.fold (store.dir.file (other ++ ".json.tmp".toList)) := by
  rw [Ne, PathEnv.fold_file]
  intro equality
  have last := congrArg List.getLast? equality
  rw [List.map_append, List.map_append, List.getLast?_append, List.getLast?_append] at last
  have folded : store.env.upcase 'n' = store.env.upcase 'p' := Option.some.inj last
  rw [store.env.upcase_ascii _ (by decide), store.env.upcase_ascii _ (by decide)] at folded
  exact absurd folded (by decide)

theorem fold_json {stem other : List Char} :
    store.env.fold (store.dir.file (stem ++ ".json".toList)) =
        store.env.fold (store.dir.file (other ++ ".json".toList)) ↔
      stem.map store.env.upcase = other.map store.env.upcase := by
  rw [PathEnv.fold_file, List.map_append, List.map_append, List.append_left_inj]

theorem isProfileFile_file (name : Name) :
    isProfileFile (store.dir.file name) = true ↔
      ':' ∉ name ∧ Path.extension name = ".json".toList ∧ name ≠ "active.json".toList := by
  have last : (store.dir.file name).names.getLast?.getD [] = name := by
    rw [Directory.file, List.getLast?_concat, Option.getD_some]
  rw [isProfileFile, last, Bool.and_eq_true, Bool.and_eq_true, decide_eq_true_iff,
    decide_eq_true_iff, decide_eq_true_iff, and_assoc]

/-- `List` reads the files of profiles. -/
@[simp] theorem isProfileFile_json {stem : List Char} (plain : PlainText stem)
    (nonempty : stem ≠ []) (notActive : stem ≠ "active".toList) :
    isProfileFile (store.dir.file (stem ++ ".json".toList)) = true := by
  have split : "active.json".toList = "active".toList ++ ".json".toList := by decide
  rw [isProfileFile_file, split]
  refine ⟨?_, extension_json nonempty, fun equality =>
    notActive (List.append_cancel_right equality)⟩
  exact fun colon => (plain.append plain_json _ colon).2 rfl

@[simp] theorem isProfileFile_active :
    isProfileFile (store.dir.file ("active".toList ++ ".json".toList)) = false := by
  have same : "active".toList ++ ".json".toList = "active.json".toList := by decide
  rw [← Bool.not_eq_true, isProfileFile_file]
  exact fun read => read.2.2 same

/-- In an empty directory no name stands for a file. -/
theorem find?_of_empty {fs : FileSystem store.env} (empty : fs.filesIn store.dir.full = [])
    (name : Name) : fs.find? (store.dir.file name) = none := by
  rw [KeyedMap.find?_eq_none]
  intro entry member same
  have inDir : entry ∈ fs.filesIn store.dir.full := by
    refine FileSystem.mem_filesIn.mpr ⟨member, ?_⟩
    rw [PathEnv.fold_parent, same, ← PathEnv.fold_parent, Directory.parent_file]
  rw [empty] at inDir
  cases inDir

/-- A file that holds the document of a profile is parsed to it. -/
theorem parseProfileFile_of_find {store : ProfileStore} (faithful : store.codec.Faithful)
    {fs : FileSystem store.env} {path : Path}
    (holds : store.env.canHold (store.env.resolve path) = true) {stored : Option Profile}
    (found : fs.find? (store.env.resolve path) =
      stored.map fun profile => store.codec.dump (profileDoc profile)) :
    store.parseProfileFile fs path = .ok stored := by
  rw [parseProfileFile, fs.read_of_canHold holds, found]
  cases stored with
  | none => rfl
  | some profile =>
      simp only [Option.map_some, faithful.parse_dump _ (profileDoc_textual profile),
        profileOfDoc_profileDoc]

theorem get_put {store : ProfileStore} (faithful : store.codec.Faithful)
    (fs : FileSystem store.env) {id : String} {path : Path}
    (converted : store.child (id ++ ".json") = .ok path)
    (holds : store.env.canHold (store.env.resolve path) = true) (profile : Profile) :
    store.get (fs.put (store.env.resolve path) (store.codec.dump (profileDoc profile))) id =
      .ok (some profile) := by
  rw [get, converted]
  apply parseProfileFile_of_find faithful holds
  rw [FileSystem.find?_put holds, if_pos rfl]
  rfl

theorem get_put_plain {store : ProfileStore} (faithful : store.codec.Faithful)
    (fs : FileSystem store.env) {id : String} (plain : PlainStem store.env id)
    (profile : Profile) :
    store.get (fs.put (store.file (id ++ ".json")) (store.codec.dump (profileDoc profile))) id =
      .ok (some profile) :=
  get_put faithful fs (store.child_json plain) (store.canHold_json plain) profile

theorem activeId_of_find {store : ProfileStore} (faithful : store.codec.Faithful)
    {fs : FileSystem store.env} {id : String}
    (found : fs.find? (store.file "active.json") = some (store.codec.dump (activeDoc id))) :
    store.activeId fs = id := by
  rw [activeId, fs.read_of_canHold store.canHold_active, found]
  simp only [faithful.parse_dump _ (activeDoc_textual id), value_activeDoc]

/-- An active id that could be written is read back. -/
@[simp] theorem activeId_setActiveId {store : ProfileStore} (faithful : store.codec.Faithful)
    (fs : FileSystem store.env) {id : String} {io : WriteIO}
    (succeeds : io.Succeeds (store.codec.dump (activeDoc id)).length) :
    store.activeId (store.setActiveId fs id io) = id := by
  apply activeId_of_find faithful
  rw [setActiveId, FileSystem.find?_replace store.canHold_active_tmp store.canHold_active fs
    succeeds, if_pos rfl]

end ProfileStore

end HWPanel.Core
