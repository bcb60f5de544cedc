import HWPanel.Core.ProfileFiles

/-!
# What a listing reads

`List` on an arbitrary directory: the files it selects, what each of them is read as,
and when reading one of them throws.
-/

namespace HWPanel.Core

open HWPanel.Library
open HWPanel.Platform

/-- The field is absent or a string. -/
def textOr (fields : List (String × Json)) (key default : String) : Option String :=
  match Json.find? fields key with
  | none => some default
  | some (.string text) => some text
  | some _ => none

/-- The profile a document stands for: an object with a string id whose name and
description are absent or strings. -/
def loadable? (doc : Json) : Option Profile :=
  match doc with
  | .object fields =>
      match Json.find? fields "id" with
      | some (.string id) => do
          let name ← textOr fields "name" id
          let description ← textOr fields "description" ""
          return ⟨id, name, description, settingsOf fields⟩
      | _ => none
  | _ => none

/-- An object with a string id. -/
def Identified (doc : Json) : Prop :=
  ∃ fields id, doc = .object fields ∧ Json.find? fields "id" = some (.string id)

/-- A document that passes the check of its id, but whose name or description is there
and no string. -/
def Mistyped (doc : Json) : Prop :=
  ∃ fields id, doc = .object fields ∧ Json.find? fields "id" = some (.string id) ∧
    (textOr fields "name" id = none ∨ textOr fields "description" "" = none)

theorem value_eq_textOr (fields : List (String × Json)) (key default : String) :
    (Json.object fields).value key default =
      match textOr fields key default with
      | some text => .ok text
      | none => .error .typeError := by
  rw [Json.value, textOr]
  cases Json.find? fields key with
  | none => rfl
  | some value =>
      cases value with
      | string text => rfl
      | null => rfl
      | boolean value => rfl
      | number value => rfl
      | array elements => rfl
      | object fields => rfl

/-- What `ParseProfileFile` does with the fields of an object. -/
theorem profileOfDoc_of_id {fields : List (String × Json)} {id : String}
    (found : Json.find? fields "id" = some (.string id)) :
    profileOfDoc (.object fields) =
      match textOr fields "name" id, textOr fields "description" "" with
      | some name, some description =>
          .ok (some ⟨id, name, description, settingsOf fields⟩)
      | _, _ => .error .typeError := by
  have idText : textOr fields "id" "" = some id := by rw [textOr, found]
  simp only [profileOfDoc, found, value_eq_textOr, idText]
  cases nameEq : textOr fields "name" id with
  | none => simp [nameEq, Bind.bind, Except.bind]
  | some name =>
      cases descriptionEq : textOr fields "description" "" with
      | none => simp [nameEq, Bind.bind, Except.bind]
      | some description => simp [nameEq, Bind.bind, Except.bind, pure, Except.pure]

theorem profileOfDoc_of_mistyped {doc : Json} (mistyped : Mistyped doc) :
    profileOfDoc doc = .error .typeError := by
  obtain ⟨fields, id, rfl, found, missing⟩ := mistyped
  rw [profileOfDoc_of_id found]
  cases nameEq : textOr fields "name" id with
  | none => rfl
  | some name =>
      cases descriptionEq : textOr fields "description" "" with
      | none => rfl
      | some description => simp [nameEq, descriptionEq] at missing

theorem profileOfDoc_of_not_mistyped {doc : Json} (typed : ¬Mistyped doc) :
    profileOfDoc doc = .ok (loadable? doc) := by
  unfold loadable?
  split
  next fields =>
    split
    next id found =>
      rw [profileOfDoc_of_id found]
      cases nameEq : textOr fields "name" id with
      | none => exact absurd ⟨fields, id, rfl, found, .inl nameEq⟩ typed
      | some name =>
          cases descriptionEq : textOr fields "description" "" with
          | none => exact absurd ⟨fields, id, rfl, found, .inr descriptionEq⟩ typed
          | some description => rfl
    next noId => simp only [profileOfDoc]
  next noObject =>
    unfold profileOfDoc
    split
    next fields => exact absurd rfl (noObject fields)
    next => rfl

/-- A document that is not mistyped holds a profile as soon as it has an id. -/
theorem loadable?_isSome_iff {doc : Json} (typed : ¬Mistyped doc) :
    (loadable? doc).isSome ↔ Identified doc := by
  constructor
  · intro present
    unfold loadable? at present
    split at present
    next fields =>
      split at present
      next id found => exact ⟨fields, id, rfl, found⟩
      next => cases present
    next => cases present
  · rintro ⟨fields, id, rfl, found⟩
    simp only [loadable?, found]
    cases nameEq : textOr fields "name" id with
    | none => exact absurd ⟨fields, id, rfl, found, .inl nameEq⟩ typed
    | some name =>
        cases descriptionEq : textOr fields "description" "" with
        | none => exact absurd ⟨fields, id, rfl, found, .inr descriptionEq⟩ typed
        | some description => rfl

theorem not_mistyped_of_loadable {doc : Json} {profile : Profile}
    (loaded : loadable? doc = some profile) : ¬Mistyped doc := by
  rintro ⟨fields, id, rfl, found, missing⟩
  rcases missing with nameEq | descriptionEq
  · simp [loadable?, found, nameEq] at loaded
  · simp [loadable?, found, descriptionEq] at loaded

namespace ProfileStore

variable (store : ProfileStore)

/-- `ParseProfileFile` from the bytes of the file. -/
def parseBytes (path : Path) (bytes : List UInt8) : Except StoreError (Option Profile) :=
  match store.codec.parse bytes with
  | none => store.warn path
  | some doc =>
      match profileOfDoc doc with
      | .error _ => .error .typeError
      | .ok none => store.warn path
      | .ok (some profile) => .ok (some profile)

theorem parseProfileFile_eq (fs : FileSystem store.env) (path : Path) :
    store.parseProfileFile fs path =
      match fs.read (store.env.resolve path) with
      | none => .ok none
      | some bytes => store.parseBytes path bytes := rfl

/-- Reading these bytes from a file throws: a name or description has another type, or the
file is corrupt or malformed and its path cannot be put into the warning. -/
def Raises (path : Path) (bytes : List UInt8) : Prop :=
  (∃ doc, store.codec.parse bytes = some doc ∧ Mistyped doc) ∨
    store.env.codePage.prints path = false ∧
      ¬∃ doc, store.codec.parse bytes = some doc ∧ Identified doc

/-- The profile in these bytes, if they are loaded. -/
def profileIn (bytes : List UInt8) : Option Profile :=
  (store.codec.parse bytes).bind loadable?

/-- What is skipped is warned of. -/
theorem parseBytes_of_skipped {path : Path} {bytes : List UInt8}
    (skipped : ¬∃ doc, store.codec.parse bytes = some doc ∧ Identified doc) :
    store.parseBytes path bytes = store.warn path := by
  unfold parseBytes
  cases parsed : store.codec.parse bytes with
  | none => rfl
  | some doc =>
      have typed : ¬Mistyped doc := by
        rintro ⟨fields, id, isObject, found, -⟩
        exact skipped ⟨doc, parsed, fields, id, isObject, found⟩
      have unloaded : loadable? doc = none := by
        rw [← Option.not_isSome_iff_eq_none, loadable?_isSome_iff typed]
        exact fun identified => skipped ⟨doc, parsed, identified⟩
      simp only [profileOfDoc_of_not_mistyped typed, unloaded]

theorem parseBytes_of_identified {path : Path} {bytes : List UInt8} {doc : Json}
    (parsed : store.codec.parse bytes = some doc) (typed : ¬Mistyped doc)
    (identified : Identified doc) :
    store.parseBytes path bytes = .ok (loadable? doc) := by
  obtain ⟨profile, loaded⟩ :=
    Option.isSome_iff_exists.mp ((loadable?_isSome_iff typed).mpr identified)
  simp only [parseBytes, parsed, profileOfDoc_of_not_mistyped typed, loaded]

theorem parseBytes_of_mistyped {path : Path} {bytes : List UInt8} {doc : Json}
    (parsed : store.codec.parse bytes = some doc) (mistyped : Mistyped doc) :
    store.parseBytes path bytes = .error .typeError := by
  simp only [parseBytes, parsed, profileOfDoc_of_mistyped mistyped]

theorem parseBytes_of_raises {path : Path} {bytes : List UInt8}
    (raises : store.Raises path bytes) :
    ∃ thrown, store.parseBytes path bytes = .error thrown := by
  rcases raises with ⟨doc, parsed, mistyped⟩ | ⟨unprinted, skipped⟩
  · exact ⟨_, store.parseBytes_of_mistyped parsed mistyped⟩
  · refine ⟨.noConversion, ?_⟩
    rw [store.parseBytes_of_skipped skipped, warn, unprinted]
    rfl

theorem parseBytes_of_not_raises {path : Path} {bytes : List UInt8}
    (tame : ¬store.Raises path bytes) :
    store.parseBytes path bytes = .ok (store.profileIn bytes) := by
  rw [Raises, not_or] at tame
  by_cases skipped : ∃ doc, store.codec.parse bytes = some doc ∧ Identified doc
  · obtain ⟨doc, parsed, identified⟩ := skipped
    have typed : ¬Mistyped doc := fun mistyped => tame.1 ⟨doc, parsed, mistyped⟩
    rw [store.parseBytes_of_identified parsed typed identified, profileIn, parsed]
    rfl
  · have printed : store.env.codePage.prints path = true := by
      rw [← Bool.not_eq_false]
      exact fun unprinted => tame.2 ⟨unprinted, skipped⟩
    have unloaded : store.profileIn bytes = none := by
      rw [profileIn, Option.bind_eq_none_iff]
      intro doc parsed
      have typed : ¬Mistyped doc := fun mistyped => tame.1 ⟨doc, parsed, mistyped⟩
      rw [← Option.not_isSome_iff_eq_none, loadable?_isSome_iff typed]
      exact fun identified => skipped ⟨doc, parsed, identified⟩
    rw [store.parseBytes_of_skipped skipped, warn, printed, unloaded]
    rfl

theorem parseBytes_isOk_iff {path : Path} {bytes : List UInt8} :
    (∃ result, store.parseBytes path bytes = .ok result) ↔ ¬store.Raises path bytes := by
  constructor
  · intro loaded raises
    obtain ⟨result, parsed⟩ := loaded
    obtain ⟨thrown, failed⟩ := store.parseBytes_of_raises raises
    rw [failed] at parsed
    cases parsed
  · intro tame
    exact ⟨_, store.parseBytes_of_not_raises tame⟩

/-- Bytes that hold a profile are read, whatever the path. -/
theorem not_raises_of_profileIn {bytes : List UInt8} {profile : Profile}
    (held : store.profileIn bytes = some profile) (path : Path) :
    ¬store.Raises path bytes := by
  obtain ⟨doc, parsed, loaded⟩ := Option.bind_eq_some_iff.mp held
  have typed := not_mistyped_of_loadable loaded
  rintro (⟨other, otherParsed, mistyped⟩ | ⟨-, skipped⟩)
  · cases parsed.symm.trans otherParsed
    exact typed mistyped
  · apply skipped
    refine ⟨doc, parsed, (loadable?_isSome_iff typed).mp ?_⟩
    rw [loaded]
    rfl

theorem parseBytes_eq_some_iff {path : Path} {bytes : List UInt8} {profile : Profile} :
    store.parseBytes path bytes = .ok (some profile) ↔
      store.profileIn bytes = some profile := by
  constructor
  · intro parsed
    have tame := store.parseBytes_isOk_iff.mp ⟨_, parsed⟩
    rw [store.parseBytes_of_not_raises tame] at parsed
    exact Except.ok.inj parsed
  · intro held
    rw [store.parseBytes_of_not_raises (store.not_raises_of_profileIn held path), held]

/-- The document of a profile holds that profile. -/
@[simp] theorem profileIn_profileDoc (faithful : store.codec.Faithful) (profile : Profile) :
    store.profileIn (store.codec.dump (profileDoc profile)) = some profile := by
  rw [profileIn, faithful.parse_dump _ (profileDoc_textual profile), Option.bind_some]
  have loaded := profileOfDoc_profileDoc profile
  have typed : ¬Mistyped (profileDoc profile) := by
    intro mistyped
    cases (profileOfDoc_of_mistyped mistyped).symm.trans loaded
  rw [profileOfDoc_of_not_mistyped typed] at loaded
  exact Except.ok.inj loaded

@[simp] theorem parseBytes_profileDoc (faithful : store.codec.Faithful) (path : Path)
    (profile : Profile) :
    store.parseBytes path (store.codec.dump (profileDoc profile)) = .ok (some profile) :=
  store.parseBytes_eq_some_iff.mpr (store.profileIn_profileDoc faithful profile)

/-- Reading a file of the directory throws. -/
abbrev RaisesAt (entry : FullPath × List UInt8) : Prop :=
  store.Raises (store.dir.entryPath entry.1) entry.2

theorem not_raises_profileDoc (faithful : store.codec.Faithful) (path : Path)
    (profile : Profile) :
    ¬store.Raises path (store.codec.dump (profileDoc profile)) :=
  store.not_raises_of_profileIn (store.profileIn_profileDoc faithful profile) path

/-! ## The listing -/

/-- The files `List` parses. -/
def listedFiles (fs : FileSystem store.env) : List (FullPath × List UInt8) :=
  (fs.filesIn store.dir.full).filter fun entry => isProfileFile entry.1

theorem mem_listedFiles {fs : FileSystem store.env} {entry : FullPath × List UInt8} :
    entry ∈ store.listedFiles fs ↔ entry ∈ fs.entries ∧
      store.env.fold entry.1.parent = store.env.fold store.dir.full ∧
        isProfileFile entry.1 = true := by
  rw [listedFiles, List.mem_filter, FileSystem.mem_filesIn, and_assoc]

/-- The file of a plain id is listed, unless it has no extension or is the one of the
active id. -/
theorem listed_json_iff {fs : FileSystem store.env} {stem : String}
    (plain : PlainStem store.env stem) {bytes : List UInt8} :
    (store.file (stem ++ ".json"), bytes) ∈ store.listedFiles fs ↔
      (store.file (stem ++ ".json"), bytes) ∈ fs.entries ∧ stem ≠ "" ∧ stem ≠ "active" := by
  have unnamed : isProfileFile (store.dir.file ".json".toList) = false := by
    rw [← Bool.not_eq_true, store.isProfileFile_file]
    decide
  rw [mem_listedFiles, store.file_json plain, Directory.parent_file]
  constructor
  · intro listed
    refine ⟨listed.1, ?_, ?_⟩
    · intro empty
      rw [empty] at listed
      exact absurd listed.2.2 (Bool.eq_false_iff.mp unnamed)
    · intro isActive
      rw [isActive] at listed
      exact absurd listed.2.2 (Bool.eq_false_iff.mp store.isProfileFile_active)
  · intro both
    refine ⟨both.1, rfl, store.isProfileFile_json plain.plain ?_ ?_⟩
    · exact fun empty => both.2.1 (String.toList_inj.mp empty)
    · exact fun isActive => both.2.2 (String.toList_inj.mp isActive)

theorem getLast?_of_extension {name : Name} (json : Path.extension name = ".json".toList) :
    name.getLast? = some 'n' := by
  unfold Path.extension at json
  simp only at json
  split at json
  next long =>
    have last := congrArg List.getLast? json
    rw [List.getLast?_drop, if_neg (by omega)] at last
    exact last
  next => cases json

theorem isProfileFile_iff {file : FullPath} {name : Name}
    (last : file.names.getLast? = some name) :
    isProfileFile file = true ↔
      ':' ∉ name ∧ Path.extension name = ".json".toList ∧ name ≠ "active.json".toList := by
  rw [isProfileFile, last, Option.getD_some, Bool.and_eq_true, Bool.and_eq_true,
    decide_eq_true_iff, decide_eq_true_iff, decide_eq_true_iff, and_assoc]

/-- The path of an entry that `List` selects leads back to its file. -/
theorem read_entryPath {fs : FileSystem store.env} {entry : FullPath × List UInt8}
    (inDir : entry ∈ fs.filesIn store.dir.full) (selected : isProfileFile entry.1 = true) :
    fs.read (store.env.resolve (store.dir.entryPath entry.1)) = some entry.2 := by
  obtain ⟨member, parent⟩ := FileSystem.mem_filesIn.mp inDir
  obtain ⟨name, last, isFile, notDevice⟩ := PathEnv.exists_name_of_canHold (fs.held entry member)
  obtain ⟨noStream, json, -⟩ := (isProfileFile_iff last).mp selected
  have solid : SolidName name :=
    .of_getLast (getLast?_of_extension json) (by decide) (by decide)
  have noNull : '\x00' ∉ name := fun null => ne_null_of_not_reserved
    (not_reserved_of_isValidName (isValidName_of_isFileName isFile noStream) null) rfl
  rw [Directory.entryPath, last, Option.getD_some,
    store.env.resolve_file store.dir solid noNull noStream notDevice, FileSystem.read_file]
  exact FileSystem.find?_of_mem member (PathEnv.fold_file_of_parent last parent).symm

/-- The loop of `List` over files it parses. -/
def parseAll : List (FullPath × List UInt8) → Except StoreError (List Profile)
  | [] => .ok []
  | entry :: rest => do
      let profile ← store.parseBytes (store.dir.entryPath entry.1) entry.2
      let others ← parseAll rest
      return profile.toList ++ others

theorem readAll_eq (fs : FileSystem store.env) (entries : List (FullPath × List UInt8))
    (inDir : ∀ entry ∈ entries, entry ∈ fs.filesIn store.dir.full) :
    store.readAll fs entries =
      store.parseAll (entries.filter fun entry => isProfileFile entry.1) := by
  induction entries with
  | nil => rfl
  | cons entry rest ih =>
      have others := ih fun other member => inDir other (List.mem_cons_of_mem _ member)
      rw [readAll, others]
      cases selected : isProfileFile entry.1 with
      | false => simp [selected]
      | true =>
          have read := store.read_entryPath (inDir entry List.mem_cons_self) selected
          rw [if_pos rfl, parseProfileFile_eq, read, List.filter_cons, selected, if_pos rfl,
            parseAll]

/-- `List` sees the files that it parses. -/
theorem list_eq (fs : FileSystem store.env) :
    store.list fs = do
      let profiles ← store.parseAll (store.listedFiles fs)
      return profiles.insertionSort fun first second => first.id ≤ second.id := by
  rw [list, store.readAll_eq fs _ fun _ member => member]
  rfl

theorem parseAll_of_tame {entries : List (FullPath × List UInt8)}
    (tame : ∀ entry ∈ entries, ¬store.RaisesAt entry) :
    store.parseAll entries = .ok (entries.filterMap fun entry => store.profileIn entry.2) := by
  induction entries with
  | nil => rfl
  | cons entry rest ih =>
      have others := ih fun other member => tame other (List.mem_cons_of_mem _ member)
      rw [parseAll, store.parseBytes_of_not_raises (tame entry List.mem_cons_self), others]
      cases held : store.profileIn entry.2 with
      | none => simp [held, Bind.bind, Except.bind, pure, Except.pure]
      | some profile => simp [held, Bind.bind, Except.bind, pure, Except.pure]

theorem parseAll_of_raises {entries : List (FullPath × List UInt8)}
    {bad : FullPath × List UInt8} (member : bad ∈ entries) (raises : store.RaisesAt bad) :
    ∃ thrown, store.parseAll entries = .error thrown := by
  induction entries with
  | nil => cases member
  | cons entry rest ih =>
      rw [parseAll]
      cases parsed : store.parseBytes (store.dir.entryPath entry.1) entry.2 with
      | error thrown => exact ⟨thrown, rfl⟩
      | ok result =>
          rcases List.mem_cons.mp member with rfl | inRest
          · exact absurd raises (store.parseBytes_isOk_iff.mp ⟨result, parsed⟩)
          · obtain ⟨thrown, failed⟩ := ih inRest
            rw [failed]
            exact ⟨thrown, rfl⟩

/-- Files that are skipped with a warning may as well be absent. -/
theorem parseAll_filter {entries : List (FullPath × List UInt8)}
    {keep : FullPath × List UInt8 → Bool}
    (skipped : ∀ entry ∈ entries, keep entry = false →
      ¬store.RaisesAt entry ∧ store.profileIn entry.2 = none) :
    store.parseAll (entries.filter keep) = store.parseAll entries := by
  induction entries with
  | nil => rfl
  | cons entry rest ih =>
      have others := ih fun other member => skipped other (List.mem_cons_of_mem _ member)
      rw [List.filter_cons]
      cases kept : keep entry with
      | true => rw [if_pos rfl, parseAll, others, parseAll]
      | false =>
          obtain ⟨tame, unheld⟩ := skipped entry List.mem_cons_self kept
          rw [if_neg Bool.false_ne_true, others, parseAll, store.parseBytes_of_not_raises tame,
            unheld]
          cases store.parseAll rest with
          | error thrown => rfl
          | ok profiles => rfl

/-- No file that `List` parses throws. -/
def ListsTame (fs : FileSystem store.env) : Prop :=
  ∀ entry ∈ store.listedFiles fs, ¬store.RaisesAt entry

/-- The profiles in the files that `List` parses, in directory order. -/
def loaded (fs : FileSystem store.env) : List Profile :=
  (store.listedFiles fs).filterMap fun entry => store.profileIn entry.2

theorem mem_loaded {fs : FileSystem store.env} {profile : Profile} :
    profile ∈ store.loaded fs ↔
      ∃ entry ∈ store.listedFiles fs, store.profileIn entry.2 = some profile :=
  List.mem_filterMap

theorem list_of_tame {fs : FileSystem store.env} (tame : store.ListsTame fs) :
    store.list fs = .ok ((store.loaded fs).insertionSort
      fun first second => first.id ≤ second.id) := by
  rw [list_eq, store.parseAll_of_tame tame]
  rfl

theorem list_of_raises {fs : FileSystem store.env} {entry : FullPath × List UInt8}
    (listed : entry ∈ store.listedFiles fs) (raises : store.RaisesAt entry) :
    ∃ thrown, store.list fs = .error thrown := by
  obtain ⟨thrown, failed⟩ := store.parseAll_of_raises listed raises
  rw [list_eq, failed]
  exact ⟨thrown, rfl⟩

/-- `List` returns exactly when no file it parses throws. -/
theorem list_isOk_iff {fs : FileSystem store.env} :
    (∃ profiles, store.list fs = .ok profiles) ↔ store.ListsTame fs := by
  constructor
  · intro returned entry listed raises
    obtain ⟨profiles, listEq⟩ := returned
    obtain ⟨thrown, failed⟩ := store.list_of_raises listed raises
    rw [failed] at listEq
    cases listEq
  · intro tame
    exact ⟨_, store.list_of_tame tame⟩

theorem mem_list {fs : FileSystem store.env} {profiles : List Profile}
    (returned : store.list fs = .ok profiles) {profile : Profile} :
    profile ∈ profiles ↔
      ∃ entry ∈ store.listedFiles fs, store.profileIn entry.2 = some profile := by
  have tame := store.list_isOk_iff.mp ⟨profiles, returned⟩
  rw [store.list_of_tame tame] at returned
  rw [← Except.ok.inj returned, List.mem_insertionSort, mem_loaded]

/-- A file that `List` selects is no temporary file. -/
theorem fold_ne_tmp {file : FullPath} (selected : isProfileFile file = true) {stem : String}
    (plain : PlainStem store.env stem) :
    store.env.fold file ≠ store.env.fold (store.file (stem ++ ".json.tmp")) := by
  rw [store.file_json_tmp plain]
  intro same
  have names := congrArg (fun file : FullPath => file.names.getLast?) same
  simp only [PathEnv.fold, Directory.file, List.map_append, List.map_cons, List.map_nil,
    List.getLast?_concat, List.getLast?_map, Option.map_eq_some_iff] at names
  obtain ⟨name, isLast, folded⟩ := names
  have ends := getLast?_of_extension ((isProfileFile_iff isLast).mp selected).2.1
  have last := congrArg List.getLast? folded
  rw [List.getLast?_map, ends, List.getLast?_append, List.getLast?_map] at last
  have upcased : store.env.upcase 'n' = store.env.upcase 'p' := Option.some.inj last
  rw [store.env.upcase_ascii _ (by decide), store.env.upcase_ascii _ (by decide)] at upcased
  exact absurd upcased (by decide)

/-- Writing a temporary file changes nothing that is listed. -/
@[simp] theorem listedFiles_set_tmp (fs : FileSystem store.env) {stem : String}
    (plain : PlainStem store.env stem) (content : List UInt8) :
    store.listedFiles (fs.set (store.file (stem ++ ".json.tmp")) content) =
      store.listedFiles fs := by
  rw [FileSystem.set, dif_pos (store.canHold_json_tmp plain), listedFiles, listedFiles,
    FileSystem.filesIn, FileSystem.filesIn, List.filter_filter, List.filter_filter]
  apply KeyedMap.filter_set
  intro entry same
  rw [Bool.and_eq_false_iff]
  left
  rw [← Bool.not_eq_true]
  exact fun selected => store.fold_ne_tmp selected plain same

/-- `List` depends on the files it parses that are not just skipped. -/
theorem list_of_filter {fs other : FileSystem store.env}
    {keep : FullPath × List UInt8 → Bool}
    (kept : store.listedFiles other = (store.listedFiles fs).filter keep)
    (skipped : ∀ entry ∈ store.listedFiles fs, keep entry = false →
      ¬store.RaisesAt entry ∧ store.profileIn entry.2 = none) :
    store.list other = store.list fs := by
  rw [list_eq, list_eq, kept, store.parseAll_filter skipped]

end ProfileStore

end HWPanel.Core
