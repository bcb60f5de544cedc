import HWPanel.Core.Installation
import HWPanel.Core.StoreEffects

/-!
# Bad profile files

The store on a directory with any files: what it takes for `List`, `Get` and
`EnsureDefaults` to return and for `List` to give one profile for each file that can be
loaded. Only the parse of a file runs inside a `try` block; reading a name or
description of another type throws past it, and so does the warning about a file whose
path the code page cannot express.
-/

namespace HWPanel.Core

open HWPanel.Library
open HWPanel.Platform

namespace ProfileStore

variable (store : ProfileStore) (fs : FileSystem store.env)

/-- No bad file breaks the store. -/
structure Tolerant : Prop where
  list : ∃ profiles, store.list fs = .ok profiles ∧
    (profiles.Pairwise fun earlier later => earlier.id ≤ later.id) ∧
    profiles.Perm ((store.listedFiles fs).filterMap fun entry => store.profileIn entry.2)
  get : ∀ id, ∃ result, store.get fs id = .ok result
  ensureDefaults : ∀ io, ∃ seeded, store.ensureDefaults fs io = .ok seeded

/-- Every id has a conversion, and no file that `List` parses and none that an id names
holds an object with a string id whose name or description is there but no string, or is
corrupt or malformed under a path that the code page cannot express. -/
structure Readable : Prop where
  listed : ∀ entry ∈ store.listedFiles fs, ¬store.RaisesAt entry
  converts : ∀ id : String, ∃ path, store.child (id ++ ".json") = .ok path
  named : ∀ (id : String) path bytes, store.child (id ++ ".json") = .ok path →
    fs.read (store.env.resolve path) = some bytes → ¬store.Raises path bytes

variable {fs}

theorem get_isOk_iff (id : String) :
    (∃ result, store.get fs id = .ok result) ↔
      ∃ path, store.child (id ++ ".json") = .ok path ∧
        ∀ bytes, fs.read (store.env.resolve path) = some bytes → ¬store.Raises path bytes := by
  cases converted : store.child (id ++ ".json") with
  | error thrown => simp [get, converted, Bind.bind, Except.bind]
  | ok path =>
      rw [get_of_child fs converted]
      cases found : fs.read (store.env.resolve path) with
      | none => simp [found]
      | some bytes =>
          rw [parseBytes_isOk_iff]
          simp [found]

/-- ASCII names have a conversion. -/
theorem exists_child_of_ascii {text : String} (ascii : isAscii text.toList = true) :
    ∃ path, store.child text = .ok path := by
  rw [child, store.env.codePage.decode_ascii text ascii]
  exact ⟨_, rfl⟩

/-- A `Save` under an id that converts does not throw. -/
theorem saveAll_isOk (io : DefaultsIO) {profiles : List Profile}
    (converts : ∀ profile ∈ profiles, (∃ path, store.child (profile.id ++ ".json") = .ok path) ∧
      ∃ path, store.child (profile.id ++ ".json.tmp") = .ok path)
    (fs : FileSystem store.env) : ∃ saved, store.saveAll io profiles fs = .ok saved := by
  induction profiles generalizing fs with
  | nil => exact ⟨fs, rfl⟩
  | cons profile rest ih =>
      obtain ⟨⟨path, converted⟩, temporary, convertedTemporary⟩ :=
        converts profile List.mem_cons_self
      rw [saveAll, save, converted, convertedTemporary]
      exact ih (fun other member => converts other (List.mem_cons_of_mem _ member)) _

theorem defaults_convert : ∀ profile ∈ defaults,
    (∃ path, store.child (profile.id ++ ".json") = .ok path) ∧
      ∃ path, store.child (profile.id ++ ".json.tmp") = .ok path := by
  have ascii : (defaults.all fun profile => isAscii (profile.id ++ ".json").toList &&
      isAscii (profile.id ++ ".json.tmp").toList) = true := by
    decide
  intro profile member
  have both := List.all_eq_true.mp ascii profile member
  rw [Bool.and_eq_true] at both
  exact ⟨store.exists_child_of_ascii both.1, store.exists_child_of_ascii both.2⟩

/-- `EnsureDefaults` throws only where its `List` does. -/
theorem ensureDefaults_isOk_iff (io : DefaultsIO) :
    (∃ seeded, store.ensureDefaults fs io = .ok seeded) ↔
      ∃ profiles, store.list fs = .ok profiles := by
  unfold ensureDefaults
  cases listEq : store.list fs with
  | error raised => simp [Bind.bind, Except.bind]
  | ok profiles =>
      refine iff_of_true ?_ ⟨profiles, rfl⟩
      obtain ⟨saved, savedEq⟩ := store.saveAll_isOk io store.defaults_convert fs
      simp only [Bind.bind, Except.bind, savedEq]
      split
      · split
        · exact ⟨_, rfl⟩
        · exact ⟨_, rfl⟩
      · exact ⟨_, rfl⟩

theorem list_sorted {profiles : List Profile} (returned : store.list fs = .ok profiles) :
    profiles.Pairwise fun earlier later => earlier.id ≤ later.id := by
  have tame := store.list_isOk_iff.mp ⟨profiles, returned⟩
  rw [store.list_of_tame tame] at returned
  rw [← Except.ok.inj returned]
  exact List.pairwise_insertionSort (fun first second : Profile => first.id ≤ second.id) _

/-- What a listing returns, one profile for each file that can be loaded. -/
theorem list_perm {profiles : List Profile} (returned : store.list fs = .ok profiles) :
    profiles.Perm ((store.listedFiles fs).filterMap fun entry => store.profileIn entry.2) := by
  have tame := store.list_isOk_iff.mp ⟨profiles, returned⟩
  rw [store.list_of_tame tame] at returned
  rw [← Except.ok.inj returned]
  exact List.perm_insertionSort (fun first second : Profile => first.id ≤ second.id) _

end ProfileStore

/-- On any directory the store tolerates all its files exactly when every id has a conversion
and none of the files it reads has an id that is a string beside a name or description
that is not, or calls for a warning that cannot be written. -/
theorem tolerant_iff (store : ProfileStore) (fs : FileSystem store.env) :
    store.Tolerant fs ↔ store.Readable fs := by
  constructor
  · intro tolerant
    obtain ⟨profiles, returned, _, _⟩ := tolerant.list
    constructor
    · exact store.list_isOk_iff.mp ⟨profiles, returned⟩
    · intro id
      obtain ⟨path, converted, -⟩ := (store.get_isOk_iff id).mp (tolerant.get id)
      exact ⟨path, converted⟩
    · intro id path bytes converted found
      obtain ⟨other, otherConverted, tame⟩ := (store.get_isOk_iff id).mp (tolerant.get id)
      cases converted.symm.trans otherConverted
      exact tame bytes found
  · intro readable
    obtain ⟨profiles, returned⟩ := store.list_isOk_iff.mpr readable.listed
    constructor
    · exact ⟨profiles, returned, store.list_sorted returned, store.list_perm returned⟩
    · intro id
      obtain ⟨path, converted⟩ := readable.converts id
      exact (store.get_isOk_iff id).mpr ⟨path, converted, fun bytes =>
        readable.named id path bytes converted⟩
    · exact fun io => (store.ensureDefaults_isOk_iff io).mpr ⟨profiles, returned⟩

/-- A profile edited by hand: its name became an object. -/
def mistypedDoc : Json := .object [("id", .string "x"), ("name", .object [])]

theorem mistypedDoc_textual : mistypedDoc.Textual := by
  apply Json.Textual.object
  · have keys : ["id", "name"].Pairwise (· < ·) := by decide
    exact List.pairwise_map.mp keys
  · intro field member
    rcases List.mem_cons.mp member with rfl | member
    · exact .string "x"
    · cases List.mem_singleton.mp member
      exact .object [] .nil fun field member => by cases member

theorem mistypedDoc_mistyped : Mistyped mistypedDoc :=
  ⟨_, "x", rfl, rfl, .inl rfl⟩

/-- The document in `x.json`, the only file. -/
def mistypedFiles : FileSystem installed.env :=
  FileSystem.empty.put (installed.file ("x" ++ ".json")) (installed.codec.dump mistypedDoc)

@[simp] theorem listedFiles_mistypedFiles : installed.listedFiles mistypedFiles =
    [(installed.file ("x" ++ ".json"), installed.codec.dump mistypedDoc)] := by
  have plain : PlainStem installed.env "x" := plainStem_installed (by decide) (by decide)
  have holds := installed.canHold_json plain
  have entries : mistypedFiles.entries =
      [(installed.file ("x" ++ ".json"), installed.codec.dump mistypedDoc)] := by
    rw [mistypedFiles, FileSystem.put, dif_pos holds]
    rfl
  have listed : (installed.file ("x" ++ ".json"), installed.codec.dump mistypedDoc) ∈
      installed.listedFiles mistypedFiles := by
    rw [installed.listed_json_iff plain, entries]
    exact ⟨List.mem_cons_self, by decide, by decide⟩
  rw [ProfileStore.listedFiles, FileSystem.filesIn, List.filter_filter, entries] at listed ⊢
  exact List.filter_eq_self.mpr fun entry member => by
    cases List.mem_singleton.mp member
    exact (List.mem_filter.mp listed).2

/-- One such file takes down the listing and, through `EnsureDefaults`, the start of the
service. -/
theorem mistyped_file_breaks_store :
    installed.list mistypedFiles = .error .typeError ∧
      (∀ io, ¬∃ seeded, installed.ensureDefaults mistypedFiles io = .ok seeded) ∧
      ¬installed.Tolerant mistypedFiles := by
  have raised : installed.parseBytes (installed.dir.entryPath (installed.file ("x" ++ ".json")))
      (installed.codec.dump mistypedDoc) = .error .typeError :=
    installed.parseBytes_of_mistyped
      (JsonText.codec_faithful.parse_dump _ mistypedDoc_textual) mistypedDoc_mistyped
  have listEq : installed.list mistypedFiles = .error .typeError := by
    rw [installed.list_eq, listedFiles_mistypedFiles, ProfileStore.parseAll]
    simp only [installed] at raised ⊢
    rw [raised]
    rfl
  have noList : ¬∃ profiles, installed.list mistypedFiles = .ok profiles := by
    rw [listEq]
    rintro ⟨profiles, returned⟩
    cases returned
  refine ⟨listEq, fun io => ?_, ?_⟩
  · rw [installed.ensureDefaults_isOk_iff]
    exact noList
  · intro tolerant
    obtain ⟨profiles, returned, _, _⟩ := tolerant.list
    exact noList ⟨profiles, returned⟩

end HWPanel.Core
