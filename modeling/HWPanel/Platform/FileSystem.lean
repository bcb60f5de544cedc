import HWPanel.Library.KeyedMap
import HWPanel.Platform.WindowsPath

/-!
# Files

The regular files of a machine by their normalised location, up to case, and the
operations the store does on them: reading, writing through a temporary file,
removing, and iterating a directory. The outcome of every operation that can fail
is an input of it, as far as its location leaves it open.
-/

namespace HWPanel.Platform

open HWPanel.Library

/-- The regular files of a machine. Links and short names, which are other spellings of a
location, are left out. -/
structure FileSystem (env : PathEnv) extends KeyedMap env.fold (List UInt8) where
  held : ∀ entry ∈ entries, env.canHold entry.1 = true

/-- What happens to a temporary file: whether it can be opened, how many bytes of the
document the stream writes, and whether it can be renamed. -/
structure WriteIO where
  opened : Bool
  written : Nat
  renamed : Bool

/-- All three operations succeed for a document of this size. -/
def WriteIO.Succeeds (io : WriteIO) (size : Nat) : Prop :=
  io.opened = true ∧ size ≤ io.written ∧ io.renamed = true

theorem WriteIO.exists_succeeds (size : Nat) : ∃ io : WriteIO, io.Succeeds size :=
  ⟨⟨true, size, true⟩, rfl, le_rfl, rfl⟩

namespace FileSystem

variable {env : PathEnv}

def empty : FileSystem env where
  toKeyedMap := .empty
  held := by
    intro entry member
    cases member

def erase (fs : FileSystem env) (file : FullPath) : FileSystem env where
  toKeyedMap := fs.toKeyedMap.erase file
  held entry member := fs.held entry (KeyedMap.mem_erase.mp member).1

/-- A new file; there is none at a location that cannot hold one. -/
def put (fs : FileSystem env) (file : FullPath) (content : List UInt8) : FileSystem env :=
  if holds : env.canHold file = true then
    { toKeyedMap := fs.toKeyedMap.put file content
      held := by
        intro entry member
        rcases KeyedMap.mem_put.mp member with rfl | ⟨old, -⟩
        · exact holds
        · exact fs.held entry old }
  else fs

/-- The content of a file that is there already or is made. -/
def set (fs : FileSystem env) (file : FullPath) (content : List UInt8) : FileSystem env :=
  if holds : env.canHold file = true then
    { toKeyedMap := fs.toKeyedMap.set file content
      held := by
        intro entry member
        rcases KeyedMap.mem_set member with same | ⟨old, oldMem, same⟩
        · rw [same]
          exact holds
        · rw [same]
          exact fs.held old oldMem }
  else fs

@[simp] theorem find?_empty (file : FullPath) : (empty : FileSystem env).find? file = none := rfl

@[simp] theorem find?_erase (fs : FileSystem env) (file other : FullPath) :
    (fs.erase file).find? other =
      if env.fold other = env.fold file then none else fs.find? other :=
  fs.toKeyedMap.find?_erase file other

@[simp] theorem find?_put {file : FullPath} (holds : env.canHold file = true) (fs : FileSystem env)
    (content : List UInt8) (other : FullPath) :
    (fs.put file content).find? other =
      if env.fold other = env.fold file then some content else fs.find? other := by
  rw [put, dif_pos holds]
  exact fs.toKeyedMap.find?_put file other content

@[simp] theorem find?_set {file : FullPath} (holds : env.canHold file = true) (fs : FileSystem env)
    (content : List UInt8) (other : FullPath) :
    (fs.set file content).find? other =
      if env.fold other = env.fold file then some content else fs.find? other := by
  rw [set, dif_pos holds]
  exact fs.toKeyedMap.find?_set file other content

theorem mem_erase {fs : FileSystem env} {file : FullPath} {entry : FullPath × List UInt8} :
    entry ∈ (fs.erase file).entries ↔ entry ∈ fs.entries ∧ env.fold entry.1 ≠ env.fold file :=
  KeyedMap.mem_erase

theorem mem_put {file : FullPath} (holds : env.canHold file = true) {fs : FileSystem env}
    {content : List UInt8} {entry : FullPath × List UInt8} :
    entry ∈ (fs.put file content).entries ↔
      entry = (file, content) ∨ entry ∈ fs.entries ∧ env.fold entry.1 ≠ env.fold file := by
  rw [put, dif_pos holds]
  exact KeyedMap.mem_put

/-- The other files after `set`. -/
theorem mem_set_of_ne {file : FullPath} (holds : env.canHold file = true) {fs : FileSystem env}
    {content : List UInt8} {entry : FullPath × List UInt8}
    (different : env.fold entry.1 ≠ env.fold file) :
    entry ∈ (fs.set file content).entries ↔ entry ∈ fs.entries := by
  rw [set, dif_pos holds]
  exact KeyedMap.mem_set_of_ne different

/-- A file holds the bytes it is listed with. -/
theorem find?_of_mem {fs : FileSystem env} {entry : FullPath × List UInt8}
    (member : entry ∈ fs.entries) {file : FullPath} (same : env.fold entry.1 = env.fold file) :
    fs.find? file = some entry.2 :=
  (KeyedMap.find?_eq_some fs.toKeyedMap).mpr ⟨entry, member, same, rfl⟩

/-- There is no file where none can be. -/
theorem find?_of_not_canHold (fs : FileSystem env) {file : FullPath}
    (noFile : env.canHold file = false) : fs.find? file = none := by
  rw [KeyedMap.find?_eq_none]
  intro entry member same
  rw [← PathEnv.canHold_congr same, fs.held entry member] at noFile
  cases noFile

/-- `std::ifstream`: the bytes of the file or device, `none` when it cannot be opened. -/
def read (fs : FileSystem env) (file : FullPath) : Option (List UInt8) :=
  if file.root = deviceRoot then env.input file.names else fs.find? file

/-- What can hold a file is no device. -/
theorem read_of_canHold (fs : FileSystem env) {file : FullPath}
    (holds : env.canHold file = true) : fs.read file = fs.find? file := by
  rw [PathEnv.canHold, Bool.and_eq_true, Bool.and_eq_true, Bool.and_eq_true,
    decide_eq_true_iff] at holds
  exact if_neg holds.1.1.1

@[simp] theorem read_file (fs : FileSystem env) (dir : Directory) (name : Name) :
    fs.read (dir.file name) = fs.find? (dir.file name) := by
  apply if_neg
  intro same
  cases congrArg List.length same

/-- Another spelling of a file in a directory is no device either. -/
theorem read_of_fold (fs : FileSystem env) {dir : Directory} {name : Name} {file : FullPath}
    (same : env.fold file = env.fold (dir.file name)) :
    fs.read file = fs.find? (dir.file name) := by
  have drive : file.root ≠ deviceRoot := by
    intro isDevice
    have roots := congrArg (fun file : FullPath => file.root.length) same
    simp only [PathEnv.fold, List.length_map, isDevice] at roots
    cases roots
  rw [read, if_neg drive]
  exact fs.toKeyedMap.find?_congr same

/-- `std::filesystem::rename` onto a file that is replaced. -/
def rename (fs : FileSystem env) (source target : FullPath) (renamed : Bool) :
    Bool × FileSystem env :=
  match fs.find? source with
  | some content =>
      if renamed && env.canHold target then (true, (fs.erase source).put target content)
      else (false, fs)
  | none => (false, fs)

/-- A document written to `temporary`, which is then renamed to `target`: `none` when it
could not be opened, else whether the rename reported no error. -/
def replace (fs : FileSystem env) (temporary target : FullPath) (content : List UInt8)
    (io : WriteIO) : Option Bool × FileSystem env :=
  if io.opened then
    let (done, renamed) :=
      rename (fs.set temporary (content.take io.written)) temporary target io.renamed
    (some done, renamed)
  else (none, fs)

/-- `std::filesystem::remove`. -/
def remove (fs : FileSystem env) (file : FullPath) (permitted : Bool) :
    Bool × FileSystem env :=
  match fs.find? file with
  | some _ => if permitted then (true, fs.erase file) else (false, fs)
  | none => (false, fs)

/-- A permitted removal reports whether there was a file, and there is none after it. -/
@[simp] theorem remove_permitted (fs : FileSystem env) (file : FullPath) :
    remove fs file true = ((fs.find? file).isSome, fs.erase file) := by
  rw [remove]
  cases found : fs.find? file with
  | some content => rfl
  | none =>
      have absent := (KeyedMap.find?_eq_none fs.toKeyedMap).mp found
      have same : fs.erase file = fs := by
        cases fs
        simp only [erase, KeyedMap.erase_of_absent absent]
      rw [same]
      rfl

/-- `std::filesystem::directory_iterator`: the files that lie directly in a directory, and
the streams in them. -/
def filesIn (fs : FileSystem env) (dir : FullPath) : List (FullPath × List UInt8) :=
  fs.entries.filter fun entry => env.fold entry.1.parent = env.fold dir

theorem mem_filesIn {fs : FileSystem env} {dir : FullPath} {entry : FullPath × List UInt8} :
    entry ∈ fs.filesIn dir ↔ entry ∈ fs.entries ∧ env.fold entry.1.parent = env.fold dir := by
  rw [filesIn, List.mem_filter, decide_eq_true_iff]

section Replace

variable {temporary target : FullPath} (temporaryHolds : env.canHold temporary = true)
  (targetHolds : env.canHold target = true) (fs : FileSystem env)
include temporaryHolds targetHolds

/-- A replacement that goes through moves the whole document to the target. -/
theorem replace_of_succeeds {content : List UInt8} {io : WriteIO}
    (succeeds : io.Succeeds content.length) :
    replace fs temporary target content io =
      (some true, ((fs.set temporary content).erase temporary).put target content) := by
  rcases succeeds with ⟨opened, complete, renamed⟩
  have found : (fs.set temporary content).find? temporary = some content := by
    rw [find?_set temporaryHolds, if_pos rfl]
  simp only [replace, opened, List.take_of_length_le complete, rename, found, renamed,
    targetHolds, Bool.and_self, if_true]

/-- The files after a replacement, wherever it stopped. -/
theorem find?_replace_of (content : List UInt8) (io : WriteIO) (file : FullPath) :
    (replace fs temporary target content io).2.find? file =
      if io.opened then
        if io.renamed ∧ env.fold file = env.fold target then some (content.take io.written)
        else if env.fold file = env.fold temporary then
          if io.renamed then none else some (content.take io.written)
        else fs.find? file
      else fs.find? file := by
  have found : (fs.set temporary (content.take io.written)).find? temporary =
      some (content.take io.written) := by
    rw [find?_set temporaryHolds, if_pos rfl]
  rw [replace]
  cases opened : io.opened with
  | false => rfl
  | true =>
      cases renamed : io.renamed with
      | false => simp [rename, found, find?_set temporaryHolds]
      | true =>
          simp only [rename, found, targetHolds, Bool.and_self, if_true, true_and,
            find?_put targetHolds, find?_erase, find?_set temporaryHolds]
          split
          · rfl
          · split
            · rfl
            · rfl

/-- After a replacement that goes through, the target holds the document and the
temporary file is gone; other files are as before. -/
theorem find?_replace {content : List UInt8} {io : WriteIO}
    (succeeds : io.Succeeds content.length) (file : FullPath) :
    (replace fs temporary target content io).2.find? file =
      if env.fold file = env.fold target then some content
      else if env.fold file = env.fold temporary then none
      else fs.find? file := by
  rcases succeeds with ⟨opened, complete, renamed⟩
  rw [find?_replace_of temporaryHolds targetHolds, List.take_of_length_le complete]
  simp only [opened, renamed, if_true, true_and]

theorem mem_replace {content : List UInt8} {io : WriteIO}
    (succeeds : io.Succeeds content.length) (entry : FullPath × List UInt8) :
    entry ∈ (replace fs temporary target content io).2.entries ↔
      entry = (target, content) ∨ entry ∈ fs.entries ∧
        env.fold entry.1 ≠ env.fold temporary ∧ env.fold entry.1 ≠ env.fold target := by
  rw [replace_of_succeeds temporaryHolds targetHolds fs succeeds, mem_put targetHolds, mem_erase]
  constructor
  · rintro (rfl | ⟨⟨old, notTemporary⟩, notTarget⟩)
    · exact .inl rfl
    · exact .inr ⟨(mem_set_of_ne temporaryHolds notTemporary).mp old, notTemporary, notTarget⟩
  · rintro (rfl | ⟨old, notTemporary, notTarget⟩)
    · exact .inl rfl
    · exact .inr ⟨⟨(mem_set_of_ne temporaryHolds notTemporary).mpr old, notTemporary⟩,
        notTarget⟩

end Replace

/-- Both machines have the same files of this kind. -/
def AgreeOn (kind : FullPath → Prop) (first second : FileSystem env) : Prop :=
  ∀ file, kind file → first.find? file = second.find? file

/-- A replacement done on both keeps them in agreement. -/
theorem AgreeOn.replace {kind : FullPath → Prop} {first second : FileSystem env}
    (agree : AgreeOn kind first second) {temporary target : FullPath}
    (temporaryHolds : env.canHold temporary = true) (targetHolds : env.canHold target = true)
    (content : List UInt8) (io : WriteIO) :
    AgreeOn kind (FileSystem.replace first temporary target content io).2
      (FileSystem.replace second temporary target content io).2 := by
  intro file isKind
  rw [find?_replace_of temporaryHolds targetHolds, find?_replace_of temporaryHolds targetHolds,
    agree file isKind]

end FileSystem

end HWPanel.Platform
