import HWPanel.Core.Installation
import HWPanel.Core.StoreEffects

/-!
# A save that is cut off

`Save` under every failure of its file operations. It looks at the result of opening the
temporary file and of the rename, but not at the stream it has written to in between.
-/

namespace HWPanel.Core

open HWPanel.Library
open HWPanel.Platform

namespace ProfileStore

variable (store : ProfileStore)

/-- A `Save` with this outcome is all or nothing for those who ask for these ids: the
profile is there, or `Get` and `List` give what they gave before. -/
structure AllOrNothing (ids : Set String) (profile : Profile) (before : FileSystem store.env)
    (outcome : Except StoreError Bool × FileSystem store.env) : Prop where
  saved : outcome.1 = .ok true → store.get outcome.2 profile.id = .ok (some profile)
  get_refused : outcome.1 = .ok false → ∀ id ∈ ids,
    store.get outcome.2 id = store.get before id
  list_refused : outcome.1 = .ok false → store.list outcome.2 = store.list before

/-- Whoever asks for one of these ids is not shown what the temporary file now holds, or is
shown the same as before. -/
def TemporaryHidden (ids : Set String) (profile : Profile) (before : FileSystem store.env)
    (io : WriteIO) : Prop :=
  ∀ id ∈ ids, ∀ path, store.child (id ++ ".json") = .ok path →
    store.env.fold (store.env.resolve path) =
        store.env.fold (store.file (profile.id ++ ".json.tmp")) →
      store.parseBytes path ((store.codec.dump (profileDoc profile)).take io.written) =
        store.get before id

variable {store} {profile : Profile} {before : FileSystem store.env} {io : WriteIO}

/-- Plain file names never name a temporary file. -/
theorem temporaryHidden_of_plain {ids : Set String}
    (plainIds : ∀ id ∈ ids, PlainStem store.env id) (plain : PlainStem store.env profile.id) :
    store.TemporaryHidden ids profile before io := by
  intro id member path converted same
  rw [store.child_json (plainIds id member)] at converted
  cases converted
  exact absurd same (store.json_ne_tmp (plainIds id member) plain)

section

variable (plain : PlainStem store.env profile.id)
include plain

theorem save_of_unopened (unopened : io.opened = false) :
    store.save before profile io = (.ok false, before) := by
  simp [save_of_plain plain, FileSystem.replace, unopened]

theorem save_of_unrenamed (opened : io.opened = true) (unrenamed : io.renamed = false) :
    store.save before profile io = (.ok false, before.set (store.file (profile.id ++ ".json.tmp"))
      ((store.codec.dump (profileDoc profile)).take io.written)) := by
  simp [save_of_plain plain, FileSystem.replace, FileSystem.rename, opened, unrenamed,
    FileSystem.find?_set (store.canHold_json_tmp plain)]

/-- A rename that went through is reported as a success, however much was written. -/
theorem save_of_renamed (before : FileSystem store.env) (opened : io.opened = true)
    (renamed : io.renamed = true) :
    (store.save before profile io).1 = .ok true ∧
      store.get (store.save before profile io).2 profile.id =
        store.parseBytes (store.dir.path.join (.ofText (profile.id ++ ".json").toList))
          ((store.codec.dump (profileDoc profile)).take io.written) := by
  have holds := store.canHold_json plain
  rw [save_of_plain plain]
  constructor
  · simp [FileSystem.replace, FileSystem.rename, opened, renamed, holds,
      FileSystem.find?_set (store.canHold_json_tmp plain)]
  · have found := FileSystem.find?_replace_of (store.canHold_json_tmp plain) holds before
      (store.codec.dump (profileDoc profile)) io (store.file (profile.id ++ ".json"))
    rw [if_pos opened, if_pos ⟨renamed, rfl⟩] at found
    rw [get_of_plain plain, found]

end

/-- What is read back of a document is the profile exactly when all of it was written. -/
theorem parseBytes_take_iff (faithful : store.codec.Faithful) (cut : store.codec.RejectsCut)
    (path : Path) (written : Nat) :
    store.parseBytes path ((store.codec.dump (profileDoc profile)).take written) =
        .ok (some profile) ↔
      (store.codec.dump (profileDoc profile)).length ≤ written := by
  constructor
  · intro read
    by_contra short
    have rejected := cut.parse_take _ (profileDoc_textual profile) written (Nat.lt_of_not_le short)
    rw [parseBytes, rejected] at read
    exact not_some_of_warn read
  · intro complete
    rw [List.take_of_length_le complete]
    exact store.parseBytes_profileDoc faithful path profile

/-- What is read after a temporary file was left behind. -/
theorem get_set_tmp (plain : PlainStem store.env profile.id) (content : List UInt8) {id : String}
    {path : Path} (converted : store.child (id ++ ".json") = .ok path) :
    store.get (before.set (store.file (profile.id ++ ".json.tmp")) content) id =
      if store.env.fold (store.env.resolve path) =
          store.env.fold (store.file (profile.id ++ ".json.tmp")) then
        store.parseBytes path content
      else store.get before id := by
  have found := FileSystem.find?_set (store.canHold_json_tmp plain) before content
  split
  case isTrue same =>
    have written := found (store.file (profile.id ++ ".json.tmp"))
    rw [store.file_json_tmp plain] at same written
    rw [get_of_child _ converted, store.file_json_tmp plain, FileSystem.read_of_fold _ same,
      written, if_pos rfl]
  case isFalse different =>
    apply get_congr
    intro other otherConverted
    cases converted.symm.trans otherConverted
    rw [FileSystem.read, FileSystem.read, found, if_neg different]

variable {ids : Set String}

theorem allOrNothing_of_unopened (plain : PlainStem store.env profile.id)
    (unopened : io.opened = false) :
    store.AllOrNothing ids profile before (store.save before profile io) := by
  rw [save_of_unopened plain unopened]
  constructor
  · intro done
    cases done
  · exact fun _ _ _ => rfl
  · exact fun _ => rfl

theorem allOrNothing_of_unrenamed (plain : PlainStem store.env profile.id)
    (opened : io.opened = true) (unrenamed : io.renamed = false)
    (hidden : store.TemporaryHidden ids profile before io) :
    store.AllOrNothing ids profile before (store.save before profile io) := by
  rw [save_of_unrenamed plain opened unrenamed]
  constructor
  · intro done
    cases done
  · intro _ id member
    cases converted : store.child (id ++ ".json") with
    | error thrown => rw [get, get, converted]; rfl
    | ok path =>
        rw [get_set_tmp plain _ converted]
        split
        next same => exact hidden id member path converted same
        next => rfl
  · intro _
    rw [store.list_eq, store.list_eq, store.listedFiles_set_tmp before plain]

theorem allOrNothing_of_complete (plain : PlainStem store.env profile.id)
    (faithful : store.codec.Faithful) (cut : store.codec.RejectsCut)
    (opened : io.opened = true) (renamed : io.renamed = true)
    (complete : (store.codec.dump (profileDoc profile)).length ≤ io.written) :
    store.AllOrNothing ids profile before (store.save before profile io) := by
  have outcome := save_of_renamed plain before opened renamed
  have done : (store.save before profile io).1 ≠ .ok false := by
    rw [outcome.1]
    intro same
    cases same
  constructor
  · intro _
    rw [outcome.2]
    exact (parseBytes_take_iff faithful cut _ io.written).mpr complete
  · exact fun refused => absurd refused done
  · exact fun refused => absurd refused done

end ProfileStore

/-- Under every failure of its file operations, `Save` is all or nothing exactly when the
temporary file could not be opened, or the rename fails and what is left in the temporary
file stays hidden, or the whole document was written before the rename. -/
theorem all_or_nothing_iff {store : ProfileStore} (faithful : store.codec.Faithful)
    (cut : store.codec.RejectsCut) (ids : Set String) (before : FileSystem store.env)
    {profile : Profile} (plain : PlainStem store.env profile.id) (io : WriteIO) :
    store.AllOrNothing ids profile before (store.save before profile io) ↔
      (io.opened = true →
        (io.renamed = true → (store.codec.dump (profileDoc profile)).length ≤ io.written) ∧
        (io.renamed = false → store.TemporaryHidden ids profile before io)) := by
  constructor
  · intro law opened
    constructor
    · intro renamed
      have outcome := ProfileStore.save_of_renamed plain before opened renamed
      apply (ProfileStore.parseBytes_take_iff faithful cut _ io.written).mp
      rw [← outcome.2]
      exact law.saved outcome.1
    · intro unrenamed id member path converted same
      have kept := law.get_refused
      rw [ProfileStore.save_of_unrenamed plain opened unrenamed] at kept
      rw [← kept rfl id member, ProfileStore.get_set_tmp plain _ converted, if_pos same]
  · intro condition
    cases opened : io.opened with
    | false => exact ProfileStore.allOrNothing_of_unopened plain opened
    | true =>
        cases renamed : io.renamed with
        | false =>
            exact ProfileStore.allOrNothing_of_unrenamed plain opened renamed
              ((condition opened).2 renamed)
        | true =>
            exact ProfileStore.allOrNothing_of_complete plain faithful cut opened renamed
              ((condition opened).1 renamed)

/-- The store holds the built-in profile that is saved again. -/
def balancedFiles : FileSystem installed.env :=
  FileSystem.empty.put (installed.file ("balanced" ++ ".json"))
    (installed.codec.dump (profileDoc ProfileStore.balanced))

theorem balanced_plain : PlainStem installed.env ProfileStore.balanced.id :=
  plainStem_installed (by decide) (by decide)

theorem all_or_nothing_iff_renamed :
    installed.AllOrNothing Set.univ ProfileStore.balanced balancedFiles
      (installed.save balancedFiles ProfileStore.balanced
        (writing (profileDoc ProfileStore.balanced))) := by
  have complete : (installed.codec.dump (profileDoc ProfileStore.balanced)).length ≤
      (writing (profileDoc ProfileStore.balanced)).written := le_rfl
  apply (all_or_nothing_iff JsonText.codec_faithful JsonText.codec_rejectsCut Set.univ
    balancedFiles balanced_plain _).mpr
  intro _
  refine ⟨fun _ => complete, ?_⟩
  intro unrenamed
  cases unrenamed

/-- The disk is full after 64 bytes. -/
def fullDisk : WriteIO := ⟨true, 64, true⟩

/-- The truncated document replaces the good one, and the save is reported as done. -/
theorem full_disk_loses_profile :
    installed.get balancedFiles "balanced" = .ok (some ProfileStore.balanced) ∧
      (installed.save balancedFiles ProfileStore.balanced fullDisk).1 = .ok true ∧
      installed.get (installed.save balancedFiles ProfileStore.balanced fullDisk).2 "balanced" =
        .ok none ∧
      ¬installed.AllOrNothing {"balanced"} ProfileStore.balanced balancedFiles
        (installed.save balancedFiles ProfileStore.balanced fullDisk) := by
  have cut : 64 < (installed.codec.dump (profileDoc ProfileStore.balanced)).length := by
    decide +kernel
  have opened : fullDisk.opened = true := rfl
  have outcome := ProfileStore.save_of_renamed balanced_plain balancedFiles opened rfl
  have lost : installed.get (installed.save balancedFiles ProfileStore.balanced fullDisk).2
      "balanced" = .ok none := by
    refine outcome.2.trans ?_
    rw [ProfileStore.parseBytes]
    have rejected := JsonText.codec_rejectsCut.parse_take _
      (profileDoc_textual ProfileStore.balanced) 64 cut
    simp only [installed, fullDisk, rejected]
    rfl
  refine ⟨ProfileStore.get_put_plain JsonText.codec_faithful _ balanced_plain _, outcome.1, lost,
    ?_⟩
  intro law
  have found := law.saved outcome.1
  cases lost.symm.trans found

end HWPanel.Core
