import Mathlib.Data.List.TakeWhile

/-!
# Strings in a buffer

NUL-terminated strings read through a position into a buffer, which has one more
terminator after its last character; a read at any later position is outside. The
searches of `std::basic_string` give the position of a character.
-/

namespace HWPanel.Library

universe u

variable {α : Type u} (nul : α)

/-- The character at a position; `none` is outside the buffer and its terminator. -/
def cell (buffer : List α) (position : Nat) : Option α := (buffer ++ [nul])[position]?

theorem cell_isSome_iff (buffer : List α) (position : Nat) :
    (cell nul buffer position).isSome ↔ position ≤ buffer.length := by
  rw [cell, isSome_getElem?, List.length_append, List.length_singleton]
  exact Nat.lt_succ_iff

@[simp] theorem cell_append (front : List α) (c : α) (back : List α) :
    cell nul (front ++ c :: back) front.length = some c := by
  simp [cell]

@[simp] theorem cell_length (buffer : List α) : cell nul buffer buffer.length = some nul := by
  simp [cell]

/-- The strings one after the other, each with its terminator. -/
def joinStrings (strings : List (List α)) : List α := strings.flatMap (· ++ [nul])

@[simp] theorem joinStrings_nil : joinStrings nul ([] : List (List α)) = [] := rfl

@[simp] theorem joinStrings_cons (text : List α) (strings : List (List α)) :
    joinStrings nul (text :: strings) = text ++ nul :: joinStrings nul strings := by
  simp [joinStrings]

variable [DecidableEq α]

/-- The string that starts at a position, read to its terminator. -/
def readString (buffer : List α) (position : Nat) : Option (List α) :=
  match found : cell nul buffer position with
  | none => none
  | some c =>
      if c = nul then some []
      else (readString buffer (position + 1)).map fun rest => c :: rest
termination_by buffer.length + 1 - position
decreasing_by
  have inside := (cell_isSome_iff nul buffer position).mp (by rw [found]; rfl)
  omega

theorem readString_of_cell {buffer : List α} {position : Nat} {c : α}
    (found : cell nul buffer position = some c) :
    readString nul buffer position =
      if c = nul then some [] else (readString nul buffer (position + 1)).map (c :: ·) := by
  rw [readString]
  split
  · rename_i missing
    cases missing.symm.trans found
  · rename_i found'
    cases found'.symm.trans found
    rfl

/-- A string that starts in the buffer is read inside it. -/
theorem readString_isSome {buffer : List α} {position : Nat}
    (inside : position ≤ buffer.length) : (readString nul buffer position).isSome := by
  fun_induction readString nul buffer position with
  | case1 position missing =>
      have present := (cell_isSome_iff nul buffer position).mpr inside
      rw [missing] at present
      cases present
  | case2 position found => rfl
  | case3 position c found other ih =>
      have notLast : position ≠ buffer.length := by
        intro last
        rw [last, cell_length] at found
        exact other (Option.some.inj found).symm
      rw [Option.isSome_map]
      exact ih (by omega)

theorem readString_append {text : List α} (plain : nul ∉ text) (front back : List α) :
    readString nul (front ++ (text ++ nul :: back)) front.length = some text := by
  induction text generalizing front with
  | nil =>
      rw [List.nil_append, readString_of_cell nul (cell_append nul front nul back), if_pos rfl]
  | cons c text ih =>
      have other : c ≠ nul := fun same => plain (same ▸ List.mem_cons_self)
      have rest := ih (fun member => plain (.tail c member)) (front ++ [c])
      rw [List.length_append, List.length_singleton, List.append_assoc,
        List.singleton_append] at rest
      rw [List.cons_append, readString_of_cell nul (cell_append nul front c _), if_neg other,
        rest]
      rfl

/-- What a string is read as: the text up to the next terminator. -/
theorem readString_eq_some_iff {buffer : List α} {position : Nat} {text : List α} :
    readString nul buffer position = some text ↔
      nul ∉ text ∧ ∃ rest, (buffer ++ [nul]).drop position = text ++ nul :: rest := by
  constructor
  · intro read
    fun_induction readString nul buffer position generalizing text with
    | case1 position missing => cases read
    | case2 position found =>
        cases read
        obtain ⟨inside, isNul⟩ := List.getElem?_eq_some_iff.mp found
        refine ⟨List.not_mem_nil, (buffer ++ [nul]).drop (position + 1), ?_⟩
        rw [List.drop_eq_getElem_cons inside, isNul]
        rfl
    | case3 position c found other ih =>
        obtain ⟨tail, readTail, rfl⟩ := Option.map_eq_some_iff.mp read
        obtain ⟨plain, rest, split⟩ := ih readTail
        obtain ⟨inside, isChar⟩ := List.getElem?_eq_some_iff.mp found
        refine ⟨?_, rest, ?_⟩
        · rw [List.mem_cons, not_or]
          exact ⟨fun same => other same.symm, plain⟩
        · rw [List.drop_eq_getElem_cons inside, isChar, split]
          rfl
  · rintro ⟨plain, rest, split⟩
    induction text generalizing position with
    | nil =>
        have found : cell nul buffer position = some nul := by
          rw [cell, ← List.head?_drop, split]
          rfl
        rw [readString_of_cell nul found, if_pos rfl]
    | cons c text ih =>
        have found : cell nul buffer position = some c := by
          rw [cell, ← List.head?_drop, split]
          rfl
        have other : c ≠ nul := fun same => plain (same ▸ List.mem_cons_self)
        have later : (buffer ++ [nul]).drop (position + 1) = text ++ nul :: rest := by
          rw [← List.tail_drop, split]
          rfl
        rw [readString_of_cell nul found, if_neg other,
          ih (fun member => plain (.tail c member)) later]
        rfl

/-- The strings from a position to the first empty one. -/
def readStrings (buffer : List α) (position : Nat) : Option (List (List α)) :=
  match found : readString nul buffer position with
  | none => none
  | some text =>
      if text = [] then some []
      else (readStrings buffer (position + text.length + 1)).map (text :: ·)
termination_by buffer.length + 1 - position
decreasing_by
  obtain ⟨-, rest, split⟩ := (readString_eq_some_iff nul).mp found
  have length := congrArg List.length split
  simp only [List.length_drop, List.length_append, List.length_cons, List.length_nil] at length
  omega

theorem readStrings_of_readString {buffer : List α} {position : Nat} {text : List α}
    (found : readString nul buffer position = some text) :
    readStrings nul buffer position =
      if text = [] then some []
      else (readStrings nul buffer (position + text.length + 1)).map (text :: ·) := by
  rw [readStrings]
  split
  · rename_i missing
    cases missing.symm.trans found
  · rename_i found'
    cases found'.symm.trans found
    rfl

theorem readStrings_of_outside {buffer : List α} {position : Nat}
    (outside : cell nul buffer position = none) : readStrings nul buffer position = none := by
  have unread : readString nul buffer position = none := by
    rw [readString]
    split
    · rfl
    · rename_i found
      cases outside.symm.trans found
  rw [readStrings]
  split
  · rfl
  · rename_i found
    cases unread.symm.trans found

/-- The list is read inside the buffer exactly where an empty string ends it. -/
theorem readStrings_eq_some_iff {buffer : List α} {position : Nat} {strings : List (List α)} :
    readStrings nul buffer position = some strings ↔
      (∀ text ∈ strings, text ≠ [] ∧ nul ∉ text) ∧
        ∃ rest, (buffer ++ [nul]).drop position = joinStrings nul strings ++ nul :: rest := by
  constructor
  · intro read
    fun_induction readStrings nul buffer position generalizing strings with
    | case1 position missing => cases read
    | case2 position found =>
        cases read
        obtain ⟨-, rest, split⟩ := (readString_eq_some_iff nul).mp found
        exact ⟨List.forall_mem_nil _, rest, split⟩
    | case3 position text found nonempty ih =>
        obtain ⟨later, readLater, rfl⟩ := Option.map_eq_some_iff.mp read
        obtain ⟨plain, rest, split⟩ := (readString_eq_some_iff nul).mp found
        obtain ⟨entries, rest', splitLater⟩ := ih readLater
        refine ⟨List.forall_mem_cons.mpr ⟨⟨nonempty, plain⟩, entries⟩, rest', ?_⟩
        rw [Nat.add_assoc, ← List.drop_drop, split, List.drop_length_add_append,
          List.drop_one, List.tail_cons] at splitLater
        rw [split, splitLater, joinStrings_cons, List.append_assoc, List.cons_append]
  · rintro ⟨entries, rest, split⟩
    induction strings generalizing position with
    | nil =>
        have empty : readString nul buffer position = some [] :=
          (readString_eq_some_iff nul).mpr ⟨List.not_mem_nil, rest, split⟩
        rw [readStrings_of_readString nul empty, if_pos rfl]
    | cons text strings ih =>
        obtain ⟨⟨nonempty, plain⟩, later⟩ := List.forall_mem_cons.mp entries
        rw [joinStrings_cons, List.append_assoc, List.cons_append] at split
        have found : readString nul buffer position = some text :=
          (readString_eq_some_iff nul).mpr ⟨plain, _, split⟩
        have splitLater : (buffer ++ [nul]).drop (position + text.length + 1) =
            joinStrings nul strings ++ nul :: rest := by
          rw [Nat.add_assoc, ← List.drop_drop, split, List.drop_length_add_append,
            List.drop_one, List.tail_cons]
        rw [readStrings_of_readString nul found, if_neg nonempty, ih later splitLater]
        rfl

/-- `text.find(c, from)`. -/
def findFrom (text : List α) (c : α) (start : Nat) : Option Nat :=
  ((text.drop start).findIdx? fun d => d = c).map (start + ·)

/-- `text.rfind(c)`. -/
def findLast (text : List α) (c : α) : Option Nat :=
  (text.reverse.findIdx? fun d => d = c).map (text.length - 1 - ·)

theorem findIdx?_of_not_mem {text : List α} {c : α} (absent : c ∉ text) :
    text.findIdx? (fun d => d = c) = none := by
  refine List.findIdx?_eq_none_iff.mpr fun d member => decide_eq_false ?_
  rintro rfl
  exact absent member

/-- The search stops at the first occurrence after its start. -/
theorem findFrom_append {middle : List α} {c : α} (absent : c ∉ middle) (front back : List α) :
    findFrom (front ++ (middle ++ c :: back)) c front.length =
      some (front.length + middle.length) := by
  simp [findFrom, List.findIdx?_append, findIdx?_of_not_mem absent, List.findIdx?_cons]

/-- The search passes what does not have the character. -/
theorem le_of_findFrom_append {middle : List α} {c : α} (absent : c ∉ middle)
    {front back : List α} {position : Nat}
    (found : findFrom (front ++ (middle ++ back)) c front.length = some position) :
    front.length + middle.length ≤ position := by
  rw [findFrom, List.drop_left, List.findIdx?_append, findIdx?_of_not_mem absent,
    Option.none_or, Option.map_map] at found
  obtain ⟨index, -, rfl⟩ := Option.map_eq_some_iff.mp found
  simp only [Function.comp]
  omega

/-- The search from the end stops at the last occurrence. -/
theorem findLast_append {back : List α} {c : α} (absent : c ∉ back) (front : List α) :
    findLast (front ++ c :: back) c = some front.length := by
  have absentReverse : c ∉ back.reverse := fun member => absent (List.mem_reverse.mp member)
  simp [findLast, List.findIdx?_append, findIdx?_of_not_mem absentReverse, List.findIdx?_cons]

end HWPanel.Library
