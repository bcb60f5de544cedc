import Mathlib.Data.List.DropRight
import Mathlib.Data.List.Rotate

/-!
# Circular arrays

A list read from a rotating start: the entry `i` places after `head` stands at
index `(head + i) % length`, so the contents in order are `List.rotate head`.
The newest `count` entries of a list are `List.rtake count`.
-/

namespace HWPanel.Library

universe u

variable {α : Type u} {cells entries : List α} {head : Nat}

/-- Overwriting the first entry and moving the start past it drops that entry and
appends the new one. -/
theorem rotate_set (inRange : head < cells.length) (value : α) :
    (cells.set head value).rotate ((head + 1) % cells.length) =
      (cells.rotate head).tail ++ [value] := by
  have sameLength : (cells.set head value).length = cells.length := List.length_set
  have split : cells.set head value =
      cells.take head ++ value :: cells.drop (head + 1) :=
    List.set_eq_take_append_cons_drop.trans (if_pos inRange)
  have prefixLength : (cells.take head ++ [value]).length = head + 1 := by
    rw [List.length_append, List.length_take, Nat.min_eq_left (Nat.le_of_lt inRange)]
    rfl
  calc (cells.set head value).rotate ((head + 1) % cells.length)
    _ = (cells.set head value).rotate (head + 1) := by
        rw [← sameLength, List.rotate_mod]
    _ = ((cells.take head ++ [value]) ++ cells.drop (head + 1)).rotate
          (cells.take head ++ [value]).length := by
        rw [split, prefixLength, List.append_assoc, List.singleton_append]
    _ = cells.drop (head + 1) ++ (cells.take head ++ [value]) :=
        List.rotate_append_length_eq _ _
    _ = (cells.rotate head).tail ++ [value] := by
        rw [List.rotate_eq_drop_append_take (Nat.le_of_lt inRange),
          List.tail_append_of_ne_nil, List.tail_drop, List.append_assoc]
        simpa using inRange

/-- Reading `count` consecutive indices up to the end gives the newest `count`
entries, when each index reads the entry at its place. -/
theorem mapM_range'_eq_rtake {entries : List α} {read : Nat → Option α}
    (reads : ∀ index < entries.length, read index = entries[index]?) {count : Nat}
    (enough : count ≤ entries.length) :
    (List.range' (entries.length - count) count).mapM read =
      some (entries.rtake count) := by
  induction count with
  | zero => simp [List.rtake]
  | succ count ih =>
      have inRange : entries.length - (count + 1) < entries.length := by omega
      have next : entries.length - (count + 1) + 1 = entries.length - count := by omega
      have found : read (entries.length - (count + 1)) =
          some (entries[entries.length - (count + 1)]) := by
        rw [reads _ inRange, List.getElem?_eq_getElem inRange]
      rw [List.range'_succ, List.mapM_cons, found, next, ih (Nat.le_of_succ_le enough)]
      simp only [List.rtake]
      rw [List.drop_eq_getElem_cons inRange, next]
      rfl

/-- The newest entries after one more was appended. -/
theorem rtake_append_singleton (entries : List α) (value : α) {count : Nat}
    (positive : 0 < count) :
    (entries ++ [value]).rtake count = entries.rtake (count - 1) ++ [value] := by
  cases count with
  | zero => exact absurd positive (Nat.lt_irrefl 0)
  | succ count => exact List.rtake_concat_succ entries count value

@[simp] theorem rtake_length (entries : List α) (count : Nat) :
    (entries.rtake count).length = min count entries.length := by
  rw [List.rtake, List.length_drop]
  omega

/-- No more are taken than there are. -/
@[simp] theorem rtake_min_length (entries : List α) (count : Nat) :
    entries.rtake (min count entries.length) = entries.rtake count := by
  simp only [List.rtake]
  congr 1
  omega

/-- Entries at the end are the newest of as many. -/
theorem rtake_eq_of_suffix {back : List α} (isSuffix : back <:+ entries) :
    entries.rtake back.length = back :=
  (List.suffix_iff_eq_drop.mp isSuffix).symm

/-- Enough newer entries hide the older ones. -/
theorem rtake_append_of_le (front back : List α) {count : Nat} (enough : count ≤ back.length) :
    (front ++ back).rtake count = back.rtake count := by
  simp only [List.rtake, List.length_append]
  rw [List.drop_append, List.drop_eq_nil_of_le (by omega), List.nil_append]
  congr 1
  omega

/-- The newest of the newest entries. -/
@[simp] theorem rtake_rtake (entries : List α) {fewer count : Nat} (le : fewer ≤ count) :
    (entries.rtake count).rtake fewer = entries.rtake fewer := by
  simp only [List.rtake, List.drop_drop, List.length_drop]
  congr 1
  omega

/-- Dropping the oldest of a full window leaves one entry fewer. -/
theorem tail_rtake (entries : List α) {count : Nat} (enough : count ≤ entries.length) :
    (entries.rtake count).tail = entries.rtake (count - 1) := by
  cases count with
  | zero => simp [List.rtake]
  | succ count =>
      simp only [List.rtake, List.tail_drop]
      congr 1
      omega

/-- When newer entries satisfy a test that older ones do, the newest `count` all satisfy
it exactly when at least that many entries do. -/
theorem forall_mem_rtake_iff {test : α → Bool}
    (ordered : entries.Pairwise fun older newer => test older → test newer) (count : Nat) :
    (∀ entry ∈ entries.rtake count, test entry) ↔
      min count entries.length ≤ entries.countP test := by
  obtain ⟨front, split⟩ : ∃ front, front ++ entries.rtake count = entries :=
    ⟨_, List.take_append_drop (entries.length - count) entries⟩
  have length := rtake_length entries count
  have counted : entries.countP test =
      front.countP test + (entries.rtake count).countP test := by
    rw [← List.countP_append, split]
  rw [← split, List.pairwise_append] at ordered
  constructor
  · intro passed
    have all := List.countP_eq_length.mpr passed
    omega
  · intro enough entry member
    by_contra failed
    have noneBefore : front.countP test = 0 :=
      List.countP_eq_zero.mpr fun older inFront passed =>
        failed (ordered.2.2 older inFront entry member passed)
    have fewer : (entries.rtake count).countP test < (entries.rtake count).length := by
      refine Nat.lt_of_le_of_ne List.countP_le_length fun all => ?_
      exact failed (List.countP_eq_length.mp all entry member)
    omega

end HWPanel.Library
