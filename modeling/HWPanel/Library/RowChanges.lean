import Mathlib.Data.List.Induction

/-!
# Row changes

A list model tells its views what it does to its rows: a block of rows was inserted or
removed at a position, or everything was replaced. A view that repeats the changes on its
own copy must find each position in range, and ends with the rows of the model.
-/

namespace HWPanel.Library

universe u

variable {Row : Type u}

inductive RowChange (Row : Type u) where
  | inserted (first : Nat) (rows : List Row)
  | removed (first count : Nat)
  | reset (rows : List Row)

namespace RowChange

/-- The copy of a view after a change; `none` when the position is not in the copy. -/
def apply (view : List Row) : RowChange Row → Option (List Row)
  | .inserted first rows =>
      if first ≤ view.length then some (view.take first ++ rows ++ view.drop first) else none
  | .removed first count =>
      if 0 < count ∧ first + count ≤ view.length then
        some (view.take first ++ view.drop (first + count))
      else none
  | .reset rows => some rows

/-- The copy after a sequence of changes. -/
def follow (view : List Row) (changes : List (RowChange Row)) : Option (List Row) :=
  changes.foldlM apply view

@[simp] theorem follow_append (view : List Row) (front back : List (RowChange Row)) :
    follow view (front ++ back) = (follow view front).bind fun middle => follow middle back :=
  List.foldlM_append

@[simp] theorem follow_cons (view : List Row) (change : RowChange Row)
    (rest : List (RowChange Row)) :
    follow view (change :: rest) = (apply view change).bind fun middle => follow middle rest :=
  rfl

@[simp] theorem follow_nil (view : List Row) : follow view [] = some view := rfl

/-- A row at the top. -/
@[simp] theorem apply_inserted_zero (view : List Row) (row : Row) :
    apply view (.inserted 0 [row]) = some (row :: view) := by
  rw [apply, if_pos (Nat.zero_le _)]
  rfl

/-- The last row. -/
theorem apply_removed_last {view : List Row} (nonempty : view ≠ []) :
    apply view (.removed (view.length - 1) 1) = some view.dropLast := by
  have length := Nat.sub_add_cancel (List.length_pos_iff.mpr nonempty)
  rw [apply, length, if_pos ⟨Nat.one_pos, Nat.le_refl _⟩, List.drop_length, List.append_nil,
    List.dropLast_eq_take]

end RowChange

end HWPanel.Library
