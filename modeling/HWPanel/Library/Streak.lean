import Mathlib.Data.List.DropRight
import Mathlib.Algebra.Ring.Nat

/-!
# Streaks

The newest entries of a history that all pass a test are its `List.rtakeWhile`. A counter
that each entry of the streak may advance, and any other entry resets, counts in them.
-/

namespace HWPanel.Library

universe u

variable {α : Type u} {passes : α → Bool}

/-- One more entry extends the streak or ends it. -/
theorem length_rtakeWhile_concat (passes : α → Bool) (past : List α) (entry : α) :
    ((past ++ [entry]).rtakeWhile passes).length =
      if passes entry then (past.rtakeWhile passes).length + 1 else 0 := by
  rw [List.rtakeWhile_concat]
  split
  · rw [List.length_append, List.length_singleton]
  · rfl

/-- One more entry advances the counter of the streak, leaves it or resets it. -/
theorem countP_rtakeWhile_concat (passes counts : α → Bool) (past : List α) (entry : α) :
    ((past ++ [entry]).rtakeWhile passes).countP counts =
      if passes entry then
        (past.rtakeWhile passes).countP counts + if counts entry then 1 else 0
      else 0 := by
  rw [List.rtakeWhile_concat]
  split
  · rw [List.countP_append, List.countP_singleton]
  · rfl

/-- Entries that all pass extend the streak before them. -/
theorem rtakeWhile_append_of_forall {back : List α} (allPass : ∀ entry ∈ back, passes entry)
    (front : List α) :
    (front ++ back).rtakeWhile passes = front.rtakeWhile passes ++ back := by
  induction back using List.reverseRecOn with
  | nil => rw [List.append_nil, List.append_nil]
  | append_singleton back entry ih =>
      have passed : passes entry :=
        allPass entry (List.mem_append_right back (List.mem_singleton_self entry))
      have before := ih fun other member => allPass other (List.mem_append_left [entry] member)
      rw [← List.append_assoc, List.rtakeWhile_concat_pos _ _ _ passed, before,
        List.append_assoc]

/-- Entries that all pass are the whole streak, when the streak was shorter than they are
many before the last of them. -/
theorem rtakeWhile_append_of_length_lt {front back : List α} {entry : α}
    (allPass : ∀ other ∈ back ++ [entry], passes other)
    (shorter : ((front ++ back).rtakeWhile passes).length < (back ++ [entry]).length) :
    (front ++ (back ++ [entry])).rtakeWhile passes = back ++ [entry] := by
  have before := rtakeWhile_append_of_forall
    (fun other member => allPass other (List.mem_append_left [entry] member)) front
  rw [before, List.length_append, List.length_append, List.length_singleton] at shorter
  have nothing : front.rtakeWhile passes = [] := List.length_eq_zero_iff.mp (by omega)
  rw [rtakeWhile_append_of_forall allPass, nothing, List.nil_append]

/-- A history with a long streak ends with entries that all pass. -/
theorem exists_append_of_le_rtakeWhile {past : List α} {count : Nat}
    (long : count ≤ (past.rtakeWhile passes).length) :
    ∃ front back, past = front ++ back ∧ back.length = count ∧ (∀ entry ∈ back, passes entry) ∧
      back <:+ past.rtakeWhile passes := by
  have shorter := List.drop_suffix ((past.rtakeWhile passes).length - count)
    (past.rtakeWhile passes)
  obtain ⟨front, split⟩ := shorter.trans (List.rtakeWhile_suffix passes past)
  refine ⟨front, _, split.symm, ?_, ?_, shorter⟩
  · rw [List.length_drop]
    omega
  · intro entry member
    exact List.mem_rtakeWhile_imp (shorter.mem member)

end HWPanel.Library
