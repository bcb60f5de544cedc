import Mathlib.Data.List.Induction
import Mathlib.Data.List.Range

/-!
# Decimation

`everyNth d` keeps the elements at the positions that are multiples of `d`, as a
loop that counts its elements does. On increasing numbers the kept ones are at
least `d` apart; on consecutive numbers they are the multiples of `d`.
-/

namespace HWPanel.Library

universe u v

variable {α : Type u} {β : Type v}

def everyNth (d : Nat) (elements : List α) : List α :=
  (elements.zipIdx.filter fun entry => entry.2 % d = 0).map (·.1)

@[simp] theorem everyNth_nil (d : Nat) : everyNth d ([] : List α) = [] := rfl

theorem everyNth_snoc (d : Nat) (elements : List α) (last : α) :
    everyNth d (elements ++ [last]) =
      everyNth d elements ++ if elements.length % d = 0 then [last] else [] := by
  rw [everyNth, List.zipIdx_append, List.filter_append, List.map_append, everyNth]
  by_cases kept : elements.length % d = 0 <;> simp [kept]

@[simp] theorem everyNth_map (d : Nat) (f : α → β) (elements : List α) :
    everyNth d (elements.map f) = (everyNth d elements).map f := by
  induction elements using List.reverseRecOn with
  | nil => rfl
  | append_singleton front last ih =>
      rw [List.map_append, List.map_singleton, everyNth_snoc, everyNth_snoc, ih,
        List.length_map, List.map_append]
      split <;> rfl

theorem everyNth_sublist (d : Nat) (elements : List α) :
    (everyNth d elements).Sublist elements := by
  induction elements using List.reverseRecOn with
  | nil => exact .slnil
  | append_singleton front last ih =>
      rw [everyNth_snoc]
      split
      · exact ih.append_right [last]
      · rw [List.append_nil]
        exact ih.trans (List.sublist_append_left _ _)

/-- Of consecutive numbers the multiples are kept. -/
theorem everyNth_range (d count : Nat) :
    everyNth d (List.range count) = (List.range count).filter (· % d = 0) := by
  induction count with
  | zero => rfl
  | succ count ih =>
      rw [List.range_succ, everyNth_snoc, ih, List.length_range, List.filter_append]
      by_cases kept : count % d = 0 <;> simp [kept]

/-- The remainder of a successor is the next one, or wraps to zero. -/
theorem mod_succ_cases {d : Nat} (positive : 0 < d) (n : Nat) :
    (n + 1) % d = n % d + 1 ∨ (n % d + 1 = d ∧ (n + 1) % d = 0) := by
  have below := Nat.mod_lt n positive
  rw [← Nat.mod_add_mod n d 1]
  rcases Nat.lt_or_eq_of_le (Nat.succ_le_of_lt below) with smaller | wraps
  · exact .inl (Nat.mod_eq_of_lt smaller)
  · have full : n % d + 1 = d := wraps
    exact .inr ⟨full, by rw [full, Nat.mod_self]⟩

/-- The elements kept of increasing numbers are `d` apart, and the last number is
beyond each of them by the number of elements skipped since. -/
theorem everyNth_spaced {d : Nat} (positive : 0 < d) {numbers : List Nat}
    (increasing : numbers.Pairwise (· < ·)) :
    (everyNth d numbers).Pairwise (fun earlier later => earlier + d ≤ later) ∧
      ∀ last ∈ numbers.getLast?, ∀ kept ∈ everyNth d numbers,
        kept + (numbers.length - 1) % d ≤ last := by
  induction numbers using List.reverseRecOn with
  | nil => simp
  | append_singleton front last ih =>
      rcases List.pairwise_append.mp increasing with ⟨frontIncreasing, -, below⟩
      rcases ih frontIncreasing with ⟨spaced, reach⟩
      have reached : ∀ kept ∈ everyNth d front,
          ∃ skipped, front.length = skipped + 1 ∧ kept + skipped % d < last := by
        intro kept membership
        have inFront := (everyNth_sublist d front).subset membership
        have nonempty : front ≠ [] := List.ne_nil_of_mem inFront
        have previous := reach _ (List.getLast?_eq_some_getLast nonempty) kept membership
        have before := below _ (List.getLast_mem nonempty) last (List.mem_singleton_self _)
        refine ⟨front.length - 1, ?_, Nat.lt_of_le_of_lt previous before⟩
        exact (Nat.sub_add_cancel (List.length_pos_iff.mpr nonempty)).symm
      rw [everyNth_snoc, List.getLast?_concat, List.length_append, List.length_singleton,
        Nat.add_sub_cancel]
      by_cases due : front.length % d = 0
      · rw [if_pos due]
        constructor
        · refine List.pairwise_append.mpr ⟨spaced, List.pairwise_singleton _ _, ?_⟩
          intro kept membership final finalEq
          cases List.mem_singleton.mp finalEq
          rcases reached kept membership with ⟨skipped, lengthEq, before⟩
          rw [lengthEq] at due
          rcases mod_succ_cases positive skipped with next | ⟨wraps, -⟩
          · rw [next] at due
            cases due
          · omega
        · intro final finalEq kept membership
          cases finalEq
          rw [due]
          rcases List.mem_append.mp membership with earlier | isLast
          · rcases reached kept earlier with ⟨skipped, -, before⟩
            omega
          · exact Nat.le_of_eq (List.mem_singleton.mp isLast)
      · rw [if_neg due, List.append_nil]
        refine ⟨spaced, ?_⟩
        intro final finalEq kept membership
        cases finalEq
        rcases reached kept membership with ⟨skipped, lengthEq, before⟩
        rw [lengthEq] at due ⊢
        rcases mod_succ_cases positive skipped with next | ⟨-, zero⟩
        · rw [next]
          omega
        · exact absurd zero due

theorem everyNth_apart {d : Nat} (positive : 0 < d) {numbers : List Nat}
    (increasing : numbers.Pairwise (· < ·)) :
    (everyNth d numbers).Pairwise fun earlier later => earlier + d ≤ later :=
  (everyNth_spaced positive increasing).1

end HWPanel.Library
