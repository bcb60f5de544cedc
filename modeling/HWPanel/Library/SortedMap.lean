import Mathlib.Data.List.Basic
import Mathlib.Order.Lattice

/-!
# Sorted maps

Finite maps as association lists in strictly increasing key order, the order in
which an ordered map is traversed. The invariant makes the list canonical.
-/

namespace HWPanel.Library

universe u v

structure SortedMap (Key : Type u) (Value : Type v) [LinearOrder Key] where
  entries : List (Key × Value)
  sorted : entries.Pairwise fun earlier later => earlier.1 < later.1

namespace SortedMap

variable {Key : Type u} {Value : Type v} [LinearOrder Key]

/-- Two maps with the same traversal are equal. -/
@[ext] theorem ext {first second : SortedMap Key Value}
    (same : first.entries = second.entries) : first = second := by
  cases first
  cases second
  cases same
  rfl

def empty : SortedMap Key Value := ⟨[], .nil⟩

instance : Inhabited (SortedMap Key Value) := ⟨empty⟩

def singleton (key : Key) (value : Value) : SortedMap Key Value :=
  ⟨[(key, value)], List.pairwise_singleton _ _⟩

/-- Put the entry at its place, replacing the value of an equal key. -/
def insertEntry (key : Key) (value : Value) : List (Key × Value) → List (Key × Value)
  | [] => [(key, value)]
  | entry :: rest =>
      if key < entry.1 then (key, value) :: entry :: rest
      else if entry.1 < key then entry :: insertEntry key value rest
      else (key, value) :: rest

theorem mem_insertEntry {key : Key} {value : Value} {entries : List (Key × Value)}
    {entry : Key × Value} (membership : entry ∈ insertEntry key value entries) :
    entry = (key, value) ∨ entry ∈ entries := by
  induction entries with
  | nil => exact .inl (List.mem_singleton.mp membership)
  | cons first rest ih =>
      rw [insertEntry] at membership
      split at membership
      · exact List.mem_cons.mp membership
      · split at membership
        · rcases List.mem_cons.mp membership with rfl | later
          · exact .inr List.mem_cons_self
          · rcases ih later with equal | old
            · exact .inl equal
            · exact .inr (List.mem_cons_of_mem _ old)
        · rcases List.mem_cons.mp membership with equal | later
          · exact .inl equal
          · exact .inr (List.mem_cons_of_mem _ later)

theorem insertEntry_sorted (key : Key) (value : Value) {entries : List (Key × Value)}
    (sorted : entries.Pairwise fun earlier later => earlier.1 < later.1) :
    (insertEntry key value entries).Pairwise fun earlier later => earlier.1 < later.1 := by
  induction entries with
  | nil => exact List.pairwise_singleton _ _
  | cons first rest ih =>
      rcases List.pairwise_cons.mp sorted with ⟨below, restSorted⟩
      rw [insertEntry]
      split
      · rename_i before
        refine List.pairwise_cons.mpr ⟨fun entry membership => ?_, sorted⟩
        rcases List.mem_cons.mp membership with rfl | later
        · exact before
        · exact before.trans (below entry later)
      · split
        · rename_i after
          refine List.pairwise_cons.mpr ⟨fun entry membership => ?_, ih restSorted⟩
          rcases mem_insertEntry membership with rfl | old
          · exact after
          · exact below entry old
        · rename_i notBefore notAfter
          have same : first.1 = key := le_antisymm (not_lt.mp notBefore) (not_lt.mp notAfter)
          refine List.pairwise_cons.mpr ⟨fun entry membership => ?_, restSorted⟩
          rw [← same]
          exact below entry membership

/-- The entry of a key beyond all others comes last. -/
theorem insertEntry_of_above {key : Key} (value : Value) {entries : List (Key × Value)}
    (above : ∀ entry ∈ entries, entry.1 < key) :
    insertEntry key value entries = entries ++ [(key, value)] := by
  induction entries with
  | nil => rfl
  | cons first rest ih =>
      have firstBelow := above first List.mem_cons_self
      rw [insertEntry, if_neg firstBelow.asymm, if_pos firstBelow,
        ih fun entry membership => above entry (List.mem_cons_of_mem _ membership)]
      rfl

def insert (map : SortedMap Key Value) (key : Key) (value : Value) : SortedMap Key Value :=
  ⟨insertEntry key value map.entries, insertEntry_sorted key value map.sorted⟩

/-- Inserting the entries of a traversal in order rebuilds it. -/
theorem foldl_insert_entries (map : SortedMap Key Value) (entries : List (Key × Value))
    (sorted : (map.entries ++ entries).Pairwise fun earlier later => earlier.1 < later.1) :
    (entries.foldl (fun map entry => map.insert entry.1 entry.2) map).entries =
      map.entries ++ entries := by
  induction entries generalizing map with
  | nil => simp
  | cons entry rest ih =>
      have above : ∀ old ∈ map.entries, old.1 < entry.1 := fun old membership =>
        (List.pairwise_append.mp sorted).2.2 old membership entry List.mem_cons_self
      have inserted : (map.insert entry.1 entry.2).entries = map.entries ++ [entry] :=
        insertEntry_of_above entry.2 above
      rw [List.foldl_cons, ih, inserted, List.append_assoc, List.singleton_append]
      rw [inserted, List.append_assoc]
      exact sorted

@[simp] theorem foldl_insert (map : SortedMap Key Value) :
    map.entries.foldl (fun built entry => built.insert entry.1 entry.2) empty = map := by
  apply ext
  rw [foldl_insert_entries]
  · rfl
  · exact map.sorted

/-- No two entries have one key. -/
theorem keys_nodup (map : SortedMap Key Value) : (map.entries.map (·.1)).Nodup := by
  rw [List.Nodup, List.pairwise_map]
  exact map.sorted.imp fun less => ne_of_lt less

end SortedMap

end HWPanel.Library
