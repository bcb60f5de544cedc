import Mathlib.Data.List.Nodup

/-!
# Maps keyed up to a normal form

An association list whose names are told apart by a key only: a lookup finds the
entry of an equivalent name, and the entry keeps the name it was put under.
-/

namespace HWPanel.Library

universe u v w

structure KeyedMap {Name : Type u} {Key : Type v} (key : Name → Key) (Value : Type w) where
  entries : List (Name × Value)
  distinct : (entries.map fun entry => key entry.1).Nodup

namespace KeyedMap

variable {Name : Type u} {Key : Type v} {key : Name → Key} {Value : Type w}

def empty : KeyedMap key Value := ⟨[], .nil⟩

/-- Two entries with one key are one entry. -/
theorem entry_unique (map : KeyedMap key Value) {first second : Name × Value}
    (firstMem : first ∈ map.entries) (secondMem : second ∈ map.entries)
    (same : key first.1 = key second.1) : first = second :=
  List.inj_on_of_nodup_map map.distinct firstMem secondMem same

variable [DecidableEq Key]

def find? (map : KeyedMap key Value) (name : Name) : Option Value :=
  (map.entries.find? fun entry => key entry.1 = key name).map (·.2)

theorem find?_eq_some (map : KeyedMap key Value) {name : Name} {value : Value} :
    map.find? name = some value ↔
      ∃ entry ∈ map.entries, key entry.1 = key name ∧ entry.2 = value := by
  rw [find?, Option.map_eq_some_iff]
  constructor
  · rintro ⟨entry, found, valueEq⟩
    exact ⟨entry, List.mem_of_find?_eq_some found, by simpa using List.find?_some found, valueEq⟩
  · rintro ⟨entry, membership, same, valueEq⟩
    cases found : map.entries.find? fun entry => key entry.1 = key name with
    | none =>
        have absent := List.find?_eq_none.mp found entry membership
        simp [same] at absent
    | some other =>
        have otherSame : key other.1 = key name := by simpa using List.find?_some found
        have equal := map.entry_unique (List.mem_of_find?_eq_some found) membership
          (otherSame.trans same.symm)
        exact ⟨other, rfl, equal ▸ valueEq⟩

theorem find?_eq_none (map : KeyedMap key Value) {name : Name} :
    map.find? name = none ↔ ∀ entry ∈ map.entries, key entry.1 ≠ key name := by
  rw [find?, Option.map_eq_none_iff, List.find?_eq_none]
  simp

theorem find?_congr (map : KeyedMap key Value) {first second : Name}
    (same : key first = key second) : map.find? first = map.find? second := by
  rw [find?, find?, same]

/-- Lookups that agree on presence and on every value are equal. -/
theorem find?_ext {first second : KeyedMap key Value} {name other : Name}
    (same : ∀ value, first.find? name = some value ↔ second.find? other = some value) :
    first.find? name = second.find? other :=
  Option.ext same

def erase (map : KeyedMap key Value) (name : Name) : KeyedMap key Value where
  entries := map.entries.filter fun entry => key entry.1 ≠ key name
  distinct := map.distinct.sublist (List.filter_sublist.map _)

theorem erase_of_absent {map : KeyedMap key Value} {name : Name}
    (absent : ∀ entry ∈ map.entries, key entry.1 ≠ key name) : map.erase name = map := by
  cases map
  simp only [erase, mk.injEq]
  rw [List.filter_eq_self]
  simpa using absent

theorem mem_erase {map : KeyedMap key Value} {name : Name} {entry : Name × Value} :
    entry ∈ (map.erase name).entries ↔ entry ∈ map.entries ∧ key entry.1 ≠ key name := by
  simp [erase]

/-- Put an entry under this very name. -/
def put (map : KeyedMap key Value) (name : Name) (value : Value) : KeyedMap key Value where
  entries := (map.erase name).entries ++ [(name, value)]
  distinct := by
    rw [List.map_append, List.nodup_append]
    refine ⟨(map.erase name).distinct, by simp, ?_⟩
    rintro first firstMem second secondMem rfl
    rcases List.mem_map.mp firstMem with ⟨entry, membership, rfl⟩
    exact (mem_erase.mp membership).2 (by simpa using secondMem)

theorem mem_put {map : KeyedMap key Value} {name : Name} {value : Value}
    {entry : Name × Value} :
    entry ∈ (map.put name value).entries ↔
      entry = (name, value) ∨ entry ∈ map.entries ∧ key entry.1 ≠ key name := by
  rw [put, List.mem_append, List.mem_singleton, mem_erase]
  exact Or.comm

/-- Overwrite the value of an equivalent name in place, or put a new entry. -/
def set (map : KeyedMap key Value) (name : Name) (value : Value) : KeyedMap key Value :=
  match map.entries.find? fun entry => key entry.1 = key name with
  | some entry => map.put entry.1 value
  | none => map.put name value

@[simp] theorem find?_erase (map : KeyedMap key Value) (name other : Name) :
    (map.erase name).find? other = if key other = key name then none else map.find? other := by
  split
  · rename_i same
    rw [find?_eq_none]
    intro entry membership equal
    exact (mem_erase.mp membership).2 (equal.trans same)
  · rename_i different
    apply find?_ext
    intro value
    rw [find?_eq_some, find?_eq_some]
    constructor
    · rintro ⟨entry, membership, same, valueEq⟩
      exact ⟨entry, (mem_erase.mp membership).1, same, valueEq⟩
    · rintro ⟨entry, membership, same, valueEq⟩
      exact ⟨entry, mem_erase.mpr ⟨membership, fun equal => different (same.symm.trans equal)⟩,
        same, valueEq⟩

@[simp] theorem find?_put (map : KeyedMap key Value) (name other : Name) (value : Value) :
    (map.put name value).find? other =
      if key other = key name then some value else map.find? other := by
  split
  · rename_i same
    rw [find?_eq_some]
    exact ⟨(name, value), mem_put.mpr (.inl rfl), same.symm, rfl⟩
  · rename_i different
    apply find?_ext
    intro found
    rw [find?_eq_some, find?_eq_some]
    constructor
    · rintro ⟨entry, membership, same, valueEq⟩
      rcases mem_put.mp membership with rfl | ⟨old, -⟩
      · exact absurd same.symm different
      · exact ⟨entry, old, same, valueEq⟩
    · rintro ⟨entry, membership, same, valueEq⟩
      exact ⟨entry, mem_put.mpr (.inr ⟨membership, fun equal =>
        different (same.symm.trans equal)⟩), same, valueEq⟩

/-- `set` is `put` under a name of the same key. -/
theorem set_eq_put (map : KeyedMap key Value) (name : Name) (value : Value) :
    ∃ kept, key kept = key name ∧ map.set name value = map.put kept value := by
  rw [set]
  split
  · rename_i entry found
    exact ⟨entry.1, by simpa using List.find?_some found, rfl⟩
  · exact ⟨name, rfl, rfl⟩

/-- `set` leaves a selection of other entries as it is. -/
theorem filter_set (map : KeyedMap key Value) {name : Name} {value : Value}
    {select : Name × Value → Bool}
    (others : ∀ entry : Name × Value, key entry.1 = key name → select entry = false) :
    (map.set name value).entries.filter select = map.entries.filter select := by
  obtain ⟨kept, same, equality⟩ := map.set_eq_put name value
  rw [equality, put, List.filter_append, List.filter_cons_of_neg, List.filter_nil,
    List.append_nil, erase, List.filter_filter]
  · apply List.filter_congr
    intro entry member
    cases selected : select entry with
    | false => rfl
    | true =>
        have different : key entry.1 ≠ key kept := by
          intro equal
          rw [others entry (equal.trans same)] at selected
          cases selected
        simpa using different
  · rw [Bool.not_eq_true]
    exact others _ same

@[simp] theorem find?_set (map : KeyedMap key Value) (name other : Name) (value : Value) :
    (map.set name value).find? other =
      if key other = key name then some value else map.find? other := by
  rcases map.set_eq_put name value with ⟨kept, same, equality⟩
  rw [equality, find?_put, same]

/-- The entries of a map after `set`. -/
theorem mem_set {map : KeyedMap key Value} {name : Name} {value : Value}
    {entry : Name × Value} (member : entry ∈ (map.set name value).entries) :
    entry.1 = name ∨ ∃ old ∈ map.entries, entry.1 = old.1 := by
  rw [set] at member
  split at member
  · rename_i kept found
    rcases mem_put.mp member with rfl | ⟨old, -⟩
    · exact .inr ⟨kept, List.mem_of_find?_eq_some found, rfl⟩
    · exact .inr ⟨entry, old, rfl⟩
  · rcases mem_put.mp member with rfl | ⟨old, -⟩
    · exact .inl rfl
    · exact .inr ⟨entry, old, rfl⟩

/-- The other entries of a map after `set`. -/
theorem mem_set_of_ne {map : KeyedMap key Value} {name : Name} {value : Value}
    {entry : Name × Value} (different : key entry.1 ≠ key name) :
    entry ∈ (map.set name value).entries ↔ entry ∈ map.entries := by
  rcases map.set_eq_put name value with ⟨kept, same, equality⟩
  rw [equality, mem_put]
  constructor
  · rintro (rfl | ⟨old, -⟩)
    · exact absurd same different
    · exact old
  · intro membership
    exact .inr ⟨membership, same ▸ different⟩

end KeyedMap

end HWPanel.Library
