import HWPanel.Library.Circular
import Mathlib.Algebra.Ring.Nat

/-!
# The history ring buffer

`RingBuffer<T>`: a circular buffer whose oldest elements are overwritten once it
is full. Every member function is one critical section. The buffer is shown to hold
the newest elements of those pushed since the last `Clear`.
-/

namespace HWPanel.Core

structure RingBuffer (T : Type) where
  cap : Nat
  buf : List T := []
  /-- Index of the oldest element once full. -/
  head : Nat := 0
  total : UInt64 := 0

namespace RingBuffer

variable {T : Type}

def ofCapacity (capacity : Nat) : RingBuffer T :=
  { cap := if capacity = 0 then 1 else capacity }

def push (self : RingBuffer T) (value : T) : RingBuffer T :=
  if self.buf.length < self.cap then
    { self with buf := self.buf ++ [value], total := self.total + 1 }
  else
    { self with
      buf := self.buf.set self.head value
      head := (self.head + 1) % self.cap
      total := self.total + 1 }

def size (self : RingBuffer T) : Nat := self.buf.length

def capacity (self : RingBuffer T) : Nat := self.cap

def totalPushed (self : RingBuffer T) : UInt64 := self.total

/-- The most recent `n` elements in chronological order; `none` is a read outside
`buf`. -/
def lastN (self : RingBuffer T) (n : Nat) : Option (List T) :=
  let count := min n self.buf.length
  (List.range' (self.buf.length - count) count).mapM fun i =>
    self.buf[(self.head + i) % self.cap]?

def all (self : RingBuffer T) : Option (List T) := self.lastN self.size

def clear (self : RingBuffer T) : RingBuffer T :=
  { self with buf := [], head := 0, total := 0 }

inductive Op (T : Type) where
  | push (value : T)
  | clear

def apply (self : RingBuffer T) : Op T → RingBuffer T
  | .push value => self.push value
  | .clear => self.clear

/-- The buffer after a sequence of calls on a new one. -/
def replay (capacity : Nat) (ops : List (Op T)) : RingBuffer T :=
  ops.foldl apply (ofCapacity capacity)

/-- The values pushed since the last `Clear`, oldest first. -/
def pushedSinceClear (ops : List (Op T)) : List T :=
  ops.foldl (fun pushed op => match op with
    | .push value => pushed ++ [value]
    | .clear => []) []

/-- The buffer holds the newest elements of `pushed`. While it grows its head stays
at 0; once full, the head is the index of the oldest element. -/
structure Holds (buffer : RingBuffer T) (pushed : List T) : Prop where
  capPositive : 0 < buffer.cap
  headInRange : buffer.head < buffer.cap
  headOfGrowing : buffer.buf.length < buffer.cap → buffer.head = 0
  contents : buffer.buf.rotate buffer.head = pushed.rtake buffer.cap
  counted : buffer.total.toNat = pushed.length % 2 ^ 64

variable {buffer : RingBuffer T} {pushed : List T}

namespace Holds

theorem length_buf (holds : buffer.Holds pushed) :
    buffer.buf.length = min buffer.cap pushed.length := by
  rw [← List.length_rotate buffer.buf buffer.head, holds.contents, Library.rtake_length]

theorem length_buf_le (holds : buffer.Holds pushed) : buffer.buf.length ≤ buffer.cap := by
  rw [holds.length_buf]
  exact Nat.min_le_left _ _

/-- While the buffer grows it holds everything pushed, in order. -/
theorem buf_of_growing (holds : buffer.Holds pushed) (growing : buffer.buf.length < buffer.cap) :
    buffer.buf = pushed := by
  have few : pushed.length ≤ buffer.cap := by
    have length := holds.length_buf
    omega
  have contents := holds.contents
  rw [holds.headOfGrowing growing, List.rotate_zero] at contents
  rw [contents, List.rtake, Nat.sub_eq_zero_of_le few, List.drop_zero]

/-- The index `Push` writes to is in range. -/
theorem head_lt_length (holds : buffer.Holds pushed) (full : buffer.cap ≤ buffer.buf.length) :
    buffer.head < buffer.buf.length :=
  Nat.lt_of_lt_of_le holds.headInRange full

theorem counted_push (holds : buffer.Holds pushed) (value : T) :
    (buffer.total + 1).toNat = (pushed ++ [value]).length % 2 ^ 64 := by
  rw [UInt64.toNat_add, holds.counted, List.length_append]
  exact Nat.mod_add_mod _ _ _

theorem push (holds : buffer.Holds pushed) (value : T) :
    (buffer.push value).Holds (pushed ++ [value]) := by
  rw [RingBuffer.push]
  split
  case isTrue growing =>
    have headZero := holds.headOfGrowing growing
    refine { holds with
      headOfGrowing := fun _ => headZero
      contents := ?_
      counted := holds.counted_push value }
    have few : (pushed ++ [value]).length ≤ buffer.cap := by
      rw [← holds.buf_of_growing growing, List.length_append]
      exact growing
    simp only [headZero, List.rotate_zero, holds.buf_of_growing growing]
    rw [List.rtake, Nat.sub_eq_zero_of_le few, List.drop_zero]
  case isFalse notGrowing =>
    have full : buffer.buf.length = buffer.cap :=
      Nat.le_antisymm holds.length_buf_le (Nat.le_of_not_lt notGrowing)
    have many : buffer.cap ≤ pushed.length := by
      have length := holds.length_buf
      omega
    refine
      { capPositive := holds.capPositive
        headInRange := Nat.mod_lt _ holds.capPositive
        headOfGrowing := fun growing => absurd growing (by simp [full])
        contents := ?_
        counted := holds.counted_push value }
    have inRange := holds.head_lt_length (Nat.le_of_eq full.symm)
    calc (buffer.buf.set buffer.head value).rotate ((buffer.head + 1) % buffer.cap)
      _ = (buffer.buf.rotate buffer.head).tail ++ [value] := by
          rw [← full]
          exact Library.rotate_set inRange value
      _ = pushed.rtake (buffer.cap - 1) ++ [value] := by
          rw [holds.contents, Library.tail_rtake pushed many]
      _ = (pushed ++ [value]).rtake buffer.cap :=
          (Library.rtake_append_singleton pushed value holds.capPositive).symm

theorem clear (holds : buffer.Holds pushed) : buffer.clear.Holds [] where
  capPositive := holds.capPositive
  headInRange := holds.capPositive
  headOfGrowing := fun _ => rfl
  contents := by simp [RingBuffer.clear]
  counted := rfl

/-- Every index `LastN` reads is in range, and it reads the newest elements. -/
theorem lastN (holds : buffer.Holds pushed) (n : Nat) :
    buffer.lastN n = some (pushed.rtake (min n buffer.cap)) := by
  have rotatedLength : (buffer.buf.rotate buffer.head).length = buffer.buf.length :=
    List.length_rotate _ _
  have reads : ∀ index < (buffer.buf.rotate buffer.head).length,
      buffer.buf[(buffer.head + index) % buffer.cap]? =
        (buffer.buf.rotate buffer.head)[index]? := by
    intro index inRange
    rw [rotatedLength] at inRange
    rw [List.getElem?_rotate inRange, Nat.add_comm index]
    rcases Nat.lt_or_ge buffer.buf.length buffer.cap with growing | full
    · rw [holds.headOfGrowing growing, Nat.zero_add, Nat.mod_eq_of_lt inRange,
        Nat.mod_eq_of_lt (Nat.lt_trans inRange growing)]
    · rw [Nat.le_antisymm holds.length_buf_le full]
  have enough : min n buffer.buf.length ≤ (buffer.buf.rotate buffer.head).length := by
    rw [rotatedLength]
    exact Nat.min_le_right _ _
  have window := Library.mapM_range'_eq_rtake reads enough
  rw [rotatedLength] at window
  rw [RingBuffer.lastN]
  refine window.trans (congrArg some ?_)
  rw [holds.contents, Library.rtake_rtake]
  · simp only [List.rtake, holds.length_buf]
    congr 1
    omega
  · exact Nat.le_trans (Nat.min_le_right _ _) holds.length_buf_le

end Holds

theorem holds_ofCapacity (capacity : Nat) :
    (ofCapacity capacity : RingBuffer T).Holds [] where
  capPositive := by
    rw [ofCapacity]
    split
    · exact Nat.zero_lt_one
    · rename_i nonzero
      exact Nat.pos_of_ne_zero nonzero
  headInRange := by
    rw [ofCapacity]
    split
    · exact Nat.zero_lt_one
    · rename_i nonzero
      exact Nat.pos_of_ne_zero nonzero
  headOfGrowing := fun _ => rfl
  contents := by simp [ofCapacity]
  counted := rfl

@[simp] theorem cap_push (buffer : RingBuffer T) (value : T) :
    (buffer.push value).cap = buffer.cap := by
  rw [push]
  split
  · rfl
  · rfl

@[simp] theorem cap_apply (buffer : RingBuffer T) (op : Op T) :
    (buffer.apply op).cap = buffer.cap := by
  cases op with
  | push value => exact cap_push buffer value
  | clear => rfl

@[simp] theorem replay_snoc (capacity : Nat) (ops : List (Op T)) (op : Op T) :
    replay capacity (ops ++ [op]) = (replay capacity ops).apply op := by
  simp [replay]

@[simp] theorem cap_replay (capacity : Nat) (ops : List (Op T)) :
    (replay capacity ops).cap = if capacity = 0 then 1 else capacity := by
  induction ops using List.reverseRecOn with
  | nil => rfl
  | append_singleton ops op ih => rw [replay_snoc, cap_apply, ih]

theorem holds_replay (capacity : Nat) (ops : List (Op T)) :
    (replay capacity ops).Holds (pushedSinceClear ops) := by
  induction ops using List.reverseRecOn with
  | nil => exact holds_ofCapacity capacity
  | append_singleton ops op ih =>
      rw [replay_snoc, pushedSinceClear, List.foldl_append]
      cases op with
      | push value => exact ih.push value
      | clear => exact ih.clear

end RingBuffer

end HWPanel.Core
