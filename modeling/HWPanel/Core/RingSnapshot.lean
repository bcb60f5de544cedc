import HWPanel.Core.RingBuffer

/-!
# `All` among other threads

`RingBuffer::All` is two critical sections, `Size` and `LastN`, and other threads may push
and clear between them. It returns the newest values at its end, as many as the buffer
held at its start, which are the contents of one instant only for some interleavings.
-/

namespace HWPanel.Core

namespace RingBuffer

variable {T : Type}

/-- `All` when the other threads make these calls between `Size` and `LastN`. -/
def allAmong (self : RingBuffer T) (between : List (Op T)) : Option (List T) :=
  (between.foldl apply self).lastN self.size

/-- The complete contents, oldest to newest. -/
def contents (self : RingBuffer T) : List T := self.buf.rotate self.head

/-- The list returned is the contents at an instant of the call: after some of the calls
of the other threads, in their order. -/
def ReturnsSnapshot (self : RingBuffer T) (between : List (Op T)) : Prop :=
  ∃ front back, between = front ++ back ∧
    self.allAmong between = some (front.foldl apply self).contents

/-- The buffer is full at the start, or holds no more at the end than then, or the values
pushed last are those it held at the start, or those pushed first after some `Clear`, as
many as it held at the start. -/
def Coherent (capacity : Nat) (past between : List (Op T)) : Prop :=
  (replay capacity past).size = (replay capacity past).capacity ∨
    (pushedSinceClear (past ++ between)).length ≤ (replay capacity past).size ∨
    pushedSinceClear past <:+ pushedSinceClear (past ++ between) ∨
    ∃ front back values, between = front ++ .clear :: values.map .push ++ back ∧
      values.length = (replay capacity past).size ∧
      values <:+ pushedSinceClear (past ++ between)

@[simp] theorem pushedSinceClear_pushes (past : List (Op T)) (values : List T) :
    pushedSinceClear (past ++ values.map .push) = pushedSinceClear past ++ values := by
  induction values using List.reverseRecOn with
  | nil => simp
  | append_singleton values value ih =>
      rw [List.map_append, ← List.append_assoc, pushedSinceClear, List.foldl_append,
        ← pushedSinceClear, ih]
      simp

/-- A `Clear` hides what was pushed before it. -/
@[simp] theorem pushedSinceClear_clear (past : List (Op T)) (values : List T) :
    pushedSinceClear (past ++ .clear :: values.map .push) = values := by
  have cleared : pushedSinceClear (past ++ [.clear]) = [] := by
    rw [pushedSinceClear, List.foldl_append]
    rfl
  rw [List.append_cons, pushedSinceClear_pushes, cleared, List.nil_append]

/-- Calls are only pushes, or pushes after a last `Clear`. -/
theorem pushes_or_clear (ops : List (Op T)) :
    (∃ values : List T, ops = values.map .push) ∨
      ∃ front, ∃ values : List T, ops = front ++ .clear :: values.map .push := by
  induction ops using List.reverseRecOn with
  | nil => exact .inl ⟨[], rfl⟩
  | append_singleton ops op ih =>
      cases op with
      | clear => exact .inr ⟨ops, [], rfl⟩
      | push value =>
          rcases ih with ⟨values, rfl⟩ | ⟨front, values, rfl⟩
          · exact .inl ⟨values ++ [value], by simp⟩
          · exact .inr ⟨front, values ++ [value], by simp⟩

@[simp] theorem foldl_apply_replay (capacity : Nat) (past ops : List (Op T)) :
    ops.foldl apply (replay capacity past) = replay capacity (past ++ ops) := by
  rw [replay, replay, List.foldl_append]

theorem contents_replay (capacity : Nat) (ops : List (Op T)) :
    (replay capacity ops).contents =
      (pushedSinceClear ops).rtake (replay capacity ops).cap :=
  (holds_replay capacity ops).contents

@[simp] theorem size_replay (capacity : Nat) (ops : List (Op T)) :
    (replay capacity ops).size =
      min (replay capacity ops).cap (pushedSinceClear ops).length :=
  (holds_replay capacity ops).length_buf

/-- What `All` returns: the newest values pushed by its end, as many as the buffer held at
its start. -/
theorem allAmong_replay (capacity : Nat) (past between : List (Op T)) :
    (replay capacity past).allAmong between =
      some ((pushedSinceClear (past ++ between)).rtake (replay capacity past).size) := by
  have sameCap : (replay capacity (past ++ between)).cap = (replay capacity past).cap := by
    rw [cap_replay, cap_replay]
  have inCapacity : (replay capacity past).size ≤ (replay capacity (past ++ between)).cap := by
    rw [sameCap, size_replay]
    exact Nat.min_le_left _ _
  rw [allAmong, foldl_apply_replay, (holds_replay capacity (past ++ between)).lastN,
    Nat.min_eq_left inCapacity]

/-- Without other threads `All` returns the contents. -/
@[simp] theorem all_replay (capacity : Nat) (ops : List (Op T)) :
    (replay capacity ops).all = some (replay capacity ops).contents := by
  have alone := allAmong_replay capacity ops []
  rw [List.append_nil, size_replay, Library.rtake_min_length, ← contents_replay] at alone
  exact alone

/-- The contents of a buffer that is not full are all that was pushed. -/
theorem contents_of_length_le {capacity : Nat} {ops : List (Op T)}
    (few : (pushedSinceClear ops).length ≤ (replay capacity ops).cap) :
    (replay capacity ops).contents = pushedSinceClear ops := by
  rw [contents_replay, List.rtake, Nat.sub_eq_zero_of_le few, List.drop_zero]

theorem size_le_cap (capacity : Nat) (ops : List (Op T)) :
    (replay capacity ops).size ≤ (replay capacity ops).cap := by
  rw [size_replay]
  exact Nat.min_le_left _ _

theorem size_of_length_le {capacity : Nat} {ops : List (Op T)}
    (few : (pushedSinceClear ops).length ≤ (replay capacity ops).cap) :
    (replay capacity ops).size = (pushedSinceClear ops).length := by
  rw [size_replay, Nat.min_eq_right few]

@[simp] theorem cap_append (capacity : Nat) (past ops : List (Op T)) :
    (replay capacity (past ++ ops)).cap = (replay capacity past).cap := by
  rw [cap_replay, cap_replay]

/-! ## The exact interleavings -/

variable {capacity : Nat} {past between : List (Op T)}

/-- The list returned is the contents after some of the calls. -/
theorem returnsSnapshot_iff :
    (replay capacity past).ReturnsSnapshot between ↔
      ∃ front back, between = front ++ back ∧
        (replay capacity (past ++ front)).contents =
          (pushedSinceClear (past ++ between)).rtake (replay capacity past).size := by
  simp only [ReturnsSnapshot, allAmong_replay, foldl_apply_replay, Option.some.injEq, eq_comm]

/-- A buffer that was full holds at the end just what is returned. -/
theorem returnsSnapshot_of_full
    (full : (replay capacity past).size = (replay capacity past).capacity) :
    (replay capacity past).ReturnsSnapshot between := by
  refine returnsSnapshot_iff.mpr ⟨between, [], (List.append_nil _).symm, ?_⟩
  rw [contents_replay, cap_append, full]
  rfl

/-- Contents that are no longer than the list counted for are returned when they are the
values pushed last. -/
theorem contents_eq_of_suffix {front : List (Op T)}
    (counted : (pushedSinceClear (past ++ front)).length = (replay capacity past).size)
    (last : pushedSinceClear (past ++ front) <:+ pushedSinceClear (past ++ between)) :
    (replay capacity (past ++ front)).contents =
      (pushedSinceClear (past ++ between)).rtake (replay capacity past).size := by
  have few : (pushedSinceClear (past ++ front)).length ≤
      (replay capacity (past ++ front)).cap := by
    rw [counted, cap_append]
    exact size_le_cap capacity past
  rw [contents_of_length_le few, ← counted, Library.rtake_eq_of_suffix last]

theorem Coherent.returnsSnapshot (coherent : Coherent capacity past between) :
    (replay capacity past).ReturnsSnapshot between := by
  rcases coherent with full | small | repeats | ⟨front, back, values, split, counted, last⟩
  · exact returnsSnapshot_of_full full
  · refine returnsSnapshot_iff.mpr ⟨between, [], (List.append_nil _).symm, ?_⟩
    have few := Nat.le_trans small (size_le_cap capacity past)
    rw [← cap_append capacity past between] at few
    rw [contents_of_length_le few, List.rtake, Nat.sub_eq_zero_of_le small, List.drop_zero]
  · rcases Nat.le_total (pushedSinceClear past).length (replay capacity past).cap with few | many
    · refine returnsSnapshot_iff.mpr ⟨[], between, rfl, contents_eq_of_suffix ?_ ?_⟩
      · rw [List.append_nil, size_of_length_le few]
      · rw [List.append_nil]
        exact repeats
    · apply returnsSnapshot_of_full
      rw [size_replay, Nat.min_eq_left many]
      rfl
  · have pushed : pushedSinceClear (past ++ (front ++ .clear :: values.map .push)) = values := by
      rw [← List.append_assoc, pushedSinceClear_clear]
    refine returnsSnapshot_iff.mpr ⟨_, back, split, contents_eq_of_suffix ?_ ?_⟩
    · rw [pushed, counted]
    · rw [pushed]
      exact last

theorem coherent_of_returnsSnapshot (snapshot : (replay capacity past).ReturnsSnapshot between) :
    Coherent capacity past between := by
  obtain ⟨front, back, split, returned⟩ := returnsSnapshot_iff.mp snapshot
  by_cases full : (replay capacity past).size = (replay capacity past).capacity
  · exact .inl full
  by_cases small : (pushedSinceClear (past ++ between)).length ≤ (replay capacity past).size
  · exact .inr (.inl small)
  -- The contents are as many as were counted, so none of them has been overwritten.
  have sizeLt : (replay capacity past).size < (replay capacity past).cap :=
    Nat.lt_of_le_of_ne (size_le_cap capacity past) full
  have length := congrArg List.length returned
  rw [contents_replay, Library.rtake_length, Library.rtake_length, cap_append] at length
  have counted : (pushedSinceClear (past ++ front)).length = (replay capacity past).size := by
    omega
  have few : (pushedSinceClear (past ++ front)).length ≤
      (replay capacity (past ++ front)).cap := by
    rw [counted, cap_append]
    exact Nat.le_of_lt sizeLt
  have last : pushedSinceClear (past ++ front) <:+ pushedSinceClear (past ++ between) := by
    rw [← contents_of_length_le few, returned]
    exact List.drop_suffix _ _
  rcases pushes_or_clear front with ⟨values, rfl⟩ | ⟨earlier, values, rfl⟩
  · -- Only pushes came before: there was none, or the buffer would have grown.
    have sizeEq := size_replay capacity past
    rw [pushedSinceClear_pushes, List.length_append] at counted
    have noPush : values = [] := List.length_eq_zero_iff.mp (by omega)
    rw [noPush, List.map_nil, List.append_nil] at last
    exact .inr (.inr (.inl last))
  · rw [← List.append_assoc, pushedSinceClear_clear] at counted last
    exact .inr (.inr (.inr ⟨earlier, back, values, split, counted, last⟩))

end RingBuffer

/-- Among the calls of other threads `All` returns the contents of one instant exactly when
the buffer is full at its start, or holds no more at its end, or the values pushed last
repeat earlier contents. -/
theorem all_returns_snapshot_iff {T : Type} (capacity : Nat)
    (past between : List (RingBuffer.Op T)) :
    (RingBuffer.replay capacity past).ReturnsSnapshot between ↔
      RingBuffer.Coherent capacity past between :=
  ⟨RingBuffer.coherent_of_returnsSnapshot, RingBuffer.Coherent.returnsSnapshot⟩

/-- One push into a growing buffer that held 1: the list returned is 2 alone. -/
theorem all_misses_growing_buffer :
    (RingBuffer.replay 3 [.push 1]).allAmong [.push 2] = some [2] ∧
      ¬(RingBuffer.replay 3 [.push 1]).ReturnsSnapshot [.push 2] := by
  refine ⟨rfl, ?_⟩
  rintro ⟨front, back, split, returned⟩
  cases front with
  | nil =>
      have contents : some [2] = some [1] := returned
      exact absurd contents (by decide)
  | cons op front =>
      obtain ⟨rfl, rest⟩ := List.cons.inj split
      obtain ⟨rfl, rfl⟩ := List.append_eq_nil_iff.mp rest.symm
      have contents : some [2] = some [1, 2] := returned
      exact absurd contents (by decide)

end HWPanel.Core
