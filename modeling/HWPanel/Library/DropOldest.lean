import Mathlib.Data.List.Induction
import Mathlib.Data.List.Perm.Basic

/-!
# Drop-oldest queues

A bounded first-in first-out queue whose `push` keeps the newest entries. The
ledger of a queue records what was pushed, popped and dropped in a sequence of
operations; its laws say where every pushed entry ends up and in which order
entries leave.
-/

namespace HWPanel.Library

universe u

variable {α : Type u}

inductive QueueOp (α : Type u) where
  | push (value : α)
  | pop

/-- Everything that happened to one queue, oldest entries first. -/
structure Ledger (α : Type u) where
  queue : List α := []
  pushed : List α := []
  popped : List α := []
  dropped : List α := []

namespace Ledger

/-- What a push drops: the entries beyond the newest `capacity`. -/
def overflow (capacity : Nat) (queue : List α) : List α :=
  queue.take (queue.length + 1 - capacity)

/-- A push keeps the newest `capacity` entries; a pop removes the oldest. -/
def step (capacity : Nat) (ledger : Ledger α) : QueueOp α → Ledger α
  | .push value =>
      { ledger with
        queue := (ledger.queue ++ [value]).drop (ledger.queue.length + 1 - capacity)
        pushed := ledger.pushed ++ [value]
        dropped := ledger.dropped ++ overflow capacity ledger.queue }
  | .pop =>
      { ledger with
        queue := ledger.queue.tail
        popped := ledger.popped ++ ledger.queue.head?.toList }

/-- The ledger of a queue that starts empty. -/
def replay (capacity : Nat) (ops : List (QueueOp α)) : Ledger α :=
  ops.foldl (step capacity) {}

variable {capacity : Nat}

@[simp] theorem replay_nil : replay capacity ([] : List (QueueOp α)) = {} := rfl

@[simp] theorem replay_snoc (ops : List (QueueOp α)) (op : QueueOp α) :
    replay capacity (ops ++ [op]) = (replay capacity ops).step capacity op := by
  simp [replay]

theorem replay_append (front back : List (QueueOp α)) :
    replay capacity (front ++ back) = back.foldl (step capacity) (replay capacity front) :=
  List.foldl_append

/-- The invariant of a ledger: no entry beyond the capacity, every entry pushed is
popped, dropped or still queued, and those not dropped leave in push order. -/
structure Balanced (capacity : Nat) (ledger : Ledger α) : Prop where
  bounded : ledger.queue.length ≤ capacity
  accounted : ledger.pushed.Perm (ledger.popped ++ ledger.dropped ++ ledger.queue)
  ordered : (ledger.popped ++ ledger.queue).Sublist ledger.pushed

theorem overflow_of_lt {queue : List α} (room : queue.length < capacity) :
    overflow capacity queue = [] := by
  rw [overflow, Nat.sub_eq_zero_of_le room, List.take_zero]

theorem overflow_of_full {queue : List α} (full : queue.length = capacity) :
    overflow capacity queue = queue.head?.toList := by
  rw [overflow, full, Nat.add_sub_cancel_left]
  cases queue with
  | nil => rfl
  | cons oldest rest => rfl

/-- The queue a push leaves, when there was room. -/
theorem push_of_lt {ledger : Ledger α} (room : ledger.queue.length < capacity)
    (value : α) : (ledger.step capacity (.push value)).queue = ledger.queue ++ [value] := by
  rw [step, Nat.sub_eq_zero_of_le room, List.drop_zero]

/-- The queue a push leaves, when it was full. -/
theorem push_of_full {ledger : Ledger α} (positive : 0 < capacity)
    (full : ledger.queue.length = capacity) (value : α) :
    (ledger.step capacity (.push value)).queue = ledger.queue.tail ++ [value] := by
  rw [step, full, Nat.add_sub_cancel_left]
  cases queueEq : ledger.queue with
  | nil => simp [← full, queueEq] at positive
  | cons oldest rest => rfl

/-- A push to a queue within its capacity, by cases on whether it was full. -/
theorem push_of_le {ledger : Ledger α} (positive : 0 < capacity)
    (bounded : ledger.queue.length ≤ capacity) (value : α) :
    ledger.step capacity (.push value) =
      { queue := if capacity ≤ ledger.queue.length then ledger.queue.tail ++ [value]
          else ledger.queue ++ [value]
        pushed := ledger.pushed ++ [value]
        popped := ledger.popped
        dropped := ledger.dropped ++ (if capacity ≤ ledger.queue.length
          then ledger.queue.head? else none).toList } := by
  rcases Nat.lt_or_eq_of_le bounded with room | full
  · rw [if_neg (Nat.not_le_of_lt room), if_neg (Nat.not_le_of_lt room),
      ← push_of_lt room value, step, overflow_of_lt room]
    rfl
  · rw [if_pos (Nat.le_of_eq full.symm), if_pos (Nat.le_of_eq full.symm),
      ← push_of_full positive full value, step, overflow_of_full full]

theorem Balanced.step {ledger : Ledger α} (positive : 0 < capacity)
    (balanced : ledger.Balanced capacity) (op : QueueOp α) :
    (ledger.step capacity op).Balanced capacity := by
  cases op with
  | push value =>
      rcases Nat.lt_or_eq_of_le balanced.bounded with room | full
      · constructor
        · rw [push_of_lt room, List.length_append]
          exact room
        · rw [push_of_lt room, Ledger.step, overflow_of_lt room]
          simpa using balanced.accounted.append_right [value]
        · rw [push_of_lt room, Ledger.step]
          simpa using balanced.ordered.append_right [value]
      · constructor
        · rw [push_of_full positive full, List.length_append, List.length_tail, full]
          exact Nat.le_of_eq (Nat.sub_add_cancel positive)
        · rw [push_of_full positive full, Ledger.step, overflow_of_full full]
          have accounted := balanced.accounted.append_right [value]
          cases queueEq : ledger.queue with
          | nil => simpa [queueEq] using accounted
          | cons oldest rest => simpa [queueEq] using accounted
        · rw [push_of_full positive full, Ledger.step]
          have shorter : (ledger.popped ++ ledger.queue.tail).Sublist ledger.pushed :=
            ((ledger.queue.tail_sublist).append_left ledger.popped).trans balanced.ordered
          simpa using shorter.append_right [value]
  | pop =>
      constructor
      · rw [Ledger.step, List.length_tail]
        exact Nat.le_trans (Nat.sub_le _ _) balanced.bounded
      · rw [Ledger.step]
        refine balanced.accounted.trans ?_
        cases queueEq : ledger.queue with
        | nil => simp
        | cons oldest rest =>
            simp only [List.head?_cons, Option.toList_some, List.tail_cons,
              List.append_assoc]
            exact (List.perm_middle.trans (by simp)).append_left _
      · rw [Ledger.step]
        cases queueEq : ledger.queue with
        | nil => simpa [queueEq] using balanced.ordered
        | cons oldest rest => simpa [queueEq] using balanced.ordered

theorem balanced_replay (positive : 0 < capacity) (ops : List (QueueOp α)) :
    (replay capacity ops).Balanced capacity := by
  induction ops using List.reverseRecOn with
  | nil => exact ⟨Nat.zero_le _, .nil, .slnil⟩
  | append_singleton ops op ih =>
      rw [replay_snoc]
      exact ih.step positive op

/-- A ledger that dropped nothing has the pushed entries popped and queued in
order. -/
theorem Balanced.popped_append_queue {ledger : Ledger α}
    (balanced : ledger.Balanced capacity) (lossless : ledger.dropped = []) :
    ledger.popped ++ ledger.queue = ledger.pushed := by
  apply balanced.ordered.eq_of_length
  have lengths := balanced.accounted.length_eq
  rw [lossless, List.append_nil] at lengths
  exact lengths.symm

/-- After the last push, the pops take exactly the front of the queue. -/
theorem foldl_pop (capacity : Nat) (ledger : Ledger α) (ops : List (QueueOp α))
    (pops : ∀ op ∈ ops, op = .pop) :
    ∃ taken, (ops.foldl (step capacity) ledger).popped = ledger.popped ++ taken ∧
      taken ++ (ops.foldl (step capacity) ledger).queue = ledger.queue := by
  induction ops generalizing ledger with
  | nil => exact ⟨[], by simp, rfl⟩
  | cons op rest ih =>
      cases pops op List.mem_cons_self
      obtain ⟨taken, popped, remaining⟩ :=
        ih (ledger.step capacity .pop) fun op member => pops op (List.mem_cons_of_mem _ member)
      refine ⟨ledger.queue.head?.toList ++ taken, ?_, ?_⟩
      · rw [List.foldl_cons, popped, Ledger.step, List.append_assoc]
      · rw [List.foldl_cons, List.append_assoc, remaining, Ledger.step]
        cases ledger.queue with
        | nil => rfl
        | cons oldest rest => rfl

end Ledger

end HWPanel.Library
