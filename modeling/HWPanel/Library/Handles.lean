import HWPanel.Library.Run
import Mathlib.Algebra.BigOperators.Fin
import Mathlib.Algebra.Order.Group.Multiset

/-!
# Handles

A handle is given out by one call and taken back by another, and the calls between may
use it. `ledger` runs such calls and stops at the first that uses or gives back what is
not held. What a piece of code does to the handles it needs, it does beside any others, so
pieces compose in sequence, in loops and in every interleaving of threads.
-/

namespace HWPanel.Library

universe u

/-- What a call does to a handle. -/
inductive HandleCall (Handle : Type u) where
  | acquire (handle : Handle)
  | use (handle : Handle)
  | release (handle : Handle)

section

variable {Handle : Type u} [DecidableEq Handle]

/-- The handles held, each as often as it was acquired. -/
def ledger (held : Multiset Handle) : HandleCall Handle → Option (Multiset Handle)
  | .acquire handle => some (handle ::ₘ held)
  | .use handle => if handle ∈ held then some held else none
  | .release handle => if handle ∈ held then some (held.erase handle) else none

/-- The calls keep to the ledger, and turn the handles `before` into `after`. -/
def Moves (before : Multiset Handle) (calls : List (HandleCall Handle))
    (after : Multiset Handle) : Prop :=
  run ledger before calls = some after

variable {before middle after extra : Multiset Handle} {calls front back : List (HandleCall Handle)}
  {handle : Handle}

theorem moves_nil : Moves before [] before := rfl

theorem Moves.append (first : Moves before front middle) (second : Moves middle back after) :
    Moves before (front ++ back) after := by
  rw [Moves, run_append, first]
  exact second

/-- What calls do, the first of them do a part of. -/
theorem Moves.of_append (moves : Moves before (front ++ back) after) :
    ∃ middle, Moves before front middle ∧ Moves middle back after :=
  run_append_some moves

theorem Moves.of_start (moves : Moves before calls after) (isPrefix : front <+: calls) :
    ∃ middle, Moves before front middle := by
  obtain ⟨back, rfl⟩ := isPrefix
  obtain ⟨middle, first, -⟩ := moves.of_append
  exact ⟨middle, first⟩

/-- What the first calls leave is what the others start from. -/
theorem Moves.of_append_of (first : Moves before front middle)
    (moves : Moves before (front ++ back) after) : Moves middle back after := by
  rw [Moves, run_append, first] at moves
  exact moves

/-- One call, beside handles that it has nothing to do with. -/
theorem ledger_frame {call : HandleCall Handle} (moved : ledger before call = some after)
    (extra : Multiset Handle) : ledger (before + extra) call = some (after + extra) := by
  cases call with
  | acquire handle =>
      cases moved
      exact congrArg some (Multiset.cons_add handle before extra).symm
  | use handle =>
      obtain ⟨held, afterEq⟩ := Option.ite_none_right_eq_some.mp moved
      cases afterEq
      exact if_pos (Multiset.mem_add.mpr (.inl held))
  | release handle =>
      obtain ⟨held, afterEq⟩ := Option.ite_none_right_eq_some.mp moved
      cases afterEq
      rw [← Multiset.erase_add_left_pos extra held]
      exact if_pos (Multiset.mem_add.mpr (.inl held))

theorem Moves.frame (moves : Moves before calls after) (extra : Multiset Handle) :
    Moves (before + extra) calls (after + extra) := by
  induction calls generalizing before with
  | nil =>
      cases moves
      exact moves_nil
  | cons call rest ih =>
      obtain ⟨middle, moved, remaining⟩ := Option.bind_eq_some_iff.mp moves
      rw [Moves, run_cons, ledger_frame moved extra]
      exact ih remaining

/-- Calls that leave nothing of their own leave what they find. -/
theorem Moves.beside (moves : Moves 0 calls 0) (held : Multiset Handle) :
    Moves held calls held := by
  have framed := moves.frame held
  rwa [zero_add] at framed

theorem moves_acquire : Moves before [.acquire handle] (handle ::ₘ before) := rfl

theorem moves_use (held : handle ∈ before) : Moves before [.use handle] before := by
  rw [Moves, run_cons, ledger, if_pos held]
  rfl

theorem moves_release : Moves (handle ::ₘ before) [.release handle] before := by
  rw [Moves, run_cons, ledger, if_pos (Multiset.mem_cons_self handle before),
    Multiset.erase_cons_head]
  rfl

/-- Handles taken, used and given back. -/
theorem Moves.bracket (moves : Moves (handle ::ₘ before) calls (handle ::ₘ before)) :
    Moves before (.acquire handle :: calls ++ [.release handle]) before :=
  (moves_acquire.append moves).append moves_release

/-- Calls that are made while another handle is held, and use it too. -/
def guarded (guard : Handle) (calls : List (HandleCall Handle)) : List (HandleCall Handle) :=
  calls.flatMap fun call => [.use guard, call]

theorem Moves.guarded (moves : Moves before calls after) (guard : Handle) :
    Moves (guard ::ₘ before) (guarded guard calls) (guard ::ₘ after) := by
  induction calls generalizing before with
  | nil =>
      cases moves
      exact moves_nil
  | cons call rest ih =>
      obtain ⟨middle, moved, remaining⟩ := Option.bind_eq_some_iff.mp moves
      have framed := ledger_frame moved {guard}
      rw [Multiset.add_comm, Multiset.singleton_add, Multiset.add_comm, Multiset.singleton_add]
        at framed
      refine (moves_use (Multiset.mem_cons_self guard before)).append ?_
      rw [Moves, run_cons, framed]
      exact ih remaining

/-- A loop whose passes leave the handles as they are. -/
theorem moves_flatMap {Item : Type u} {items : List Item} {body : Item → List (HandleCall Handle)}
    (passes : ∀ item ∈ items, Moves before (body item) before) :
    Moves before (items.flatMap body) before := by
  induction items with
  | nil => exact moves_nil
  | cons item rest ih =>
      rw [List.flatMap_cons]
      exact (passes item List.mem_cons_self).append
        (ih fun other member => passes other (List.mem_cons_of_mem item member))

theorem moves_acquireAll (handles : List Handle) :
    Moves before (handles.map .acquire) ((handles : Multiset Handle) + before) := by
  induction handles generalizing before with
  | nil =>
      rw [Multiset.coe_nil, zero_add]
      exact moves_nil
  | cons handle rest ih =>
      have rearranged : ((handle :: rest : List Handle) : Multiset Handle) + before =
          (rest : Multiset Handle) + handle ::ₘ before := by
        rw [← Multiset.cons_coe, Multiset.cons_add, Multiset.add_cons]
      rw [rearranged]
      exact moves_acquire.append ih

theorem moves_releaseAll (handles : List Handle) :
    Moves ((handles : Multiset Handle) + before) (handles.map .release) before := by
  induction handles with
  | nil =>
      rw [Multiset.coe_nil, zero_add]
      exact moves_nil
  | cons handle rest ih =>
      rw [← Multiset.cons_coe, Multiset.cons_add]
      exact moves_release.append ih

theorem moves_useAll {handles : List Handle} (held : ∀ handle ∈ handles, handle ∈ before) :
    Moves before (handles.map .use) before := by
  induction handles with
  | nil => exact moves_nil
  | cons handle rest ih =>
      exact (moves_use (held handle List.mem_cons_self)).append
        (ih fun other member => held other (List.mem_cons_of_mem handle member))

/-- A handle that is not held cannot be used. -/
theorem not_moves_use (absent : handle ∉ before) : ¬Moves before (.use handle :: calls) after := by
  rw [Moves, run_cons, ledger, if_neg absent]
  exact nofun

end

/-! ## Threads -/

section

variable {Handle Thread : Type u} [DecidableEq Thread] {trace : List (Thread × HandleCall Handle)}

/-- The calls of one thread. -/
def callsOf (thread : Thread) (trace : List (Thread × HandleCall Handle)) :
    List (HandleCall Handle) :=
  trace.filterMap fun entry => if entry.1 = thread then some entry.2 else none

@[simp] theorem callsOf_snoc (thread : Thread) (entry : Thread × HandleCall Handle) :
    callsOf thread (trace ++ [entry]) =
      callsOf thread trace ++ if entry.1 = thread then [entry.2] else [] := by
  rw [callsOf, List.filterMap_append]
  congr 1
  by_cases same : entry.1 = thread
  · rw [if_pos same]
    simp [same]
  · rw [if_neg same]
    simp [same]

@[simp] theorem callsOf_alone (thread : Thread) (calls : List (HandleCall Handle)) :
    callsOf thread (calls.map (thread, ·)) = calls := by
  rw [callsOf, List.filterMap_map]
  simp

theorem callsOf_others {thread other : Thread} (different : other ≠ thread)
    (calls : List (HandleCall Handle)) : callsOf other (calls.map (thread, ·)) = [] := by
  rw [callsOf, List.filterMap_map]
  simp [Ne.symm different]

/-- Threads that each keep to a ledger of their own keep to one in every interleaving. -/
theorem moves_interleaved [DecidableEq Handle] [Fintype Thread] {own : Thread → Multiset Handle}
    (each : ∀ thread, Moves 0 (callsOf thread trace) (own thread)) :
    Moves 0 (trace.map Prod.snd) (∑ thread, own thread) := by
  induction trace using List.reverseRecOn generalizing own with
  | nil =>
      have nothing : ∀ thread, own thread = 0 := fun thread => (Option.some.inj (each thread)).symm
      rw [Finset.sum_eq_zero fun thread _ => nothing thread]
      exact moves_nil
  | append_singleton front entry ih =>
      obtain ⟨actor, call⟩ := entry
      have acts := each actor
      rw [callsOf_snoc, if_pos rfl] at acts
      obtain ⟨held, reached, last⟩ := acts.of_append
      have moved : ledger held call = some (own actor) := by
        rw [Moves, run_cons] at last
        exact (Option.bind_eq_some_iff.mp last).elim fun after both =>
          both.1.trans both.2
      have earlier : ∀ thread,
          Moves 0 (callsOf thread front) (Function.update own actor held thread) := by
        intro thread
        by_cases same : thread = actor
        · rw [same, Function.update_self]
          exact reached
        · have others := each thread
          rw [callsOf_snoc, if_neg (Ne.symm same), List.append_nil] at others
          rw [Function.update_of_ne same]
          exact others
      have framed := ledger_frame moved (∑ thread ∈ Finset.univ \ {actor}, own thread)
      have whole := ih earlier
      rw [Finset.sum_update_of_mem (Finset.mem_univ actor)] at whole
      rw [List.map_append, ← Finset.add_sum_erase Finset.univ own (Finset.mem_univ actor),
        ← Finset.sdiff_singleton_eq_erase]
      refine whole.append ?_
      rw [Moves, List.map_singleton, run_cons, framed]
      rfl

end

end HWPanel.Library
