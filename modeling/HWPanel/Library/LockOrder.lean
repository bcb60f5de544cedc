import HWPanel.Library.Run
import Mathlib.Algebra.Order.BigOperators.Group.Finset
import Mathlib.Data.Fintype.Basic

/-!
# Locks taken in order

Threads that lock mutexes in nested scopes and join each other, interleaved in any order.
When a rank grows along everything a thread waits for while it holds something, no
interleaving ends before all threads have.
-/

namespace HWPanel.Library

universe u v

/-- What a thread can wait for: a mutex, or the end of another thread. -/
inductive Resource (Mutex : Type u) (Thread : Type v) where
  | mutex (mutex : Mutex)
  | thread (thread : Thread)
  deriving DecidableEq

/-- The synchronisation of a piece of code: scopes of a lock, and joins. -/
inductive LockCode (Mutex : Type u) (Thread : Type v) where
  | done
  | locked (mutex : Mutex) (body rest : LockCode Mutex Thread)
  | join (thread : Thread) (rest : LockCode Mutex Thread)

inductive LockAction (Mutex : Type u) (Thread : Type v) where
  | acquire (resource : Resource Mutex Thread)
  | release (resource : Resource Mutex Thread)

variable {Mutex : Type u} {Thread : Type v}

namespace LockCode

/-- One piece of code after the other. -/
def append : LockCode Mutex Thread → LockCode Mutex Thread → LockCode Mutex Thread
  | .done, next => next
  | .locked mutex body rest, next => .locked mutex body (rest.append next)
  | .join thread rest, next => .join thread (rest.append next)

/-- All pieces in order. -/
def sequence (codes : List (LockCode Mutex Thread)) : LockCode Mutex Thread :=
  codes.foldr append .done

/-- The scope of a lock that waits for nothing else. -/
def scope (mutex : Mutex) : LockCode Mutex Thread := .locked mutex .done .done

/-- A join waits for the end of the thread, and keeps nothing. -/
def actions : LockCode Mutex Thread → List (LockAction Mutex Thread)
  | .done => []
  | .locked mutex body rest =>
      .acquire (.mutex mutex) :: (body.actions ++ .release (.mutex mutex) :: rest.actions)
  | .join thread rest => .acquire (.thread thread) :: .release (.thread thread) :: rest.actions

variable (rank : Resource Mutex Thread → Nat)

/-- Everything is waited for in the order of the ranks, from `low` on. -/
def InOrder : Nat → LockCode Mutex Thread → Prop
  | _, .done => True
  | low, .locked mutex body rest =>
      low ≤ rank (.mutex mutex) ∧ InOrder (rank (.mutex mutex) + 1) body ∧ InOrder low rest
  | low, .join thread rest => low ≤ rank (.thread thread) ∧ InOrder low rest

variable {rank} {low : Nat}

theorem InOrder.append {code next : LockCode Mutex Thread} (inOrder : code.InOrder rank low)
    (nextInOrder : next.InOrder rank low) : (code.append next).InOrder rank low := by
  induction code with
  | done => exact nextInOrder
  | locked mutex body rest _ ih => exact ⟨inOrder.1, inOrder.2.1, ih inOrder.2.2⟩
  | join thread rest ih => exact ⟨inOrder.1, ih inOrder.2⟩

theorem inOrder_sequence {codes : List (LockCode Mutex Thread)}
    (inOrder : ∀ code ∈ codes, code.InOrder rank low) : (sequence codes).InOrder rank low := by
  induction codes with
  | nil => exact True.intro
  | cons code codes ih =>
      obtain ⟨first, later⟩ := List.forall_mem_cons.mp inOrder
      exact first.append (ih later)

theorem InOrder.mono {code : LockCode Mutex Thread} {lower : Nat}
    (inOrder : code.InOrder rank low) (below : lower ≤ low) : code.InOrder rank lower := by
  induction code with
  | done => exact True.intro
  | locked mutex body rest _ ih => exact ⟨below.trans inOrder.1, inOrder.2.1, ih inOrder.2.2⟩
  | join thread rest ih => exact ⟨below.trans inOrder.1, ih inOrder.2⟩

end LockCode

/-- What a thread that holds these resources may still do: it waits only for ranks above all
it holds, gives back only what it holds, and in the end everything. -/
def OrderedActions [DecidableEq Mutex] [DecidableEq Thread]
    (rank : Resource Mutex Thread → Nat) :
    List (Resource Mutex Thread) → List (LockAction Mutex Thread) → Prop
  | held, [] => held = []
  | held, .acquire resource :: rest =>
      (∀ other ∈ held, rank other < rank resource) ∧
        OrderedActions rank (resource :: held) rest
  | held, .release resource :: rest =>
      resource ∈ held ∧ OrderedActions rank (held.erase resource) rest

section

variable [DecidableEq Mutex] [DecidableEq Thread] {rank : Resource Mutex Thread → Nat}

/-- Code in order runs in the middle of what a thread does. -/
theorem orderedActions_of_inOrder {code : LockCode Mutex Thread} {low : Nat}
    (inOrder : code.InOrder rank low) {held : List (Resource Mutex Thread)}
    (below : ∀ other ∈ held, rank other < low) {next : List (LockAction Mutex Thread)}
    (ordered : OrderedActions rank held next) :
    OrderedActions rank held (code.actions ++ next) := by
  induction code generalizing low held next with
  | done => exact ordered
  | locked mutex body rest bodyIh restIh =>
      obtain ⟨above, bodyInOrder, restInOrder⟩ := inOrder
      rw [LockCode.actions, List.cons_append, List.append_assoc, List.cons_append]
      refine ⟨fun other member => (below other member).trans_le above, ?_⟩
      refine bodyIh bodyInOrder ?_ ⟨List.mem_cons_self, ?_⟩
      · intro other member
        rcases List.mem_cons.mp member with rfl | earlier
        · exact Nat.lt_succ_self _
        · exact ((below other earlier).trans_le above).trans (Nat.lt_succ_self _)
      · rw [List.erase_cons_head]
        exact restIh restInOrder below ordered
  | join thread rest ih =>
      obtain ⟨above, restInOrder⟩ := inOrder
      refine ⟨fun other member => (below other member).trans_le above, List.mem_cons_self, ?_⟩
      rw [List.erase_cons_head]
      exact ih restInOrder below ordered

end

/-- What each thread has left to do, and which one holds a resource. -/
structure Locking (Mutex : Type u) (Thread : Type v) where
  todo : Thread → List (LockAction Mutex Thread)
  owner : Resource Mutex Thread → Option Thread

namespace Locking

variable [DecidableEq Mutex] [DecidableEq Thread]

/-- The next action of a thread; a resource that is held blocks it. -/
def step (self : Locking Mutex Thread) (thread : Thread) : Option (Locking Mutex Thread) :=
  match self.todo thread with
  | [] => none
  | .acquire resource :: rest =>
      if self.owner resource = none then
        some { todo := Function.update self.todo thread rest
               owner := Function.update self.owner resource (some thread) }
      else none
  | .release resource :: rest =>
      some { todo := Function.update self.todo thread rest
             owner := Function.update self.owner resource none }

/-- Every thread with its code, and nothing locked; a thread holds its own end. -/
def start (code : Thread → LockCode Mutex Thread) : Locking Mutex Thread where
  todo thread := (code thread).actions ++ [.release (.thread thread)]
  owner
    | .mutex _ => none
    | .thread thread => some thread

/-- What every thread holds explains the owners, and what it still does is in order. -/
structure Disciplined (rank : Resource Mutex Thread → Nat)
    (held : Thread → List (Resource Mutex Thread)) (locking : Locking Mutex Thread) : Prop where
  distinct (thread : Thread) : (held thread).Nodup
  owned (resource : Resource Mutex Thread) (thread : Thread) :
    locking.owner resource = some thread ↔ resource ∈ held thread
  ordered (thread : Thread) : OrderedActions rank (held thread) (locking.todo thread)

variable {rank : Resource Mutex Thread → Nat} {self next : Locking Mutex Thread}
  {held : Thread → List (Resource Mutex Thread)} {code : Thread → LockCode Mutex Thread}

theorem disciplined_start
    (inOrder : ∀ thread, (code thread).InOrder rank (rank (.thread thread) + 1)) :
    Disciplined rank (fun thread => [.thread thread]) (start code) where
  distinct _ := List.nodup_singleton _
  owned resource thread := by
    cases resource with
    | mutex mutex => simp [start]
    | thread other => simp [start, eq_comm]
  ordered thread := by
    refine orderedActions_of_inOrder (inOrder thread) ?_ ⟨List.mem_cons_self, ?_⟩
    · intro other member
      rw [List.mem_singleton.mp member]
      exact Nat.lt_succ_self _
    · rw [List.erase_cons_head]
      rfl

/-- The steps of a thread: it takes what no one holds, or gives back. -/
inductive Transition (self : Locking Mutex Thread) (thread : Thread) : Locking Mutex Thread → Prop
  | acquire (resource : Resource Mutex Thread) (rest : List (LockAction Mutex Thread))
      (todo : self.todo thread = .acquire resource :: rest) (free : self.owner resource = none) :
      Transition self thread
        { todo := Function.update self.todo thread rest
          owner := Function.update self.owner resource (some thread) }
  | release (resource : Resource Mutex Thread) (rest : List (LockAction Mutex Thread))
      (todo : self.todo thread = .release resource :: rest) :
      Transition self thread
        { todo := Function.update self.todo thread rest
          owner := Function.update self.owner resource none }

theorem step_transition {thread : Thread} (taken : self.step thread = some next) :
    Transition self thread next := by
  rw [step] at taken
  split at taken
  · cases taken
  · rename_i resource rest todo
    obtain ⟨free, nextEq⟩ := Option.ite_none_right_eq_some.mp taken
    cases nextEq
    exact .acquire resource rest todo free
  · rename_i resource rest todo
    cases taken
    exact .release resource rest todo

/-- One thread takes or gives back a resource that no other holds. -/
theorem Disciplined.update (disciplined : Disciplined rank held self) {thread : Thread}
    {resource : Resource Mutex Thread} {holder : Option Thread}
    {after : List (Resource Mutex Thread)} {rest : List (LockAction Mutex Thread)}
    (distinct : after.Nodup) (ordered : OrderedActions rank after rest)
    (others : ∀ other, other ≠ thread → resource ∉ held other ∧ holder ≠ some other)
    (holds : holder = some thread ↔ resource ∈ after)
    (kept : ∀ wanted, wanted ≠ resource → (wanted ∈ after ↔ wanted ∈ held thread)) :
    Disciplined rank (Function.update held thread after)
      { todo := Function.update self.todo thread rest
        owner := Function.update self.owner resource holder } := by
  have elsewhere (other : Thread) (different : other ≠ thread) :
      Function.update held thread after other = held other :=
    Function.update_of_ne different _ _
  constructor
  · intro other
    by_cases same : other = thread
    · rw [same, Function.update_self]
      exact distinct
    · rw [elsewhere other same]
      exact disciplined.distinct other
  · intro wanted other
    have owned := disciplined.owned wanted other
    simp only
    by_cases same : other = thread
    · subst same
      rw [Function.update_self]
      by_cases isResource : wanted = resource
      · rw [isResource, Function.update_self]
        exact holds
      · rw [Function.update_of_ne isResource, owned]
        exact (kept wanted isResource).symm
    · rw [elsewhere other same]
      by_cases isResource : wanted = resource
      · rw [isResource, Function.update_self]
        exact iff_of_false (others other same).2 (others other same).1
      · rw [Function.update_of_ne isResource]
        exact owned
  · intro other
    by_cases same : other = thread
    · subst same
      rw [Function.update_self]
      simp only [Function.update_self]
      exact ordered
    · rw [elsewhere other same]
      simp only [Function.update_of_ne same]
      exact disciplined.ordered other

theorem Disciplined.step (disciplined : Disciplined rank held self) {thread : Thread}
    (taken : self.step thread = some next) : ∃ held, Disciplined rank held next := by
  have here := disciplined.ordered thread
  cases step_transition taken with
  | acquire resource rest todo free =>
      rw [todo] at here
      have absent (other : Thread) : resource ∉ held other := by
        intro member
        have holder := (disciplined.owned resource other).mpr member
        rw [free] at holder
        cases holder
      refine ⟨_, disciplined.update
        (List.nodup_cons.mpr ⟨absent thread, disciplined.distinct thread⟩) here.2 ?_ ?_ ?_⟩
      · intro other different
        exact ⟨absent other, fun same => different (Option.some.inj same).symm⟩
      · exact iff_of_true rfl List.mem_cons_self
      · intro wanted different
        rw [List.mem_cons]
        exact or_iff_right different
  | release resource rest todo =>
      rw [todo] at here
      have distinct := disciplined.distinct thread
      have owner := (disciplined.owned resource thread).mpr here.1
      refine ⟨_, disciplined.update (distinct.erase resource) here.2 ?_ ?_ ?_⟩
      · intro other different
        refine ⟨fun member => different ?_, (fun same => by cases same)⟩
        exact Option.some.inj (((disciplined.owned resource other).mpr member).symm.trans owner)
      · exact iff_of_false (fun same => by cases same) distinct.not_mem_erase
      · intro wanted different
        exact List.mem_erase_of_ne different

theorem Disciplined.run (disciplined : Disciplined rank held self) {schedule : List Thread}
    (executed : run Locking.step self schedule = some next) :
    ∃ held, Disciplined rank held next :=
  run_invariant (fun locking => ∃ held, Disciplined rank held locking) ⟨held, disciplined⟩
    (fun _ _ _ ⟨_, before⟩ taken => before.step taken) executed

/-! ## No deadlock -/

/-- A thread that waits, waits for one that waits for a higher rank. -/
theorem Disciplined.waits_higher (disciplined : Disciplined rank held self)
    (stuck : ∀ thread, self.step thread = none) {thread : Thread}
    {resource : Resource Mutex Thread} {rest : List (LockAction Mutex Thread)}
    (waits : self.todo thread = .acquire resource :: rest) :
    ∃ other wanted rest', self.todo other = .acquire wanted :: rest' ∧
      rank resource < rank wanted := by
  have blocked := stuck thread
  rw [Locking.step, waits] at blocked
  obtain ⟨other, owner⟩ : ∃ other, self.owner resource = some other := by
    cases owner : self.owner resource with
    | none => simp [owner] at blocked
    | some other => exact ⟨other, rfl⟩
  have member := (disciplined.owned resource other).mp owner
  have ordered := disciplined.ordered other
  have otherStuck := stuck other
  rw [Locking.step] at otherStuck
  split at otherStuck
  · rename_i nothing
    rw [nothing] at ordered
    rw [show held other = [] from ordered] at member
    cases member
  · rename_i wanted rest' todo
    rw [todo] at ordered
    exact ⟨other, wanted, rest', todo, ordered.1 resource member⟩
  · cases otherStuck

/-- When no thread can go on, all are done. -/
theorem Disciplined.finished (disciplined : Disciplined rank held self) {bound : Nat}
    (bounded : ∀ resource, rank resource ≤ bound) (stuck : ∀ thread, self.step thread = none) :
    ∀ thread, self.todo thread = [] := by
  have noWait (gap : Nat) : ∀ thread resource rest, bound - rank resource = gap →
      self.todo thread ≠ .acquire resource :: rest := by
    induction gap using Nat.strong_induction_on with
    | _ gap ih =>
        intro thread resource rest gapEq waits
        obtain ⟨other, wanted, rest', waitsToo, higher⟩ :=
          disciplined.waits_higher stuck waits
        have below := bounded wanted
        exact ih (bound - rank wanted) (by omega) other wanted rest' rfl waitsToo
  intro thread
  have blocked := stuck thread
  rw [Locking.step] at blocked
  split at blocked
  · assumption
  · rename_i resource rest todo
    exact absurd todo (noWait _ thread resource rest rfl)
  · cases blocked

variable [Fintype Thread]

/-- How many actions are left. -/
def left (self : Locking Mutex Thread) : Nat := ∑ thread, (self.todo thread).length

omit [DecidableEq Mutex] in
theorem left_update {thread : Thread} {action : LockAction Mutex Thread}
    {rest : List (LockAction Mutex Thread)} (todo : self.todo thread = action :: rest)
    (owner : Resource Mutex Thread → Option Thread) :
    left { todo := Function.update self.todo thread rest, owner } < self.left := by
  refine Finset.sum_lt_sum ?_ ⟨thread, Finset.mem_univ thread, ?_⟩
  · intro other _
    by_cases same : other = thread
    · subst same
      simp only [Function.update_self, todo, List.length_cons, Nat.le_succ]
    · simp only [Function.update_of_ne same, le_refl]
  · simp only [Function.update_self, todo, List.length_cons, Nat.lt_succ_self]

theorem left_step {thread : Thread} (taken : self.step thread = some next) :
    next.left < self.left := by
  cases step_transition taken with
  | acquire resource rest todo free => exact left_update todo _
  | release resource rest todo => exact left_update todo _

theorem left_run {schedule : List Thread}
    (executed : Library.run Locking.step self schedule = some next) :
    schedule.length + next.left ≤ self.left := by
  induction schedule generalizing self with
  | nil =>
      cases executed
      rw [List.length_nil, Nat.zero_add]
  | cons thread rest ih =>
      obtain ⟨middle, taken, remaining⟩ := Option.bind_eq_some_iff.mp executed
      have shorter := left_step taken
      have later := ih remaining
      rw [List.length_cons]
      omega

/-- From everywhere some order of steps lets every thread end. -/
theorem Disciplined.completes (disciplined : Disciplined rank held self) {bound : Nat}
    (bounded : ∀ resource, rank resource ≤ bound) :
    ∃ schedule finish, Library.run Locking.step self schedule = some finish ∧
      ∀ thread, finish.todo thread = [] := by
  induction size : self.left using Nat.strong_induction_on generalizing self held with
  | _ size ih =>
      by_cases stuck : ∀ thread, self.step thread = none
      · exact ⟨[], self, rfl, disciplined.finished bounded stuck⟩
      · obtain ⟨thread, moves⟩ := not_forall.mp stuck
        obtain ⟨next, taken⟩ := Option.ne_none_iff_exists'.mp moves
        obtain ⟨after, still⟩ := disciplined.step taken
        obtain ⟨schedule, finish, executed, ended⟩ :=
          ih next.left (size ▸ left_step taken) still rfl
        refine ⟨thread :: schedule, finish, ?_, ended⟩
        rw [run_cons, taken]
        exact executed

end Locking

end HWPanel.Library
