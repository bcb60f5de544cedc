import HWPanel.Core.Bus

/-!
# Histories of a bus run

What a trace says about one subscriber and about one `Publish`, and what one step
of the bus adds to it.
-/

namespace HWPanel.Core

open HWPanel.Library

variable {threads : Nat} {M : Type}

/-- The queue operation an observation is for subscriber `id`. -/
def Observation.queueOp? (id : Nat) :
    Observation threads M → Option (QueueOp (Envelope threads M))
  | .delivered target envelope _ => if target = id then some (.push envelope) else none
  | .popped target _ => if target = id then some .pop else none
  | _ => none

def queueOps (id : Nat) (trace : List (Observation threads M)) :
    List (QueueOp (Envelope threads M)) :=
  trace.filterMap (Observation.queueOp? id)

def deliveredTo (id : Nat) (trace : List (Observation threads M)) :
    List (Envelope threads M) :=
  trace.filterMap fun
    | .delivered target envelope _ => if target = id then some envelope else none
    | _ => none

/-- What the `Pop` calls on `id` that returned true returned. -/
def poppedBy (id : Nat) (trace : List (Observation threads M)) :
    List (Envelope threads M) :=
  trace.filterMap fun
    | .popped target result => if target = id then result else none
    | _ => none

def droppedFrom (id : Nat) (trace : List (Observation threads M)) :
    List (Envelope threads M) :=
  trace.filterMap fun
    | .delivered target _ dropped => if target = id then dropped else none
    | _ => none

/-- The subscribers the `Publish` with this number has had its delivery step for. -/
def handled (number : Nat) (trace : List (Observation threads M)) : List Nat :=
  trace.filterMap fun
    | .delivered id envelope _ => if envelope.number = number then some id else none
    | .refused id envelope => if envelope.number = number then some id else none
    | _ => none

/-- The snapshot steps, with the subscribers each of them locked. -/
def snapshots (trace : List (Observation threads M)) :
    List (Envelope threads M × List Nat) :=
  trace.filterMap fun
    | .published envelope live => some (envelope, live)
    | _ => none

@[simp] theorem queueOps_append (id : Nat) (front back : List (Observation threads M)) :
    queueOps id (front ++ back) = queueOps id front ++ queueOps id back :=
  List.filterMap_append

@[simp] theorem deliveredTo_append (id : Nat) (front back : List (Observation threads M)) :
    deliveredTo id (front ++ back) = deliveredTo id front ++ deliveredTo id back :=
  List.filterMap_append

@[simp] theorem poppedBy_append (id : Nat) (front back : List (Observation threads M)) :
    poppedBy id (front ++ back) = poppedBy id front ++ poppedBy id back :=
  List.filterMap_append

@[simp] theorem droppedFrom_append (id : Nat) (front back : List (Observation threads M)) :
    droppedFrom id (front ++ back) = droppedFrom id front ++ droppedFrom id back :=
  List.filterMap_append

@[simp] theorem droppedFrom_delivered (id : Nat) (envelope : Envelope threads M)
    (dropped : Option (Envelope threads M)) :
    droppedFrom id [.delivered id envelope dropped] = dropped.toList := by
  cases dropped <;> simp [droppedFrom]

@[simp] theorem poppedBy_popped (id : Nat) (result : Option (Envelope threads M)) :
    poppedBy id [.popped id result] = result.toList := by
  cases result <;> simp [poppedBy]

/-- The observation is of no concern to the queue and the flag of subscriber `id`. -/
def Observation.Leaves (made : Observation threads M) (id : Nat) : Prop :=
  queueOps id [made] = [] ∧ deliveredTo id [made] = [] ∧ poppedBy id [made] = [] ∧
    droppedFrom id [made] = [] ∧ made ≠ .closed id

/-- The subscriber whose queue or flag an observation is about. -/
def Observation.subject? : Observation threads M → Option Nat
  | .delivered id _ _ => some id
  | .popped id _ => some id
  | .closed id => some id
  | _ => none

theorem Observation.leaves_of_subject {made : Observation threads M} {id : Nat}
    (different : made.subject? ≠ some id) : made.Leaves id := by
  cases made <;>
    simp_all [Leaves, subject?, queueOps, queueOp?, deliveredTo, poppedBy, droppedFrom]

/-- A `Publish` of `envelope` that has not returned holds subscriber `id`. -/
def HeldBy (trace : List (Observation threads M)) (envelope : Envelope threads M)
    (id : Nat) : Prop :=
  ∃ live, .published envelope live ∈ trace ∧ id ∈ live ∧ .completed envelope ∉ trace

/-- The subscriber object exists and somebody holds it. -/
def AliveIn (trace : List (Observation threads M)) (id : Nat) : Prop :=
  .subscribed id ∈ trace ∧ (.released id ∉ trace ∨ ∃ envelope, HeldBy trace envelope id)

theorem mem_snapshots {trace : List (Observation threads M)}
    {envelope : Envelope threads M} {live : List Nat} :
    (envelope, live) ∈ snapshots trace ↔ .published envelope live ∈ trace := by
  rw [snapshots, List.mem_filterMap]
  constructor
  · rintro ⟨observation, membership, equality⟩
    cases observation <;> cases equality
    exact membership
  · intro membership
    exact ⟨_, membership, rfl⟩

theorem mem_deliveredTo {trace : List (Observation threads M)} {id : Nat}
    {envelope : Envelope threads M} :
    envelope ∈ deliveredTo id trace ↔ ∃ dropped, .delivered id envelope dropped ∈ trace := by
  rw [deliveredTo, List.mem_filterMap]
  constructor
  · rintro ⟨observation, membership, equality⟩
    cases observation with
    | delivered target sent dropped =>
        rcases Option.ite_none_right_eq_some.mp equality with ⟨rfl, sentEq⟩
        cases sentEq
        exact ⟨dropped, membership⟩
    | _ => cases equality
  · rintro ⟨dropped, membership⟩
    exact ⟨_, membership, if_pos rfl⟩

theorem mem_droppedFrom {trace : List (Observation threads M)} {id : Nat}
    {envelope : Envelope threads M} :
    envelope ∈ droppedFrom id trace ↔
      ∃ sent, .delivered id sent (some envelope) ∈ trace := by
  rw [droppedFrom, List.mem_filterMap]
  constructor
  · rintro ⟨observation, membership, equality⟩
    cases observation with
    | delivered target sent dropped =>
        rcases Option.ite_none_right_eq_some.mp equality with ⟨rfl, droppedEq⟩
        cases droppedEq
        exact ⟨sent, membership⟩
    | _ => cases equality
  · rintro ⟨sent, membership⟩
    exact ⟨_, membership, if_pos rfl⟩

theorem mem_queueOps_push {trace : List (Observation threads M)} {id : Nat}
    {envelope : Envelope threads M} :
    .push envelope ∈ queueOps id trace ↔
      ∃ dropped, .delivered id envelope dropped ∈ trace := by
  rw [queueOps, List.mem_filterMap]
  constructor
  · rintro ⟨observation, membership, equality⟩
    cases observation with
    | delivered target sent dropped =>
        rcases Option.ite_none_right_eq_some.mp equality with ⟨rfl, sentEq⟩
        cases sentEq
        exact ⟨dropped, membership⟩
    | popped target result =>
        rcases Option.ite_none_right_eq_some.mp equality with ⟨-, absurdity⟩
        cases absurdity
    | _ => cases equality
  · rintro ⟨dropped, membership⟩
    exact ⟨_, membership, if_pos rfl⟩

theorem mem_handled {trace : List (Observation threads M)} {number id : Nat} :
    id ∈ handled number trace ↔ ∃ envelope : Envelope threads M,
      envelope.number = number ∧
        ((∃ dropped, .delivered id envelope dropped ∈ trace) ∨
          .refused id envelope ∈ trace) := by
  rw [handled, List.mem_filterMap]
  constructor
  · rintro ⟨observation, membership, equality⟩
    cases observation with
    | delivered target envelope dropped =>
        rcases Option.ite_none_right_eq_some.mp equality with ⟨numbered, targetEq⟩
        cases targetEq
        exact ⟨envelope, numbered, .inl ⟨dropped, membership⟩⟩
    | refused target envelope =>
        rcases Option.ite_none_right_eq_some.mp equality with ⟨numbered, targetEq⟩
        cases targetEq
        exact ⟨envelope, numbered, .inr membership⟩
    | _ => cases equality
  · rintro ⟨envelope, numbered, ⟨dropped, membership⟩ | membership⟩
    · exact ⟨_, membership, if_pos numbered⟩
    · exact ⟨_, membership, if_pos numbered⟩

/-- A subscriber handled once is not both delivered to and refused. -/
theorem not_refused_of_delivered {trace : List (Observation threads M)} {id : Nat}
    {envelope : Envelope threads M} {dropped : Option (Envelope threads M)}
    (distinct : (handled envelope.number trace).Nodup)
    (delivered : .delivered id envelope dropped ∈ trace) :
    .refused id envelope ∉ trace := by
  intro refused
  rcases List.append_of_mem delivered with ⟨past, future, rfl⟩
  have split : handled envelope.number (past ++ .delivered id envelope dropped :: future) =
      handled envelope.number past ++ id :: handled envelope.number future := by
    simp [handled]
  rw [split] at distinct
  have elsewhere : id ∉ handled envelope.number past ++ handled envelope.number future :=
    (List.nodup_cons.mp (List.perm_middle.nodup_iff.mp distinct)).1
  apply elsewhere
  rcases List.mem_append.mp refused with earlier | later
  · exact List.mem_append_left _ (mem_handled.mpr ⟨envelope, rfl, .inr earlier⟩)
  · rcases List.mem_cons.mp later with equality | later
    · cases equality
    · exact List.mem_append_right _ (mem_handled.mpr ⟨envelope, rfl, .inr later⟩)

/-! ## One step -/

namespace Bus

variable {capacity : Nat} {self : Bus threads M} {publishing : Publishing threads M}
  {thread : Fin threads} {id : Nat} {rest : List Nat}

theorem mem_trace_observe {made observation : Observation threads M} :
    observation ∈ (self.observe made).trace ↔
      observation ∈ self.trace ∨ observation = made := by
  rw [observe, List.mem_append, List.mem_singleton]

@[simp] theorem setObject_self (self : Bus threads M) (id : Nat) :
    self.setObject id (self.objects id) = self := by
  rw [setObject, Function.update_eq_self]

theorem deliver_of_closed (closed : (self.objects id).closed = true) :
    self.deliver capacity thread publishing id rest =
      (self.setInFlight thread (some { publishing with pending := rest })).observe
        (.refused id publishing.envelope) := by
  simp only [deliver, Subscriber.deliver, closed, if_true, setObject_self]

theorem deliver_of_open (opened : (self.objects id).closed = false) :
    self.deliver capacity thread publishing id rest =
      ((self.setObject id
        { queue := if capacity ≤ (self.objects id).queue.length
            then (self.objects id).queue.tail ++ [publishing.envelope]
            else (self.objects id).queue ++ [publishing.envelope]
          closed := false }).setInFlight thread
        (some { publishing with pending := rest })).observe
        (.delivered id publishing.envelope
          (if capacity ≤ (self.objects id).queue.length
            then (self.objects id).queue.head? else none)) := by
  simp only [deliver, Subscriber.deliver, opened, Bool.false_eq_true, if_false]
  split <;> rfl

theorem deliveredTo_deliver (opened : (self.objects id).closed = false) :
    deliveredTo id (self.deliver capacity thread publishing id rest).trace =
      deliveredTo id self.trace ++ [publishing.envelope] := by
  rw [deliver_of_open opened, observe, deliveredTo_append]
  simp [deliveredTo]

theorem pop_eq (self : Bus threads M) (id : Nat) :
    self.pop id =
      (self.setObject id
        { self.objects id with queue := (self.objects id).queue.tail }).observe
        (.popped id (self.objects id).queue.head?) := by
  simp only [pop, Subscriber.pop]
  cases contents : (self.objects id).queue with
  | nil =>
      have same : { self.objects id with queue := [] } = self.objects id := by
        rw [← contents]
      rw [List.tail_nil, same]
      rfl
  | cons front rest => rfl

@[simp] theorem poppedBy_pop (self : Bus threads M) (id : Nat) :
    poppedBy id (self.pop id).trace =
      poppedBy id self.trace ++ (self.objects id).pop.1.toList := by
  have traceEq : (self.pop id).trace =
      self.trace ++ [.popped id (self.objects id).pop.1] := rfl
  rw [traceEq, poppedBy_append, poppedBy_popped]

/-- The enabled steps of the bus. -/
inductive Transition (capacity : Nat) (self : Bus threads M) :
    BusEvent threads M → Bus threads M → Prop
  | subscribe : Transition capacity self .subscribe self.subscribe
  | publish (thread : Fin threads) (message : M) (idle : self.inFlight thread = none) :
      Transition capacity self (.publish thread message) (self.publish thread message)
  | deliver (thread : Fin threads) (publishing : Publishing threads M) (id : Nat)
      (rest : List Nat) (busy : self.inFlight thread = some publishing)
      (next : publishing.pending = id :: rest) :
      Transition capacity self (.deliver thread)
        (self.deliver capacity thread publishing id rest)
  | finish (thread : Fin threads) (publishing : Publishing threads M)
      (busy : self.inFlight thread = some publishing) (done : publishing.pending = []) :
      Transition capacity self (.finish thread) (self.finish thread publishing)
  | pop (id : Nat) (owner : id ∈ self.owned) : Transition capacity self (.pop id) (self.pop id)
  | close (id : Nat) (owner : id ∈ self.owned) :
      Transition capacity self (.close id) (self.close id)
  | release (id : Nat) (owner : id ∈ self.owned) :
      Transition capacity self (.release id) (self.release id)

theorem step_transition {next : Bus threads M} {event : BusEvent threads M}
    (taken : self.step capacity event = some next) : Transition capacity self event next := by
  cases event with
  | subscribe =>
      cases taken
      exact .subscribe
  | publish thread message =>
      simp only [step] at taken
      split at taken
      · rename_i idle
        cases taken
        exact .publish thread message idle
      · cases taken
  | deliver thread =>
      simp only [step] at taken
      split at taken
      · rename_i publishing busy
        split at taken
        · rename_i id rest next
          cases taken
          exact .deliver thread publishing id rest busy next
        · cases taken
      · cases taken
  | finish thread =>
      simp only [step] at taken
      split at taken
      · rename_i publishing busy
        split at taken
        · rename_i done
          cases taken
          exact .finish thread publishing busy done
        · cases taken
      · cases taken
  | pop id =>
      rcases Option.ite_none_right_eq_some.mp taken with ⟨owner, nextEq⟩
      cases nextEq
      exact .pop id owner
  | close id =>
      rcases Option.ite_none_right_eq_some.mp taken with ⟨owner, nextEq⟩
      cases nextEq
      exact .close id owner
  | release id =>
      rcases Option.ite_none_right_eq_some.mp taken with ⟨owner, nextEq⟩
      cases nextEq
      exact .release id owner

/-- A step that is not the owner's pops nothing from `id` and does not drop it. -/
theorem step_other {next : Bus threads M} {event : BusEvent threads M}
    (taken : self.step capacity event = some next) (other : event.owner? ≠ some id) :
    poppedBy id next.trace = poppedBy id self.trace ∧
      (id ∈ self.owned → id ∈ next.owned) := by
  cases step_transition taken with
  | subscribe => exact ⟨by simp [subscribe, poppedBy], List.mem_cons_of_mem _⟩
  | publish thread message idle => exact ⟨by simp [publish, poppedBy], fun owner => owner⟩
  | deliver thread publishing target rest busy pending =>
      cases opened : (self.objects target).closed with
      | true =>
          rw [deliver_of_closed opened]
          exact ⟨by simp [poppedBy], fun owner => owner⟩
      | false =>
          rw [deliver_of_open opened]
          exact ⟨by simp [poppedBy], fun owner => owner⟩
  | finish thread publishing busy done =>
      exact ⟨by simp [finish, poppedBy], fun owner => owner⟩
  | pop target owner =>
      have different : target ≠ id := fun same => other (congrArg some same)
      rw [pop_eq]
      exact ⟨by simp [poppedBy, different], fun owner => owner⟩
  | close target owner => exact ⟨by simp [close, poppedBy], fun owner => owner⟩
  | release target owner =>
      have different : id ≠ target := fun same => other (congrArg some same.symm)
      exact ⟨by simp [release, poppedBy],
        fun owner => (List.mem_erase_of_ne different).mpr owner⟩

end Bus

end HWPanel.Core
