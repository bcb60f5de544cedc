import Mathlib.Data.List.Induction

/-!
# Runs of a partial labelled step

A system is a step function from a state and a labelled event to the next
state, `none` when the event is not enabled. Runs execute a list of events, and
every invariant that relates the state reached to the events executed so far is
obtained from one induction, `run_history`.
-/

namespace HWPanel.Library

universe u v

variable {State : Type u} {Event : Type v} {step : State → Event → Option State}

/-- Execute the events in order; `none` as soon as one of them is not enabled. -/
def run (step : State → Event → Option State) : State → List Event → Option State
  | state, [] => some state
  | state, event :: rest => (step state event).bind fun next => run step next rest

@[simp] theorem run_nil (state : State) : run step state [] = some state := rfl

@[simp] theorem run_cons (state : State) (event : Event) (rest : List Event) :
    run step state (event :: rest) =
      (step state event).bind fun next => run step next rest := rfl

theorem run_append (start : State) (front back : List Event) :
    run step start (front ++ back) =
      (run step start front).bind fun middle => run step middle back := by
  induction front generalizing start with
  | nil => rfl
  | cons event rest ih =>
      simp only [List.cons_append, run_cons]
      cases step start event with
      | none => rfl
      | some next => exact ih next

/-- A run of `front ++ back` passes through the state reached by `front`. -/
theorem run_append_some {start finish : State} {front back : List Event}
    (executed : run step start (front ++ back) = some finish) :
    ∃ middle, run step start front = some middle ∧
      run step middle back = some finish := by
  rw [run_append] at executed
  exact Option.bind_eq_some_iff.mp executed

/-- Expose the last step of a nonempty run. -/
theorem run_snoc_some {start finish : State} {front : List Event} {event : Event}
    (executed : run step start (front ++ [event]) = some finish) :
    ∃ before, run step start front = some before ∧ step before event = some finish := by
  obtain ⟨before, reached, last⟩ := run_append_some executed
  refine ⟨before, reached, ?_⟩
  simpa using last

/-- Expose one step in the middle of a run. -/
theorem run_split_some {start finish : State} {front back : List Event} {event : Event}
    (executed : run step start (front ++ event :: back) = some finish) :
    ∃ before after, run step start front = some before ∧
      step before event = some after ∧ run step after back = some finish := by
  obtain ⟨before, reached, rest⟩ := run_append_some executed
  rw [run_cons] at rest
  obtain ⟨after, taken, remaining⟩ := Option.bind_eq_some_iff.mp rest
  exact ⟨before, after, reached, taken, remaining⟩

/-- A run of a part, whose steps are steps of the whole, is a run of the whole. -/
theorem run_embed {Inner : Type u} {InnerEvent : Type v}
    {innerStep : Inner → InnerEvent → Option Inner} (embed : Inner → State)
    (label : InnerEvent → Event)
    (simulates : ∀ before event after, innerStep before event = some after →
      step (embed before) (label event) = some (embed after))
    {start finish : Inner} {events : List InnerEvent}
    (executed : run innerStep start events = some finish) :
    run step (embed start) (events.map label) = some (embed finish) := by
  induction events generalizing start with
  | nil =>
      cases executed
      rfl
  | cons event rest ih =>
      obtain ⟨next, taken, remaining⟩ := Option.bind_eq_some_iff.mp executed
      rw [List.map_cons, run_cons, simulates start event next taken]
      exact ih remaining

/-- Induction over the events executed so far: a relation between the history
and the state that holds initially and is kept by each enabled step holds of
every state a run reaches. -/
theorem run_history {start finish : State} {events : List Event}
    (holds : List Event → State → Prop) (initial : holds [] start)
    (preserved : ∀ past before event after, holds past before →
      step before event = some after → holds (past ++ [event]) after)
    (executed : run step start events = some finish) : holds events finish := by
  induction events using List.reverseRecOn generalizing finish with
  | nil =>
      cases executed
      exact initial
  | append_singleton front event ih =>
      obtain ⟨before, reached, taken⟩ := run_snoc_some executed
      exact preserved front before event finish (ih reached) taken

/-- A state property kept by each enabled step holds of every state reached. -/
theorem run_invariant {start finish : State} {events : List Event}
    (holds : State → Prop) (initial : holds start)
    (preserved : ∀ before event after, holds before →
      step before event = some after → holds after)
    (executed : run step start events = some finish) : holds finish :=
  run_history (fun _ state => holds state) initial
    (fun _ before event after => preserved before event after) executed

/-! ## Conditions on the steps of a history -/

/-- Every event of the history is allowed after the events before it. -/
def AlongHistory (allowed : List Event → Event → Prop) (events : List Event) : Prop :=
  ∀ front event back, events = front ++ event :: back → allowed front event

variable {allowed : List Event → Event → Prop}

theorem alongHistory_nil : AlongHistory allowed [] := by
  intro front event back split
  simp at split

theorem AlongHistory.of_append {front back : List Event}
    (along : AlongHistory allowed (front ++ back)) : AlongHistory allowed front := by
  intro before event after split
  apply along before event (after ++ back)
  rw [split, List.append_assoc, List.cons_append]

theorem alongHistory_snoc {past : List Event} {event : Event} :
    AlongHistory allowed (past ++ [event]) ↔
      AlongHistory allowed past ∧ allowed past event := by
  constructor
  · intro along
    exact ⟨along.of_append, along past event [] rfl⟩
  · intro along front inner back split
    rcases List.eq_nil_or_concat back with rfl | ⟨rest, last, rfl⟩
    · rcases List.append_inj' split rfl with ⟨rfl, lastEq⟩
      cases lastEq
      exact along.2
    · have reassociated : past ++ [event] = (front ++ inner :: rest) ++ [last] := by
        rw [split]; simp
      exact along.1 front inner rest (List.append_inj' reassociated rfl).1

/-- A property of histories that each event keeps exactly when it is allowed holds of
every prefix of a history exactly when all its events are allowed. -/
theorem prefixes_iff_alongHistory {holds : List Event → Prop} (initial : holds [])
    (events : List Event)
    (kept : ∀ past event back, events = past ++ event :: back → holds past →
      (holds (past ++ [event]) ↔ allowed past event)) :
    (∀ front back, events = front ++ back → holds front) ↔ AlongHistory allowed events := by
  induction events using List.reverseRecOn with
  | nil =>
      refine iff_of_true ?_ alongHistory_nil
      intro front back split
      rw [(List.append_eq_nil_iff.mp split.symm).1]
      exact initial
  | append_singleton past event ih =>
      have keptBefore : ∀ front inner back, past = front ++ inner :: back → holds front →
          (holds (front ++ [inner]) ↔ allowed front inner) := by
        intro front inner back split
        apply kept front inner (back ++ [event])
        rw [split, List.append_assoc, List.cons_append]
      have keptLast := kept past event [] rfl
      rw [alongHistory_snoc, ← ih keptBefore]
      constructor
      · intro every
        have before : holds past := every past [event] rfl
        refine ⟨?_, (keptLast before).mp (every _ [] (List.append_nil _).symm)⟩
        intro front back split
        apply every front (back ++ [event])
        rw [split, List.append_assoc]
      · intro both front back split
        obtain ⟨every, isAllowed⟩ := both
        cases back using List.reverseRecOn with
        | nil =>
            rw [List.append_nil] at split
            rw [← split]
            exact (keptLast (every past [] (List.append_nil _).symm)).mpr isAllowed
        | append_singleton back last =>
            rw [← List.append_assoc] at split
            exact every front back (List.append_inj' split rfl).1

end HWPanel.Library
