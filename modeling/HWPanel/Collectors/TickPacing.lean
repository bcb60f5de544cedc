import HWPanel.Library.Run
import Mathlib.Data.List.Chain

/-!
# The pace of the ticks

The tick thread of `CollectorPipeline::Loop` against a steady clock. Each action of the
thread takes a time of its own, in nanoseconds; what an action reads of the clock is
the time at its end.
-/

namespace HWPanel.Collectors

open HWPanel.Library

/-- Nanoseconds in a millisecond. -/
def msNs : Nat := 1000000

/-- Where the thread is, with the `tick_start` of the tick: at the test of the outer loop,
before its first statement, in the collectors and the callback, at the reading of
`elapsed`, and in the inner loop at its test, at the reading of `rem`, and in the wait. -/
inductive TickPhase where
  | outerTest
  | starting
  | collecting (start : Nat)
  | measuring (start : Nat)
  | innerTest (start : Nat)
  | remaining (start : Nat)
  | sleeping (start : Nat)
  | yielding (start : Nat)
  | exited

/-- `starts` are the values of `tick_start`, `callbacks` counts the calls of the callback. -/
structure TickLoop where
  now : Nat := 0
  running : Bool := true
  phase : TickPhase := .outerTest
  starts : List Nat := []
  callbacks : Nat := 0

/-- The thread's next action, or the store to `running_` in `Stop`. -/
inductive TickEvent where
  | act (ns : Nat)
  | stop

namespace TickLoop

variable (interval : Nat) (self : TickLoop)

/-- The next action of the thread, which ends at `now`; `interval` is in milliseconds. -/
def act (now : Nat) : Option TickLoop :=
  match self.phase with
  | .outerTest => some
      { self with now, phase := if self.running then .starting else .exited }
  | .starting => some
      { self with now, phase := .collecting now, starts := self.starts ++ [now] }
  | .collecting start => some
      { self with now, phase := .measuring start, callbacks := self.callbacks + 1 }
  | .measuring start =>
      -- `duration_cast` rounds the elapsed time down to milliseconds.
      let elapsed := (now - start) / msNs
      some { self with now, phase := if elapsed < interval then .innerTest start else .outerTest }
  | .innerTest start => some
      { self with now, phase := if self.running then .remaining start else .outerTest }
  | .remaining start =>
      let deadline := start + interval * msNs
      some
        { self with
          now
          phase :=
            if deadline ≤ now then .outerTest
            else if now + 30 * msNs < deadline then .sleeping start
            else .yielding start }
  | .sleeping start =>
      -- `sleep_for` blocks for at least its time.
      if self.now + 20 * msNs ≤ now then some { self with now, phase := .innerTest start }
      else none
  | .yielding start => some { self with now, phase := .innerTest start }
  | .exited => none

def step : TickEvent → Option TickLoop
  | .act ns => self.act interval (self.now + ns)
  | .stop => some { self with running := false }

end TickLoop

/-- The tick under way. -/
def TickPhase.start? : TickPhase → Option Nat
  | .collecting start | .measuring start | .innerTest start | .remaining start
  | .sleeping start | .yielding start => some start
  | .outerTest | .starting | .exited => none

namespace TickLoop

variable {interval : Nat} {self next : TickLoop}

/-- What an action of the thread does. -/
inductive Acts (interval : Nat) (self : TickLoop) (now : Nat) : TickLoop → Prop
  | enter (phase : self.phase = .outerTest) (running : self.running = true) :
      Acts interval self now { self with now, phase := .starting }
  | leave (phase : self.phase = .outerTest) (stopped : self.running = false) :
      Acts interval self now { self with now, phase := .exited }
  | start (phase : self.phase = .starting) :
      Acts interval self now
        { self with now, phase := .collecting now, starts := self.starts ++ [now] }
  | collect {start : Nat} (phase : self.phase = .collecting start) :
      Acts interval self now
        { self with now, phase := .measuring start, callbacks := self.callbacks + 1 }
  | early {start : Nat} (phase : self.phase = .measuring start)
      (elapsed : (now - start) / msNs < interval) :
      Acts interval self now { self with now, phase := .innerTest start }
  | overrun {start : Nat} (phase : self.phase = .measuring start)
      (elapsed : interval ≤ (now - start) / msNs) :
      Acts interval self now { self with now, phase := .outerTest }
  | wait {start : Nat} (phase : self.phase = .innerTest start) (running : self.running = true) :
      Acts interval self now { self with now, phase := .remaining start }
  | giveUp {start : Nat} (phase : self.phase = .innerTest start)
      (stopped : self.running = false) :
      Acts interval self now { self with now, phase := .outerTest }
  | due {start : Nat} (phase : self.phase = .remaining start)
      (passed : start + interval * msNs ≤ now) :
      Acts interval self now { self with now, phase := .outerTest }
  | sleep {start : Nat} (phase : self.phase = .remaining start)
      (far : now + 30 * msNs < start + interval * msNs) :
      Acts interval self now { self with now, phase := .sleeping start }
  | yield {start : Nat} (phase : self.phase = .remaining start)
      (near : now < start + interval * msNs) :
      Acts interval self now { self with now, phase := .yielding start }
  | slept {start : Nat} (phase : self.phase = .sleeping start)
      (blocked : self.now + 20 * msNs ≤ now) :
      Acts interval self now { self with now, phase := .innerTest start }
  | yielded {start : Nat} (phase : self.phase = .yielding start) :
      Acts interval self now { self with now, phase := .innerTest start }

theorem acts_of_act {now : Nat} (taken : self.act interval now = some next) :
    Acts interval self now next := by
  cases phase : self.phase with
  | outerTest =>
      simp only [act, phase] at taken
      cases taken
      split
      · rename_i running
        exact .enter phase running
      · rename_i stopped
        exact .leave phase (Bool.not_eq_true _ ▸ stopped)
  | starting =>
      simp only [act, phase] at taken
      cases taken
      exact .start phase
  | collecting start =>
      simp only [act, phase] at taken
      cases taken
      exact .collect phase
  | measuring start =>
      simp only [act, phase] at taken
      cases taken
      split
      · rename_i elapsed
        exact .early phase elapsed
      · rename_i elapsed
        exact .overrun phase (Nat.not_lt.mp elapsed)
  | innerTest start =>
      simp only [act, phase] at taken
      cases taken
      split
      · rename_i running
        exact .wait phase running
      · rename_i stopped
        exact .giveUp phase (Bool.not_eq_true _ ▸ stopped)
  | remaining start =>
      simp only [act, phase] at taken
      cases taken
      split
      · rename_i passed
        exact .due phase passed
      · rename_i ahead
        split
        · rename_i far
          exact .sleep phase far
        · exact .yield phase (Nat.not_le.mp ahead)
  | sleeping start =>
      simp only [act, phase] at taken
      obtain ⟨blocked, nextEq⟩ := Option.ite_none_right_eq_some.mp taken
      cases nextEq
      exact .slept phase blocked
  | yielding start =>
      simp only [act, phase] at taken
      cases taken
      exact .yielded phase
  | exited =>
      simp only [act, phase] at taken
      cases taken

/-- An action leaves the flag alone. -/
theorem Acts.fields {now : Nat} (acts : Acts interval self now next) :
    next.running = self.running ∧ next.now = now := by
  cases acts <;> exact ⟨rfl, rfl⟩

/-- An interval has passed since the last start when the next one is due. -/
structure Spaced (interval : Nat) (loop : TickLoop) : Prop where
  spaced : loop.starts.IsChain fun earlier later => earlier + interval * msNs ≤ later
  past : ∀ start ∈ loop.starts.getLast?, start ≤ loop.now
  current : ∀ start, loop.phase.start? = some start → loop.starts.getLast? = some start
  due : loop.phase = .starting ∨ (loop.phase = .outerTest ∧ loop.running = true) →
    ∀ start ∈ loop.starts.getLast?, start + interval * msNs ≤ loop.now

theorem spaced_initial : Spaced interval {} where
  spaced := .nil
  past := by simp
  current := by simp [TickPhase.start?]
  due := by simp

/-- A step within a tick, or to its end when that is due. -/
theorem Spaced.move (spaced : Spaced interval self) {now : Nat} {phase : TickPhase}
    {callbacks : Nat} (later : self.now ≤ now)
    (current : ∀ start, phase.start? = some start → self.phase.start? = some start)
    (due : phase = .starting ∨ (phase = .outerTest ∧ self.running = true) →
      ∀ start ∈ self.starts.getLast?, start + interval * msNs ≤ now) :
    Spaced interval { self with now, phase, callbacks } where
  spaced := spaced.spaced
  past start last := (spaced.past start last).trans later
  current start found := spaced.current start (current start found)
  due := due

theorem Spaced.act (spaced : Spaced interval self) {now : Nat} (later : self.now ≤ now)
    (acts : Acts interval self now next) : Spaced interval next := by
  cases acts with
  | enter phase running =>
      refine spaced.move later (by simp [TickPhase.start?]) ?_
      intro _ start last
      exact (spaced.due (.inr ⟨phase, running⟩) start last).trans later
  | leave phase stopped => exact spaced.move later (by simp [TickPhase.start?]) (by simp)
  | start phase =>
      constructor
      · refine List.isChain_append.mpr ⟨spaced.spaced, List.isChain_singleton _, ?_⟩
        intro start last first isFirst
        cases isFirst
        exact (spaced.due (.inl phase) start last).trans later
      · simp
      · simp [TickPhase.start?]
      · simp
  | collect phase => exact spaced.move later (by simp [phase, TickPhase.start?]) (by simp)
  | early phase elapsed => exact spaced.move later (by simp [phase, TickPhase.start?]) (by simp)
  | @overrun start phase elapsed =>
      refine spaced.move later (by simp [TickPhase.start?]) ?_
      intro _ last isLast
      have current := spaced.current start (by rw [phase]; rfl)
      cases current.symm.trans isLast
      have past := (spaced.past start current).trans later
      have whole := (Nat.le_div_iff_mul_le (by decide)).mp elapsed
      omega
  | wait phase running => exact spaced.move later (by simp [phase, TickPhase.start?]) (by simp)
  | giveUp phase stopped =>
      exact spaced.move later (by simp [TickPhase.start?]) (by simp [stopped])
  | @due start phase passed =>
      refine spaced.move later (by simp [TickPhase.start?]) ?_
      intro _ last isLast
      cases (spaced.current start (by rw [phase]; rfl)).symm.trans isLast
      exact passed
  | sleep phase far => exact spaced.move later (by simp [phase, TickPhase.start?]) (by simp)
  | yield phase near => exact spaced.move later (by simp [phase, TickPhase.start?]) (by simp)
  | slept phase blocked => exact spaced.move later (by simp [phase, TickPhase.start?]) (by simp)
  | yielded phase => exact spaced.move later (by simp [phase, TickPhase.start?]) (by simp)

theorem Spaced.step {event : TickEvent} (spaced : Spaced interval self)
    (taken : self.step interval event = some next) : Spaced interval next := by
  cases event with
  | act ns => exact spaced.act (Nat.le_add_right _ _) (acts_of_act taken)
  | stop =>
      cases taken
      refine { spaced with due := ?_ }
      intro inTime
      exact spaced.due (inTime.imp id fun outer => absurd outer.2 (by simp))

theorem spaced_of_run {events : List TickEvent} {loop : TickLoop}
    (executed : run (step interval) {} events = some loop) : Spaced interval loop :=
  run_invariant (Spaced interval) spaced_initial (fun _ _ _ spaced taken => spaced.step taken)
    executed

/-- The callbacks still to come once `running_` is cleared. -/
def callbacksLeft : TickPhase → Nat
  | .starting | .collecting _ => 1
  | _ => 0

/-- The actions still to come. -/
def actionsLeft : TickPhase → Nat
  | .exited => 0
  | .outerTest => 1
  | .innerTest _ => 2
  | .measuring _ | .sleeping _ | .yielding _ => 3
  | .remaining _ | .collecting _ => 4
  | .starting => 5

def isAct : TickEvent → Bool
  | .act _ => true
  | .stop => false

/-- What a step leaves of a stopped loop. -/
structure Winds (event : TickEvent) (loop next : TickLoop) : Prop where
  running : next.running = false
  callbacks : next.callbacks + callbacksLeft next.phase ≤ loop.callbacks + callbacksLeft loop.phase
  actions : actionsLeft next.phase + (if isAct event then 1 else 0) ≤ actionsLeft loop.phase

theorem winds_step {event : TickEvent} (stopped : self.running = false)
    (taken : self.step interval event = some next) : Winds event self next := by
  cases event with
  | stop =>
      cases taken
      exact ⟨rfl, Nat.le_refl _, Nat.le_refl _⟩
  | act ns =>
      cases acts_of_act taken with
      | enter phase running => cases stopped.symm.trans running
      | wait phase running => cases stopped.symm.trans running
      | _ =>
          constructor
          · exact stopped
          · simp [*, callbacksLeft]
          · simp [*, actionsLeft, isAct]

/-- A stopped loop calls its callback once more at most, and ends. -/
theorem winds_run {events : List TickEvent} (stopped : self.running = false)
    (executed : run (step interval) self events = some next) :
    next.callbacks + callbacksLeft next.phase ≤ self.callbacks + callbacksLeft self.phase ∧
      actionsLeft next.phase + events.countP isAct ≤ actionsLeft self.phase := by
  induction events generalizing self with
  | nil =>
      cases executed
      exact ⟨Nat.le_refl _, Nat.le_refl _⟩
  | cons event rest ih =>
      obtain ⟨middle, taken, remaining⟩ := Option.bind_eq_some_iff.mp executed
      have winds := winds_step stopped taken
      obtain ⟨callbacks, actions⟩ := ih winds.running remaining
      rw [List.countP_cons]
      exact ⟨callbacks.trans winds.callbacks, by have := winds.actions; omega⟩

theorem callbacksLeft_le (phase : TickPhase) : callbacksLeft phase ≤ 1 := by
  cases phase <;> simp [callbacksLeft]

theorem actionsLeft_le (phase : TickPhase) : actionsLeft phase ≤ 5 := by
  cases phase <;> simp [actionsLeft]

end TickLoop

/-- Starts that are an interval apart one by one are so over any number of ticks. -/
theorem apart_of_isChain {width : Nat} {starts : List Nat}
    (chain : starts.IsChain fun earlier later => earlier + width ≤ later) {first later : Nat}
    (index count : Nat) (isFirst : starts[index]? = some first)
    (isLater : starts[index + count]? = some later) : first + count * width ≤ later := by
  induction count generalizing later with
  | zero =>
      cases isFirst.symm.trans isLater
      rw [Nat.zero_mul]
      exact Nat.le_refl _
  | succ count ih =>
      rw [← Nat.add_assoc] at isLater
      obtain ⟨inRange, laterEq⟩ := List.getElem?_eq_some_iff.mp isLater
      have before := Nat.lt_of_succ_lt inRange
      have reached := ih (List.getElem?_eq_getElem before)
      have next := chain.getElem (index + count) inRange
      rw [laterEq] at next
      rw [Nat.succ_mul]
      omega

/-- The ticks are an interval apart at least, and `Stop` lets one callback pass at most and
waits for five actions of the thread at most. -/
structure TickLaw (interval : Nat) (events : List TickEvent) (loop : TickLoop) : Prop where
  apart : ∀ index count first later, loop.starts[index]? = some first →
    loop.starts[index + count]? = some later → first + count * (interval * msNs) ≤ later
  stopped : ∀ front back before, events = front ++ .stop :: back →
    run (TickLoop.step interval) {} front = some before →
      loop.callbacks ≤ before.callbacks + 1 ∧ back.countP TickLoop.isAct ≤ 5

/-- However long its actions take, the tick thread keeps its pace. -/
theorem ticks_spaced {interval : Nat} {events : List TickEvent} {loop : TickLoop}
    (executed : run (TickLoop.step interval) {} events = some loop) :
    TickLaw interval events loop := by
  constructor
  · intro index count first later
    exact apart_of_isChain (TickLoop.spaced_of_run executed).spaced index count
  · rintro front back before rfl reached
    rw [run_append, reached, Option.bind_some, run_cons] at executed
    have wound := TickLoop.winds_run rfl executed
    have callbacks := TickLoop.callbacksLeft_le before.phase
    have actions := TickLoop.actionsLeft_le before.phase
    simp only at wound
    omega

/-- Two ticks of a millisecond, the second one stopped in its collectors. -/
def twoTicks : List TickEvent :=
  [.act 0, .act 0, .act 400, .act 0, .act 0, .act 0, .act 999700, .act 0, .act 0, .act 0,
    .act 50, .stop, .act 400, .act 0, .act 0, .act 0]

theorem ticks_spaced_twice : ∃ loop,
    run (TickLoop.step 1) {} twoTicks = some loop ∧ loop.starts = [0, 1000150] ∧
      loop.callbacks = 2 ∧ TickLaw 1 twoTicks loop := by
  have executed : run (TickLoop.step 1) {} twoTicks = some _ := rfl
  exact ⟨_, executed, rfl, rfl, ticks_spaced executed⟩

/-! ## Punctuality -/

/-- What the actions of the thread take at most: the collectors with the callback, a sleep of
20 ms, and any other action. -/
structure TickBounds where
  work : Nat
  sleep : Nat
  delay : Nat

namespace TickBounds

variable (bounds : TickBounds)

def allows : TickPhase → Nat → Prop
  | .collecting _, ns => ns ≤ bounds.work
  | .sleeping _, ns => ns ≤ bounds.sleep
  | _, ns => ns ≤ bounds.delay

instance (phase : TickPhase) (ns : Nat) : Decidable (bounds.allows phase ns) := by
  cases phase <;> exact Nat.decLe _ _

/-- A step of a thread that is not held up. -/
def step (interval : Nat) (loop : TickLoop) : TickEvent → Option TickLoop
  | .act ns => if bounds.allows loop.phase ns then loop.step interval (.act ns) else none
  | .stop => loop.step interval .stop

/-- How long after the end of the interval a wait may end. A sleep is begun 30 ms before it
at the latest. -/
def overrun : Nat := max bounds.delay (bounds.sleep - 30 * msNs)

/-- The time from one start to the next. -/
def period (interval : Nat) : Nat :=
  max (interval * msNs + bounds.overrun + 4 * bounds.delay) (bounds.work + 3 * bounds.delay)

/-- The time from the last start to the next action. -/
def within (interval : Nat) (loop : TickLoop) (start : Nat) : Prop :=
  match loop.phase with
  | .outerTest => loop.now + 2 * bounds.delay ≤ start + bounds.period interval
  | .starting => loop.now + bounds.delay ≤ start + bounds.period interval
  | .collecting _ => loop.now ≤ start
  | .measuring _ => loop.now ≤ start + bounds.work
  | .innerTest _ => loop.now ≤ start + interval * msNs + bounds.overrun
  | .remaining _ => loop.now ≤ start + interval * msNs + bounds.overrun + bounds.delay
  | .sleeping _ => loop.now + 30 * msNs ≤ start + interval * msNs
  | .yielding _ => loop.now ≤ start + interval * msNs
  | .exited => True

structure Punctual (interval : Nat) (loop : TickLoop) : Prop where
  periods : loop.starts.IsChain fun earlier later => later ≤ earlier + bounds.period interval
  inTime : ∀ start ∈ loop.starts.getLast?, bounds.within interval loop start

variable {bounds} {interval : Nat} {self next : TickLoop}

theorem delay_le_overrun : bounds.delay ≤ bounds.overrun := le_max_left _ _

theorem sleep_le_overrun : bounds.sleep ≤ 30 * msNs + bounds.overrun := by
  have late : bounds.sleep - 30 * msNs ≤ bounds.overrun := le_max_right _ _
  omega

theorem Punctual.act (punctual : bounds.Punctual interval self)
    (spaced : TickLoop.Spaced interval self) {ns : Nat} (allowed : bounds.allows self.phase ns)
    (acts : TickLoop.Acts interval self (self.now + ns) next) :
    bounds.Punctual interval next := by
  have inTime := punctual.inTime
  have current := spaced.current
  have late := bounds.delay_le_overrun
  cases acts with
  | enter phase running =>
      refine ⟨punctual.periods, fun start last => ?_⟩
      have before := inTime start last
      simp only [allows, within, phase] at allowed before ⊢
      omega
  | leave phase stopped => exact ⟨punctual.periods, fun _ _ => trivial⟩
  | start phase =>
      simp only [allows, within, phase] at allowed inTime
      constructor
      · refine List.isChain_append.mpr ⟨punctual.periods, List.isChain_singleton _, ?_⟩
        intro start last first isFirst
        cases isFirst
        have before := inTime start last
        omega
      · intro start last
        rw [List.getLast?_concat] at last
        cases last
        exact Nat.le_refl _
  | collect phase =>
      refine ⟨punctual.periods, fun start last => ?_⟩
      have before := inTime start last
      simp only [allows, within, phase] at allowed before ⊢
      omega
  | @early start phase elapsed =>
      refine ⟨punctual.periods, fun last isLast => ?_⟩
      cases (current start (by rw [phase]; rfl)).symm.trans isLast
      have before := inTime start isLast
      have whole := (Nat.div_lt_iff_lt_mul (by decide)).mp elapsed
      simp only [allows, within, phase] at allowed before ⊢
      omega
  | @overrun start phase elapsed =>
      refine ⟨punctual.periods, fun last isLast => ?_⟩
      cases (current start (by rw [phase]; rfl)).symm.trans isLast
      have before := inTime start isLast
      simp only [allows, within, phase, period] at allowed before ⊢
      omega
  | wait phase running =>
      refine ⟨punctual.periods, fun start last => ?_⟩
      have before := inTime start last
      simp only [allows, within, phase] at allowed before ⊢
      omega
  | giveUp phase stopped =>
      refine ⟨punctual.periods, fun start last => ?_⟩
      have before := inTime start last
      simp only [allows, within, phase, period] at allowed before ⊢
      omega
  | due phase passed =>
      refine ⟨punctual.periods, fun start last => ?_⟩
      have before := inTime start last
      simp only [allows, within, phase, period] at allowed before ⊢
      omega
  | @sleep start phase far =>
      refine ⟨punctual.periods, fun last isLast => ?_⟩
      cases (current start (by rw [phase]; rfl)).symm.trans isLast
      exact Nat.le_of_lt far
  | @yield start phase near =>
      refine ⟨punctual.periods, fun last isLast => ?_⟩
      cases (current start (by rw [phase]; rfl)).symm.trans isLast
      exact Nat.le_of_lt near
  | slept phase blocked =>
      refine ⟨punctual.periods, fun start last => ?_⟩
      have before := inTime start last
      have overslept := bounds.sleep_le_overrun
      simp only [allows, within, phase] at allowed before ⊢
      omega
  | yielded phase =>
      refine ⟨punctual.periods, fun start last => ?_⟩
      have before := inTime start last
      simp only [allows, within, phase] at allowed before ⊢
      omega

theorem Punctual.step {event : TickEvent} (punctual : bounds.Punctual interval self)
    (spaced : TickLoop.Spaced interval self)
    (taken : bounds.step interval self event = some next) : bounds.Punctual interval next := by
  cases event with
  | act ns =>
      obtain ⟨allowed, taken⟩ := Option.ite_none_right_eq_some.mp taken
      exact punctual.act spaced allowed (TickLoop.acts_of_act taken)
  | stop =>
      cases taken
      exact ⟨punctual.periods, punctual.inTime⟩

theorem step_of_step {event : TickEvent} (taken : bounds.step interval self event = some next) :
    self.step interval event = some next := by
  cases event with
  | act ns => exact (Option.ite_none_right_eq_some.mp taken).2
  | stop => exact taken

end TickBounds

/-- As long as the thread is not held up, the ticks keep the interval, or the time of their
work when that is longer. -/
theorem ticks_punctual {bounds : TickBounds} {interval : Nat} {events : List TickEvent}
    {loop : TickLoop} (executed : run (bounds.step interval) {} events = some loop) :
    loop.starts.IsChain fun earlier later =>
      earlier + interval * msNs ≤ later ∧ later ≤ earlier + bounds.period interval := by
  have invariant : TickLoop.Spaced interval loop ∧ bounds.Punctual interval loop :=
    run_invariant (fun loop => TickLoop.Spaced interval loop ∧ bounds.Punctual interval loop)
      ⟨TickLoop.spaced_initial, .nil, by simp⟩
      (fun _ _ _ both taken =>
        ⟨both.1.step (TickBounds.step_of_step taken), both.2.step both.1 taken⟩) executed
  have spaced := invariant.1.spaced
  have periods := invariant.2.periods
  rw [List.isChain_iff_getElem] at spaced periods ⊢
  exact fun index inRange => ⟨spaced index inRange, periods index inRange⟩

/-- A sleep of 36 ms in an interval of 32 ms, between two ticks. -/
theorem ticks_punctual_twice : ∃ events loop,
    run (TickBounds.step ⟨400, 36 * msNs, 100⟩ 32) {} events = some loop ∧
    loop.starts = [0, 36 * msNs + 400] ∧
    loop.starts.IsChain fun earlier later =>
      earlier + 32 * msNs ≤ later ∧
        later ≤ earlier + TickBounds.period ⟨400, 36 * msNs, 100⟩ 32 := by
  have executed : run (TickBounds.step ⟨400, 36 * msNs, 100⟩ 32) {}
      [.act 0, .act 0, .act 400, .act 0, .act 0, .act 0, .act (36 * msNs), .act 0, .act 0,
        .act 0, .act 0] = some _ := rfl
  exact ⟨_, _, executed, rfl, ticks_punctual executed⟩

end HWPanel.Collectors
