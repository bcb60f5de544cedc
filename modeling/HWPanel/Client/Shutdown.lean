import HWPanel.Client.ClientWorker

/-!
# Shutting down the client

Once `running_` is cleared a loop thread leaves its loops by itself, unless it waits in
`Read` on an open stream on which nothing is in flight: then only the server can end
the wait. Both are decided in the state in which `Stop` clears `running_`.
-/

namespace HWPanel.Client

open HWPanel.Core HWPanel.Service HWPanel.Library

namespace LoopThread

variable {Message Signal : Type} {convert : Message → Signal}
  {thread next : LoopThread Message Signal}

/-- The thread waits in `Read` on an open stream with no message in flight. -/
def Blocked (thread : LoopThread Message Signal) : Prop :=
  thread.phase = .reading ∧ thread.stream.inFlight = [] ∧ thread.stream.ended = false

/-- The thread function has returned, or there is no thread. -/
def Ended (thread : LoopThread Message Signal) : Prop :=
  thread.phase = .exited ∨ thread.phase = .absent

theorem not_blocked_of_phase (elsewhere : thread.phase ≠ .reading) : ¬thread.Blocked :=
  fun blocked => elsewhere blocked.1

theorem not_ended_of_blocked (blocked : thread.Blocked) : ¬thread.Ended := by
  intro ended
  rcases ended with exited | absent
  · cases blocked.1.symm.trans exited
  · cases blocked.1.symm.trans absent

/-- A step after `running_` was cleared does not end in a wait for the server. -/
theorem step_unblocked {event : LoopEvent Message}
    (taken : thread.step convert false event = some next) : ¬next.Blocked := by
  rintro ⟨phase, inFlight, isOpen⟩
  cases step_transition taken with
  | channelState ready _ =>
      cases ready with
      | false => cases phase
      | true => cases phase
  | opened reader _ =>
      cases reader with
      | false => cases phase
      | true => cases phase
  | send message _ _ => exact List.append_ne_nil_of_right_ne_nil _ (List.cons_ne_nil _ _) inFlight
  | close _ => cases isOpen
  | _ => cases phase

end LoopThread

/-- The steps a thread takes without the server, for given answers of the channel to
the questions whether it is ready and whether it opens a stream. -/
def LoopEvent.ByThread {Message : Type} (ready reader : Bool) : LoopEvent Message → Prop
  | .channelState answer => answer = ready
  | .opened answer => answer = reader
  | .testRunning => True
  | .read => True
  | .wake => True
  | .send _ => False
  | .close => False

namespace LoopThread

variable {Message Signal : Type} {convert : Message → Signal}
  {thread next : LoopThread Message Signal} {ready reader : Bool}

/-- Steps of the thread alone lead to the end of its function. -/
def Exits (convert : Message → Signal) (ready reader : Bool)
    (thread : LoopThread Message Signal) : Prop :=
  ∃ steps final, (∀ event ∈ steps, event.ByThread ready reader) ∧
    run (LoopThread.step convert false) thread steps = some final ∧ final.Ended

theorem Exits.of_ended (ended : thread.Ended) : thread.Exits convert ready reader :=
  ⟨[], thread, by simp, rfl, ended⟩

theorem Exits.of_step (event : LoopEvent Message) (byThread : event.ByThread ready reader)
    (taken : thread.step convert false event = some next)
    (exits : next.Exits convert ready reader) : thread.Exits convert ready reader := by
  obtain ⟨steps, final, byThreads, executed, ended⟩ := exits
  refine ⟨event :: steps, final, ?_, ?_, ended⟩
  · intro other member
    rcases List.mem_cons.mp member with rfl | member
    · exact byThread
    · exact byThreads other member
  · rw [run_cons, taken]
    exact executed

theorem exits_of_outerTest (phase : thread.phase = .outerTest) :
    thread.Exits convert ready reader := by
  apply Exits.of_step .testRunning trivial
  · simp [step, phase]
    rfl
  · exact .of_ended (.inl rfl)

theorem exits_of_sleeping {milliseconds : Nat} (phase : thread.phase = .sleeping milliseconds) :
    thread.Exits convert ready reader := by
  apply Exits.of_step .wake trivial
  · simp [step, phase]
    rfl
  · exact exits_of_outerTest rfl

theorem exits_of_innerTest (phase : thread.phase = .innerTest) :
    thread.Exits convert ready reader := by
  apply Exits.of_step .testRunning trivial
  · simp [step, phase]
    rfl
  · exact exits_of_sleeping rfl

theorem exits_of_opening (phase : thread.phase = .opening) :
    thread.Exits convert ready reader := by
  apply Exits.of_step (.opened reader) rfl
  · simp [step, phase]
    rfl
  · cases reader with
    | false => exact exits_of_sleeping rfl
    | true => exact exits_of_innerTest rfl

theorem exits_of_channelCheck (phase : thread.phase = .channelCheck) :
    thread.Exits convert ready reader := by
  apply Exits.of_step (.channelState ready) rfl
  · simp [step, phase]
    rfl
  · cases ready with
    | false => exact exits_of_sleeping rfl
    | true => exact exits_of_opening rfl

/-- With `running_` cleared a thread that is not blocked reaches its exit by itself. -/
theorem exits_of_unblocked (unblocked : ¬thread.Blocked) :
    thread.Exits convert ready reader := by
  cases phase : thread.phase with
  | absent => exact .of_ended (.inr phase)
  | exited => exact .of_ended (.inl phase)
  | outerTest => exact exits_of_outerTest phase
  | channelCheck => exact exits_of_channelCheck phase
  | opening => exact exits_of_opening phase
  | innerTest => exact exits_of_innerTest phase
  | sleeping milliseconds => exact exits_of_sleeping phase
  | reading =>
      cases inFlight : thread.stream.inFlight with
      | cons message rest =>
          apply Exits.of_step .read trivial
          · simp [step, read, phase, inFlight]
            rfl
          · exact exits_of_innerTest rfl
      | nil =>
          cases ended : thread.stream.ended with
          | false => exact absurd ⟨phase, inFlight, ended⟩ unblocked
          | true =>
              apply Exits.of_step .read trivial
              · simp [step, read, phase, inFlight, ended]
                rfl
              · exact exits_of_sleeping rfl

/-- A blocked thread takes no step of its own. -/
theorem step_of_blocked (blocked : thread.Blocked) {running : Bool}
    {event : LoopEvent Message} (byThread : event.ByThread ready reader) :
    thread.step convert running event = none := by
  obtain ⟨phase, inFlight, ended⟩ := blocked
  cases event with
  | testRunning => simp [step, phase]
  | channelState answer => simp [step, phase]
  | opened answer => simp [step, phase]
  | read => simp [step, read, phase, inFlight, ended]
  | wake => simp [step, phase]
  | send message => exact byThread.elim
  | close => exact byThread.elim

end LoopThread

/-! ## The worker -/

namespace ClientWorker

variable {worker before after : ClientWorker}

/-- No loop thread waits for the server. -/
def Unblocked (worker : ClientWorker) : Prop :=
  ¬worker.telemetry.Blocked ∧ ¬worker.events.Blocked

end ClientWorker

/-- The steps of the two threads, without the server. -/
def WorkerEvent.ByThread (ready reader : Bool) : WorkerEvent → Prop
  | .telemetry event => event.ByThread ready reader
  | .events event => event.ByThread ready reader
  | .start => False
  | .stop => False
  | .proceed => False

namespace ClientWorker

variable {worker before after : ClientWorker}

/-- Both threads reach their exit by steps of the client alone, whatever the channel
answers. -/
def ExitsAlone (worker : ClientWorker) : Prop :=
  ∀ ready reader, ∃ steps final, (∀ event ∈ steps, event.ByThread ready reader) ∧
    run step worker steps = some final ∧ final.telemetry.Ended ∧ final.events.Ended

theorem run_telemetry (stopped : worker.running = false)
    {steps : List (LoopEvent V1.TelemetrySample)}
    {telemetry : LoopThread V1.TelemetrySample TelemetrySample}
    (executed : run (LoopThread.step receivedSample false) worker.telemetry steps =
      some telemetry) :
    run step worker (steps.map .telemetry) = some { worker with telemetry } := by
  refine run_embed (fun telemetry => { worker with telemetry }) WorkerEvent.telemetry
    (fun before event after taken => ?_) executed
  simp only [step, stopped, taken]
  rfl

theorem run_events (stopped : worker.running = false)
    {steps : List (LoopEvent V1.EventMessage)}
    {events : LoopThread V1.EventMessage EventMessage}
    (executed : run (LoopThread.step receivedEvent false) worker.events steps =
      some events) :
    run step worker (steps.map .events) = some { worker with events } := by
  refine run_embed (fun events => { worker with events }) WorkerEvent.events
    (fun before event after taken => ?_) executed
  simp only [step, stopped, taken]
  rfl

theorem exitsAlone_of_unblocked (stopped : worker.running = false)
    (unblocked : worker.Unblocked) : worker.ExitsAlone := by
  intro ready reader
  obtain ⟨telemetrySteps, telemetry, telemetryByThread, telemetryRun, telemetryEnded⟩ :=
    (LoopThread.exits_of_unblocked unblocked.1 :
      worker.telemetry.Exits receivedSample ready reader)
  obtain ⟨eventsSteps, events, eventsByThread, eventsRun, eventsEnded⟩ :=
    (LoopThread.exits_of_unblocked unblocked.2 :
      worker.events.Exits receivedEvent ready reader)
  refine ⟨telemetrySteps.map .telemetry ++ eventsSteps.map .events,
    { worker with telemetry, events }, ?_, ?_, telemetryEnded, eventsEnded⟩
  · intro event member
    rcases List.mem_append.mp member with member | member
    · obtain ⟨inner, innerMember, rfl⟩ := List.mem_map.mp member
      exact telemetryByThread inner innerMember
    · obtain ⟨inner, innerMember, rfl⟩ := List.mem_map.mp member
      exact eventsByThread inner innerMember
  · rw [run_append, run_telemetry stopped telemetryRun]
    have stillStopped : { worker with telemetry }.running = false := stopped
    exact run_events stillStopped eventsRun

/-- A blocked thread stays blocked under the steps of both threads. -/
theorem blocked_step {ready reader : Bool} {event : WorkerEvent}
    (byThread : event.ByThread ready reader) (taken : before.step event = some after) :
    (before.telemetry.Blocked → after.telemetry.Blocked) ∧
      (before.events.Blocked → after.events.Blocked) := by
  cases event with
  | start => exact byThread.elim
  | stop => exact byThread.elim
  | proceed => exact byThread.elim
  | telemetry event =>
      obtain ⟨telemetry, threadTaken, rfl⟩ := Option.map_eq_some_iff.mp taken
      refine ⟨?_, id⟩
      intro blocked
      rw [LoopThread.step_of_blocked blocked byThread] at threadTaken
      cases threadTaken
  | events event =>
      obtain ⟨events, threadTaken, rfl⟩ := Option.map_eq_some_iff.mp taken
      refine ⟨id, ?_⟩
      intro blocked
      rw [LoopThread.step_of_blocked blocked byThread] at threadTaken
      cases threadTaken

theorem blocked_run {ready reader : Bool} {steps : List WorkerEvent}
    (byThread : ∀ event ∈ steps, event.ByThread ready reader)
    (executed : run step before steps = some after) :
    (before.telemetry.Blocked → after.telemetry.Blocked) ∧
      (before.events.Blocked → after.events.Blocked) := by
  induction steps generalizing before with
  | nil =>
      cases executed
      exact ⟨id, id⟩
  | cons event rest ih =>
      rw [run_cons] at executed
      obtain ⟨next, taken, remaining⟩ := Option.bind_eq_some_iff.mp executed
      have first := blocked_step (byThread event List.mem_cons_self) taken
      have later := ih (fun other member => byThread other (List.mem_cons_of_mem _ member))
        remaining
      exact ⟨fun blocked => later.1 (first.1 blocked), fun blocked => later.2 (first.2 blocked)⟩

/-- With `running_` cleared the client exits by itself exactly when no thread waits for
the server. -/
theorem exitsAlone_iff_unblocked (stopped : worker.running = false) :
    worker.ExitsAlone ↔ worker.Unblocked := by
  constructor
  · intro exits
    obtain ⟨steps, final, byThread, executed, telemetryEnded, eventsEnded⟩ := exits true true
    have stays := blocked_run byThread executed
    exact ⟨fun blocked => LoopThread.not_ended_of_blocked (stays.1 blocked) telemetryEnded,
      fun blocked => LoopThread.not_ended_of_blocked (stays.2 blocked) eventsEnded⟩
  · exact exitsAlone_of_unblocked stopped

/-- Once `running_` is cleared nobody waits for the server, and both threads can exit
by themselves. -/
def CanShutDown (worker : ClientWorker) : Prop :=
  worker.running = false → worker.Unblocked ∧ worker.ExitsAlone

/-- The states in which a step may be taken: `Stop` may clear `running_` while no
thread waits for the server. -/
def MayTake (worker : ClientWorker) : WorkerEvent → Prop
  | .stop => worker.running = true → worker.Unblocked
  | .start => True
  | .proceed => True
  | .telemetry _ => True
  | .events _ => True

theorem canShutDown_iff : worker.CanShutDown ↔ (worker.running = false → worker.Unblocked) := by
  constructor
  · intro canShutDown stopped
    exact (canShutDown stopped).1
  · intro unblocked stopped
    exact ⟨unblocked stopped, exitsAlone_of_unblocked stopped (unblocked stopped)⟩

theorem not_blocked_launch {Message Signal : Type} (thread : LoopThread Message Signal) :
    ¬thread.launch.Blocked :=
  LoopThread.not_blocked_of_phase (by simp [LoopThread.launch])

theorem not_blocked_join {Message Signal : Type} {thread joined : LoopThread Message Signal}
    (returned : thread.join = some joined) : ¬joined.Blocked := by
  apply LoopThread.not_blocked_of_phase
  unfold LoopThread.join at returned
  split at returned
  next absent =>
    cases returned
    simp [absent]
  · cases returned
    simp
  · cases returned

/-- Of the remaining steps of a call none makes a thread wait. -/
theorem unblocked_proceed (unblocked : before.Unblocked)
    (taken : before.proceed = some after) : after.Unblocked := by
  unfold proceed at taken
  split at taken
  · cases taken
  · cases taken
    exact unblocked
  · cases taken
    exact ⟨not_blocked_launch _, unblocked.2⟩
  · cases taken
    exact ⟨unblocked.1, not_blocked_launch _⟩
  · obtain ⟨telemetry, returned, rfl⟩ := Option.map_eq_some_iff.mp taken
    exact ⟨not_blocked_join returned, unblocked.2⟩
  · obtain ⟨events, returned, rfl⟩ := Option.map_eq_some_iff.mp taken
    exact ⟨unblocked.1, not_blocked_join returned⟩
  · cases taken
    exact unblocked

theorem running_proceed (taken : before.proceed = some after) :
    after.running = before.running := by
  unfold proceed at taken
  split at taken
  · cases taken
  · cases taken
    rfl
  · cases taken
    rfl
  · cases taken
    rfl
  · obtain ⟨telemetry, _, rfl⟩ := Option.map_eq_some_iff.mp taken
    rfl
  · obtain ⟨events, _, rfl⟩ := Option.map_eq_some_iff.mp taken
    rfl
  · cases taken
    rfl

/-- One step keeps the ability to shut down exactly when it may be taken. -/
theorem canShutDown_step_iff (canShutDown : before.CanShutDown) {event : WorkerEvent}
    (taken : before.step event = some after) : after.CanShutDown ↔ before.MayTake event := by
  rw [canShutDown_iff] at canShutDown ⊢
  cases event with
  | start =>
      simp only [step] at taken
      split at taken
      · cases taken
        refine iff_of_true ?_ trivial
        intro stopped
        unfold start at stopped ⊢
        split at stopped
        next running => exact absurd stopped (by simp [running])
        next => cases stopped
      · cases taken
  | stop =>
      simp only [step] at taken
      split at taken
      · cases taken
        cases running : before.running with
        | false =>
            rw [stop, running]
            exact iff_of_true canShutDown fun isRunning => by simp [running] at isRunning
        | true => simp [stop, running, MayTake, Unblocked]
      · cases taken
  | proceed =>
      refine iff_of_true ?_ trivial
      intro stopped
      rw [running_proceed taken] at stopped
      exact unblocked_proceed (canShutDown stopped) taken
  | telemetry event =>
      obtain ⟨telemetry, threadTaken, rfl⟩ := Option.map_eq_some_iff.mp taken
      refine iff_of_true ?_ trivial
      intro stopped
      have stoppedBefore : before.running = false := stopped
      rw [stoppedBefore] at threadTaken
      exact ⟨LoopThread.step_unblocked threadTaken, (canShutDown stoppedBefore).2⟩
  | events event =>
      obtain ⟨events, threadTaken, rfl⟩ := Option.map_eq_some_iff.mp taken
      refine iff_of_true ?_ trivial
      intro stopped
      have stoppedBefore : before.running = false := stopped
      rw [stoppedBefore] at threadTaken
      exact ⟨(canShutDown stoppedBefore).1, LoopThread.step_unblocked threadTaken⟩

theorem canShutDown_initial : CanShutDown {} := by
  rw [canShutDown_iff]
  intro _
  exact ⟨LoopThread.not_blocked_of_phase (by simp), LoopThread.not_blocked_of_phase (by simp)⟩

end ClientWorker

/-- In a run of the client and its server every state reached can shut down exactly when
`Stop` never clears `running_` while a loop thread waits in `Read` on an open stream
with nothing in flight. -/
theorem can_shut_down_iff (events : List WorkerEvent) :
    (∀ front back, events = front ++ back → ∀ worker,
        run ClientWorker.step {} front = some worker → worker.CanShutDown) ↔
      AlongHistory (fun past event => ∀ before after,
        run ClientWorker.step {} past = some before → before.step event = some after →
          before.MayTake event) events := by
  apply prefixes_iff_alongHistory
  · intro worker reached
    cases reached
    exact ClientWorker.canShutDown_initial
  · intro past event _ _ holds
    constructor
    · intro holdsAfter before after reached taken
      have reachedAfter : run ClientWorker.step {} (past ++ [event]) = some after := by
        rw [run_append, reached, Option.bind_some, run_cons, taken]
        rfl
      exact (ClientWorker.canShutDown_step_iff (holds before reached) taken).mp
        (holdsAfter after reachedAfter)
    · intro mayTake after reachedAfter
      obtain ⟨before, reached, taken⟩ := run_snoc_some reachedAfter
      exact (ClientWorker.canShutDown_step_iff (holds before reached) taken).mpr
        (mayTake before after reached taken)

/-- Collectors paused: the telemetry thread waits on an open stream when `Stop` is
called, and no step of the client ends the wait. -/
theorem quiet_stream_blocks_shutdown :
    ∃ worker, run ClientWorker.step {}
        [.start, .proceed, .proceed, .proceed, .telemetry .testRunning,
          .telemetry (.channelState true), .telemetry (.opened true),
          .telemetry .testRunning, .stop] = some worker ∧
      worker.running = false ∧ worker.telemetry.Blocked ∧ ¬worker.CanShutDown := by
  refine ⟨_, rfl, rfl, ⟨rfl, rfl, rfl⟩, ?_⟩
  intro canShutDown
  exact (canShutDown rfl).1.1 ⟨rfl, rfl, rfl⟩

end HWPanel.Client
