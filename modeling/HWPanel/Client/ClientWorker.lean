import HWPanel.Library.Run
import HWPanel.Service.TelemetryService

/-!
# The client worker

`ClientWorker` of `apps/hwpanel-client/backend/client_worker.cpp`: a telemetry and an
events thread run the same loop over their own server stream, and `Stop` clears
`running_` and joins both. A step is one test, one return of a blocking call, or one
step of `Start` or `Stop`; when a stream gets messages and whether it ends is up to
the server, which may stay silent on an open stream for any length of time.
-/

namespace HWPanel.Service.V1

structure EventMessage where
  timestampMs : Int
  level : String
  title : String
  message : String

end HWPanel.Service.V1

namespace HWPanel.Client

open HWPanel.Core HWPanel.Service HWPanel.Library

/-- Where a loop thread is. `absent` is a thread object that is not joinable;
`innerTest` and `reading` are the two conjuncts of the inner loop's condition. -/
inductive LoopPhase where
  | absent
  | outerTest
  | channelCheck
  | opening
  | innerTest
  | reading
  | sleeping (milliseconds : Nat)
  | exited
  deriving DecidableEq

/-- A server stream as its reader sees it. -/
structure Stream (Message : Type) where
  inFlight : List Message := []
  ended : Bool := false

/-- `emitted` are the signals emitted so far. -/
structure LoopThread (Message Signal : Type) where
  phase : LoopPhase := .absent
  stream : Stream Message := {}
  emitted : List Signal := []

/-- `send` and `close` are the server's, the others the thread's: a test of
`running_`, the state of the channel, the reader of a new stream (`false` is the null
reader), the return of `Read`, the end of a sleep. -/
inductive LoopEvent (Message : Type) where
  | testRunning
  | channelState (ready : Bool)
  | opened (reader : Bool)
  | read
  | wake
  | send (message : Message)
  | close

namespace LoopThread

variable {Message Signal : Type}

/-- The thread holds a reader. -/
def streaming (thread : LoopThread Message Signal) : Bool :=
  thread.phase = .innerTest || thread.phase = .reading

/-- `Read` gives the messages in flight before it reports the end of the stream; on
an open stream without a message it does not return. -/
def read (convert : Message → Signal) (thread : LoopThread Message Signal) :
    Option (LoopThread Message Signal) :=
  match thread.stream.inFlight with
  | message :: rest => some
      { phase := .innerTest
        stream := { thread.stream with inFlight := rest }
        emitted := thread.emitted ++ [convert message] }
  | [] => if thread.stream.ended then some { thread with phase := .sleeping 1000 } else none

/-- `TelemetryLoop` and `EventsLoop`, which differ in the conversion of a message. -/
def step (convert : Message → Signal) (running : Bool) (thread : LoopThread Message Signal) :
    LoopEvent Message → Option (LoopThread Message Signal)
  | .testRunning =>
      match thread.phase with
      | .outerTest => some { thread with phase := if running then .channelCheck else .exited }
      | .innerTest => some { thread with phase := if running then .reading else .sleeping 1000 }
      | _ => none
  | .channelState ready =>
      if thread.phase = .channelCheck then
        some { thread with phase := if ready then .opening else .sleeping 500 }
      else none
  | .opened reader =>
      if thread.phase = .opening then
        some { thread with phase := if reader then .innerTest else .sleeping 1000, stream := {} }
      else none
  | .read => if thread.phase = .reading then thread.read convert else none
  | .wake =>
      match thread.phase with
      | .sleeping _ => some { thread with phase := .outerTest }
      | _ => none
  | .send message =>
      if thread.streaming && !thread.stream.ended then
        some { thread with
          stream := { thread.stream with inFlight := thread.stream.inFlight ++ [message] } }
      else none
  | .close =>
      if thread.streaming then
        some { thread with stream := { thread.stream with ended := true } }
      else none

/-- What a step does, and when. -/
inductive Transition (convert : Message → Signal) (running : Bool)
    (thread : LoopThread Message Signal) : LoopEvent Message → LoopThread Message Signal → Prop
  | outerTest (phase : thread.phase = .outerTest) :
      Transition convert running thread .testRunning
        { thread with phase := if running then .channelCheck else .exited }
  | innerTest (phase : thread.phase = .innerTest) :
      Transition convert running thread .testRunning
        { thread with phase := if running then .reading else .sleeping 1000 }
  | channelState (ready : Bool) (phase : thread.phase = .channelCheck) :
      Transition convert running thread (.channelState ready)
        { thread with phase := if ready then .opening else .sleeping 500 }
  | opened (reader : Bool) (phase : thread.phase = .opening) :
      Transition convert running thread (.opened reader)
        { thread with phase := if reader then .innerTest else .sleeping 1000, stream := {} }
  | read {message : Message} {rest : List Message} (phase : thread.phase = .reading)
      (inFlight : thread.stream.inFlight = message :: rest) :
      Transition convert running thread .read
        { phase := .innerTest
          stream := { thread.stream with inFlight := rest }
          emitted := thread.emitted ++ [convert message] }
  | readEnd (phase : thread.phase = .reading) (inFlight : thread.stream.inFlight = [])
      (ended : thread.stream.ended = true) :
      Transition convert running thread .read { thread with phase := .sleeping 1000 }
  | wake {milliseconds : Nat} (phase : thread.phase = .sleeping milliseconds) :
      Transition convert running thread .wake { thread with phase := .outerTest }
  | send (message : Message) (streaming : thread.streaming = true)
      (sending : thread.stream.ended = false) :
      Transition convert running thread (.send message)
        { thread with
          stream := { thread.stream with inFlight := thread.stream.inFlight ++ [message] } }
  | close (streaming : thread.streaming = true) :
      Transition convert running thread .close
        { thread with stream := { thread.stream with ended := true } }

theorem step_transition {convert : Message → Signal} {running : Bool}
    {thread next : LoopThread Message Signal} {event : LoopEvent Message}
    (taken : thread.step convert running event = some next) :
    Transition convert running thread event next := by
  cases event with
  | testRunning =>
      simp only [step] at taken
      split at taken
      · rename_i phase
        cases taken
        exact .outerTest phase
      · rename_i phase
        cases taken
        exact .innerTest phase
      · cases taken
  | channelState ready =>
      obtain ⟨phase, nextEq⟩ := Option.ite_none_right_eq_some.mp taken
      cases nextEq
      exact .channelState ready phase
  | opened reader =>
      obtain ⟨phase, nextEq⟩ := Option.ite_none_right_eq_some.mp taken
      cases nextEq
      exact .opened reader phase
  | read =>
      obtain ⟨phase, taken⟩ := Option.ite_none_right_eq_some.mp taken
      rw [LoopThread.read] at taken
      split at taken
      · rename_i message rest inFlight
        cases taken
        exact .read phase inFlight
      · rename_i inFlight
        obtain ⟨ended, nextEq⟩ := Option.ite_none_right_eq_some.mp taken
        cases nextEq
        exact .readEnd phase inFlight ended
  | wake =>
      simp only [step] at taken
      split at taken
      · rename_i milliseconds phase
        cases taken
        exact .wake phase
      · cases taken
  | send message =>
      obtain ⟨both, nextEq⟩ := Option.ite_none_right_eq_some.mp taken
      cases nextEq
      rw [Bool.and_eq_true, Bool.not_eq_true'] at both
      exact .send message both.1 both.2
  | close =>
      obtain ⟨streaming, nextEq⟩ := Option.ite_none_right_eq_some.mp taken
      cases nextEq
      exact .close streaming

end LoopThread

/-- The call of `Start` or `Stop` in progress, by its next step. -/
inductive Control where
  | idle
  | startManager
  | startTelemetry
  | startEvents
  | joinTelemetry
  | joinEvents
  | stopManager
  deriving DecidableEq

structure ClientWorker where
  running : Bool := false
  managerRunning : Bool := false
  telemetry : LoopThread V1.TelemetrySample TelemetrySample := {}
  events : LoopThread V1.EventMessage EventMessage := {}
  control : Control := .idle

inductive WorkerEvent where
  | start
  | stop
  | proceed
  | telemetry (event : LoopEvent V1.TelemetrySample)
  | events (event : LoopEvent V1.EventMessage)

/-- What `EventsLoop` makes of a message it read. -/
def receivedEvent (message : V1.EventMessage) : EventMessage :=
  ⟨message.timestampMs, message.level, message.title, message.message⟩

/-- `thread = std::thread(...)`. -/
def LoopThread.launch {Message Signal : Type} (thread : LoopThread Message Signal) :
    LoopThread Message Signal :=
  { thread with phase := .outerTest }

/-- `if (thread.joinable()) thread.join()`; `none` while the thread runs. -/
def LoopThread.join {Message Signal : Type} (thread : LoopThread Message Signal) :
    Option (LoopThread Message Signal) :=
  match thread.phase with
  | .absent => some thread
  | .exited => some { thread with phase := .absent }
  | _ => none

namespace ClientWorker

/-- `running_.exchange(true)`, at the head of `Start`. -/
def start (worker : ClientWorker) : ClientWorker :=
  if worker.running then worker
  else { worker with running := true, control := .startManager }

/-- `running_.exchange(false)`, at the head of `Stop`. -/
def stop (worker : ClientWorker) : ClientWorker :=
  if !worker.running then worker
  else { worker with running := false, control := .joinTelemetry }

/-- The rest of `Start` and of `Stop`, step by step. -/
def proceed (worker : ClientWorker) : Option ClientWorker :=
  match worker.control with
  | .idle => none
  | .startManager => some { worker with managerRunning := true, control := .startTelemetry }
  | .startTelemetry => some
      { worker with telemetry := worker.telemetry.launch, control := .startEvents }
  | .startEvents => some { worker with events := worker.events.launch, control := .idle }
  | .joinTelemetry => worker.telemetry.join.map fun telemetry =>
      { worker with telemetry, control := .joinEvents }
  | .joinEvents => worker.events.join.map fun events =>
      { worker with events, control := .stopManager }
  | .stopManager => some { worker with managerRunning := false, control := .idle }

/-- One step. A call of `Start` or `Stop` begins when the one before has returned. -/
def step (worker : ClientWorker) : WorkerEvent → Option ClientWorker
  | .start => if worker.control = .idle then some worker.start else none
  | .stop => if worker.control = .idle then some worker.stop else none
  | .proceed => worker.proceed
  | .telemetry event =>
      (worker.telemetry.step receivedSample worker.running event).map fun telemetry =>
        { worker with telemetry }
  | .events event =>
      (worker.events.step receivedEvent worker.running event).map fun events =>
        { worker with events }

end ClientWorker

end HWPanel.Client
