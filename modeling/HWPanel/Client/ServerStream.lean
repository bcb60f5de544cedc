import HWPanel.Client.ClientWorker
import HWPanel.Library.Decimation

/-!
# A server stream between its handler and a reconnecting client

`TelemetryServiceImpl::Subscribe` and `CommandServiceImpl::WatchEvents` run the same
loop over a subscriber of their bus, and `TelemetryLoop` and `EventsLoop` read such a
stream until it breaks and then open another. A `Channel` is one client's loop with the
handler of its current call; the handlers of the calls it gave up, and those of other
clients, are among the other owners on the bus.
-/

namespace HWPanel.Client

open HWPanel.Core HWPanel.Service HWPanel.Library

/-- What tells the streaming calls apart: the queue of their bus, the decimation, and the
conversions on the two sides. -/
structure StreamService (M Message Signal : Type) where
  capacity : Nat
  capacity_pos : 0 < capacity
  decimate : Nat
  toProto : M → Message
  received : Message → Signal

/-- `convert::ToProto` of an event. -/
def eventToProto (event : EventMessage) : V1.EventMessage :=
  ⟨event.timestampMs, event.level, event.title, event.message⟩

/-- `CommandServiceImpl::WatchEvents` and `EventsLoop`: every event is written. -/
def watchEvents : StreamService EventMessage V1.EventMessage EventMessage where
  capacity := EventBus.kSubscriberQueueCapacity
  capacity_pos := by decide
  decimate := 1
  toProto := eventToProto
  received := receivedEvent

/-- `TelemetryServiceImpl::Subscribe` and `TelemetryLoop`. -/
def subscribeTelemetry (request : V1.SubscribeTelemetryRequest) :
    StreamService TelemetrySample V1.TelemetrySample TelemetrySample where
  capacity := TelemetryHub.kSubscriberQueueCapacity
  capacity_pos := by decide
  decimate := decimate request
  toProto sample := toProto sample request.metricFilter
  received := receivedSample

/-- The locals of a streaming handler; `written` are the messages whose `Write` returned
true, `unwritten` the one whose `Write` is running, or failed and ended the loop. -/
structure StreamHandler (threads : Nat) (M : Type) where
  subscriber : Nat
  index : Nat := 0
  phase : StreamPhase := .looping
  written : List (Envelope threads M) := []
  unwritten : Option (Envelope threads M) := none

inductive HandlerEvent where
  | pop
  | write (accepted : Bool)
  | isCancelled
  | close
  | return_

namespace StreamHandler

variable {threads : Nat} {M : Type} (self : StreamHandler threads M)

/-- The loop body after `Pop`. -/
def take (decimate : Nat) : Option (Envelope threads M) → StreamHandler threads M
  | none => self
  | some message =>
      if self.index % decimate ≠ 0 then { self with index := self.index + 1 }
      else
        { self with index := self.index + 1, phase := .writing, unwritten := some message }

@[simp] theorem take_subscriber (decimate : Nat) (result : Option (Envelope threads M)) :
    (self.take decimate result).subscriber = self.subscriber := by
  cases result with
  | none => rfl
  | some message =>
      simp only [take]
      split <;> rfl

@[simp] theorem take_written (decimate : Nat) (result : Option (Envelope threads M)) :
    (self.take decimate result).written = self.written := by
  cases result with
  | none => rfl
  | some message =>
      simp only [take]
      split <;> rfl

def write (accepted : Bool) (message : Envelope threads M) : StreamHandler threads M :=
  if accepted then
    { self with phase := .looping, written := self.written ++ [message], unwritten := none }
  else { self with phase := .leaving }

def step (capacity decimate : Nat) (bus : Bus threads M) :
    HandlerEvent → Option (Bus threads M × StreamHandler threads M)
  | .pop =>
      if self.phase = .looping then
        (bus.step capacity (.pop self.subscriber)).map fun next =>
          (next, self.take decimate (bus.objects self.subscriber).pop.1)
      else none
  | .write accepted =>
      match self.phase, self.unwritten with
      | .writing, some message => some (bus, self.write accepted message)
      | _, _ => none
  | .isCancelled =>
      if self.phase = .looping then some (bus, { self with phase := .leaving }) else none
  | .close =>
      if self.phase = .leaving then
        (bus.step capacity (.close self.subscriber)).map fun next =>
          (next, { self with phase := .closed })
      else none
  | .return_ =>
      if self.phase = .closed then
        (bus.step capacity (.release self.subscriber)).map fun next =>
          (next, { self with phase := .returned })
      else none

/-- The messages whose `Write` returns true in a step. -/
def writtenBy : HandlerEvent → List (Envelope threads M)
  | .write true => self.unwritten.toList
  | _ => []

end StreamHandler

/-! The telemetry stream is this loop over the bus of the hub. -/

def HandlerEvent.streamEvent : HandlerEvent → StreamEvent
  | .pop => .pop
  | .write accepted => .write accepted
  | .isCancelled => .isCancelled
  | .close => .close
  | .return_ => .return_

/-- The locals of `TelemetryServiceImpl::Subscribe`. -/
def streamHandler (stream : TelemetryStream) : StreamHandler 1 TelemetrySample where
  subscriber := stream.subscriber
  index := stream.index
  phase := stream.phase
  written := stream.written
  unwritten := stream.unwritten

theorem streamHandler_step (request : V1.SubscribeTelemetryRequest) (stream : TelemetryStream)
    (event : HandlerEvent) :
    (stream.step request event.streamEvent).map (fun next => (next.hub.bus, streamHandler next)) =
      (streamHandler stream).step (subscribeTelemetry request).capacity
        (subscribeTelemetry request).decimate stream.hub.bus event := by
  simp only [streamHandler, subscribeTelemetry]
  cases event with
  | pop =>
      simp only [HandlerEvent.streamEvent, TelemetryStream.step, StreamHandler.step]
      split
      · rw [TelemetryStream.pop, TelemetryHub.step, TelemetryHub.busStep, Option.map_map,
          Option.map_map]
        refine congrArg (fun next => Option.map next _) (funext fun bus => ?_)
        simp only [Function.comp_apply, StreamHandler.take]
        cases popped : (stream.hub.bus.objects stream.subscriber).pop.1 with
        | none => rfl
        | some sample =>
            by_cases skipped : stream.index % decimate request ≠ 0
            · simp only [if_pos skipped]
            · simp only [if_neg skipped]
      · rfl
  | write accepted =>
      cases phase : stream.phase <;> cases unwritten : stream.unwritten <;> cases accepted <;>
        simp [HandlerEvent.streamEvent, TelemetryStream.step, StreamHandler.step, phase,
          unwritten, TelemetryStream.write, StreamHandler.write]
  | isCancelled =>
      simp only [HandlerEvent.streamEvent, TelemetryStream.step, StreamHandler.step]
      split <;> rfl
  | close =>
      simp only [HandlerEvent.streamEvent, TelemetryStream.step, StreamHandler.step]
      split
      · rw [TelemetryHub.step, TelemetryHub.busStep, Option.map_map, Option.map_map]
        rfl
      · rfl
  | return_ =>
      simp only [HandlerEvent.streamEvent, TelemetryStream.step, StreamHandler.step]
      split
      · rw [TelemetryHub.step, TelemetryHub.busStep, Option.map_map, Option.map_map]
        rfl
      · rfl

/-! ## The channel -/

/-- The stream is open on the client's side. -/
def LoopThread.connected {Message Signal : Type} (thread : LoopThread Message Signal) : Bool :=
  thread.streaming && !thread.stream.ended

/-- The client's thread has just been started. `handler` serves the stream it opened last;
it is `none` until the server takes the call. -/
structure Channel (threads : Nat) (M Message Signal : Type) where
  bus : Bus threads M := {}
  client : LoopThread Message Signal := LoopThread.launch {}
  handler : Option (StreamHandler threads M) := none

/-- `bus` is a step of a publisher or of another subscriber's owner, `client` one of the
client's loop or the loss of its connection, `accept` and `handler` are the server's. -/
inductive ChannelEvent (threads : Nat) (M Message : Type) where
  | bus (event : BusEvent threads M)
  | client (running : Bool) (event : LoopEvent Message)
  | accept
  | handler (event : HandlerEvent)

/-- The client opens a stream. -/
def ChannelEvent.opens {threads : Nat} {M Message : Type} : ChannelEvent threads M Message → Bool
  | .client _ (.opened true) => true
  | _ => false

namespace Channel

variable {threads : Nat} {M Message Signal : Type} (service : StreamService M Message Signal)
  (self : Channel threads M Message Signal)

/-- What the server sends reaches the client while the stream is open there. -/
def deliver (event : LoopEvent Message) : LoopThread Message Signal :=
  (self.client.step service.received true event).getD self.client

/-- What the client notices of a step of its handler: the message written, or the end of
the call. -/
def notice (handler : StreamHandler threads M) (event : HandlerEvent) :
    LoopThread Message Signal :=
  match event with
  | .return_ => self.deliver service .close
  | event =>
      match handler.writtenBy event with
      | message :: _ => self.deliver service (.send (service.toProto message.message))
      | [] => self.client

def step : ChannelEvent threads M Message → Option (Channel threads M Message Signal)
  | .bus event =>
      if event.owner?.any fun id => self.handler.any (·.subscriber = id) then none
      else (self.bus.step service.capacity event).map fun bus => { self with bus }
  | .client running event =>
      match event with
      | .send _ => none
      | .opened true =>
          -- A new call: its handler is yet to run, and the one before is left to itself.
          (self.client.step service.received running (.opened true)).map fun client =>
            { self with client, handler := none }
      | event => (self.client.step service.received running event).map fun client =>
          { self with client }
  | .accept =>
      match self.handler with
      | none =>
          if self.client.connected then
            some
              { self with
                bus := self.bus.subscribe
                handler := some { subscriber := self.bus.created } }
          else none
      | some _ => none
  | .handler event =>
      match self.handler with
      | none => none
      | some handler =>
          (handler.step service.capacity service.decimate self.bus event).map fun next =>
            { bus := next.1
              client := self.notice service handler event
              handler := some next.2 }

end Channel

end HWPanel.Client
