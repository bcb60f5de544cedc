import HWPanel.Core.Bus

/-!
# The live telemetry stream

`TelemetryServiceImpl::Subscribe` runs as a loop beside the publisher: it pops its
hub subscriber, decimates, filters and writes to the client, whose `TelemetryLoop`
rebuilds the samples. A step is one action of the handler or one of the hub's.
-/

namespace HWPanel.Service

open HWPanel.Core

namespace V1

structure MetricSample where
  metricId : String
  value : Float
  unit : String

structure TelemetrySample where
  timestampMs : Int
  metrics : List MetricSample

structure SubscribeTelemetryRequest where
  /-- Desired push rate, `≤ 0` means service default (1 Hz). -/
  intervalHz : Float
  metricFilter : List String

end V1

/-- `convert::ToProto`; an empty filter keeps every metric. -/
def toProto (sample : TelemetrySample) (filter : List String) : V1.TelemetrySample where
  timestampMs := sample.timestampMs
  metrics := sample.metrics.foldl (fun out metric =>
    if !filter.isEmpty && !filter.contains metric.metricId then out
    else out ++ [⟨metric.metricId, metric.value, metric.unit⟩]) []

/-- What `ClientWorker::TelemetryLoop` makes of a message it read. -/
def receivedSample (message : V1.TelemetrySample) : TelemetrySample where
  timestampMs := message.timestampMs
  metrics := message.metrics.foldl (fun metrics metric =>
    metrics ++ [⟨metric.metricId, metric.value, metric.unit⟩]) []

/-- `std::lround`, to a 32-bit `long`. -/
def lround (x : Float) : Int := x.round.toInt32.toInt

def decimate (request : V1.SubscribeTelemetryRequest) : Nat :=
  if 0 < request.intervalHz ∧ request.intervalHz < 1 then
    (max (lround (1 / request.intervalHz)) 1).toNat
  else 1

/-- Where the handler is: at the head of its loop, in `Write`, or past the loop, before
and after `Close`, and returned. -/
inductive StreamPhase where
  | looping
  | writing
  | leaving
  | closed
  | returned
  deriving DecidableEq

/-- `written` are the samples whose `Write` succeeded and `sent` their messages;
`unwritten` is the sample whose `Write` is running, or failed and ended the loop. -/
structure TelemetryStream where
  hub : TelemetryHub 1
  subscriber : Nat
  index : Nat := 0
  phase : StreamPhase := .looping
  written : List (Envelope 1 TelemetrySample) := []
  sent : List V1.TelemetrySample := []
  unwritten : Option (Envelope 1 TelemetrySample) := none

/-- `hub` is a step of the publisher or of another subscriber; the others are the
handler's. -/
inductive StreamEvent where
  | hub (event : HubEvent 1)
  | pop
  | write (accepted : Bool)
  | isCancelled
  | close
  | return_

namespace TelemetryStream

/-- `hub_.Subscribe()` of the handler. -/
def subscribe (hub : TelemetryHub 1) : TelemetryStream where
  hub := { hub with bus := hub.bus.subscribe }
  subscriber := hub.bus.created

variable (request : V1.SubscribeTelemetryRequest) (self : TelemetryStream)

/-- `subscriber->Pop`, then `index++ % decimate`. -/
def pop : Option TelemetryStream :=
  (self.hub.step (.pop self.subscriber)).map fun hub =>
    match (self.hub.bus.objects self.subscriber).pop.1 with
    | none => { self with hub }
    | some sample =>
        if self.index % decimate request ≠ 0 then
          { self with hub, index := self.index + 1 }
        else
          { self with
            hub
            index := self.index + 1
            phase := .writing
            unwritten := some sample }

/-- `writer->Write` returns; false means that the client went away. -/
def write (accepted : Bool) (sample : Envelope 1 TelemetrySample) : TelemetryStream :=
  if accepted then
    { self with
      phase := .looping
      written := self.written ++ [sample]
      sent := self.sent ++ [toProto sample.message request.metricFilter]
      unwritten := none }
  else { self with phase := .leaving }

def step : StreamEvent → Option TelemetryStream
  | .hub event =>
      if event.owner? = some self.subscriber then none
      else (self.hub.step event).map fun hub => { self with hub }
  | .pop => if self.phase = .looping then self.pop request else none
  | .write accepted =>
      match self.phase, self.unwritten with
      | .writing, some sample => some (self.write request accepted sample)
      | _, _ => none
  | .isCancelled =>
      if self.phase = .looping then some { self with phase := .leaving } else none
  | .close =>
      if self.phase = .leaving then
        (self.hub.step (.close self.subscriber)).map fun hub =>
          { self with hub, phase := .closed }
      else none
  | .return_ =>
      if self.phase = .closed then
        (self.hub.step (.release self.subscriber)).map fun hub =>
          { self with hub, phase := .returned }
      else none

end TelemetryStream

end HWPanel.Service
