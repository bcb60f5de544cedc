import HWPanel.Core.RingBuffer
import HWPanel.Library.DropOldest
import HWPanel.Library.Run
import Mathlib.Tactic.Simps.Basic

/-!
# Publish and subscribe

`EventBus` and `TelemetryHub` share one delivery scheme: `Publish` snapshots the
live subscribers under the bus lock and then appends to each bounded queue under
that subscriber's own lock. `Bus` is that scheme with one step per critical
section, so publishers, subscriptions, pops, closes and the dropping of a
subscriber interleave between any two deliveries of one `Publish`.
-/

namespace HWPanel.Core

structure MetricSample where
  metricId : String
  value : Float
  unit : String

structure TelemetrySample where
  timestampMs : Int
  metrics : List MetricSample

structure EventMessage where
  timestampMs : Int
  level : String
  title : String
  message : String

/-- A published message. The tags only tell the `Publish` calls apart: their
number in the order of the snapshot steps, and the publishing thread. -/
structure Envelope (threads : Nat) (M : Type) where
  number : Nat
  publisher : Fin threads
  message : M

/-- A `Subscriber` object. -/
structure Subscriber (threads : Nat) (M : Type) where
  queue : List (Envelope threads M) := []
  closed : Bool := false

/-- A `Publish` between its snapshot and its return: the `shared_ptr`s it holds,
and those it has not delivered to yet. -/
structure Publishing (threads : Nat) (M : Type) where
  envelope : Envelope threads M
  live : List Nat
  pending : List Nat

/-- What a critical section did, for the history of a run. -/
inductive Observation (threads : Nat) (M : Type) where
  | subscribed (id : Nat)
  | published (envelope : Envelope threads M) (live : List Nat)
  | delivered (id : Nat) (envelope : Envelope threads M)
      (dropped : Option (Envelope threads M))
  | refused (id : Nat) (envelope : Envelope threads M)
  | completed (envelope : Envelope threads M)
  | popped (id : Nat) (result : Option (Envelope threads M))
  | closed (id : Nat)
  | released (id : Nat)

/-- The bus, its subscriber objects by creation number, and the publishing threads.
`owned` are the subscribers whose `shared_ptr` from `Subscribe` is still held,
`subscribers` the `weak_ptr`s of the bus; `trace` records the run. -/
structure Bus (threads : Nat) (M : Type) where
  objects : Nat → Subscriber threads M := fun _ => {}
  created : Nat := 0
  owned : List Nat := []
  subscribers : List Nat := []
  inFlight : Fin threads → Option (Publishing threads M) := fun _ => none
  published : Nat := 0
  trace : List (Observation threads M) := []

inductive BusEvent (threads : Nat) (M : Type) where
  | subscribe
  | publish (thread : Fin threads) (message : M)
  | deliver (thread : Fin threads)
  | finish (thread : Fin threads)
  | pop (id : Nat)
  | close (id : Nat)
  | release (id : Nat)

/-- The subscriber whose owner takes the step. -/
def BusEvent.owner? {threads : Nat} {M : Type} : BusEvent threads M → Option Nat
  | .pop id => some id
  | .close id => some id
  | .release id => some id
  | _ => none

variable {threads : Nat} {M : Type}

namespace Subscriber

variable (self : Subscriber threads M)

/-- The critical section of `Pop` after its wait: `none` is the result `false`, by
timeout or because the subscriber is closed. -/
def pop : Option (Envelope threads M) × Subscriber threads M :=
  match self.queue with
  | [] => (none, self)
  | front :: rest => (some front, { self with queue := rest })

def close : Subscriber threads M := { self with closed := true }

/-- The body of the delivery loop of `Publish`: a closed subscriber is skipped, a
full one loses its oldest message. The results are the dropped message, if any. -/
def deliver (capacity : Nat) (envelope : Envelope threads M) :
    Option (Option (Envelope threads M)) × Subscriber threads M :=
  if self.closed then (none, self)
  else if capacity ≤ self.queue.length then
    (some self.queue.head?, { self with queue := self.queue.tail ++ [envelope] })
  else (some none, { self with queue := self.queue ++ [envelope] })

end Subscriber

namespace Bus

variable (capacity : Nat) (self : Bus threads M)

/-- `weak_ptr::lock` succeeds while somebody holds a `shared_ptr`: the subscriber's
owner, or a `Publish` that has not returned. -/
def lock (id : Nat) : Bool :=
  decide (id ∈ self.owned) ||
    decide (∃ thread, (self.inFlight thread).any (·.live.contains id))

@[simps] def observe (observation : Observation threads M) : Bus threads M :=
  { self with trace := self.trace ++ [observation] }

@[simps] def setObject (id : Nat) (object : Subscriber threads M) : Bus threads M :=
  { self with objects := Function.update self.objects id object }

@[simps] def setInFlight (thread : Fin threads) (publishing : Option (Publishing threads M)) :
    Bus threads M :=
  { self with inFlight := Function.update self.inFlight thread publishing }

def subscribe : Bus threads M :=
  { self with
    created := self.created + 1
    owned := self.created :: self.owned
    subscribers := self.subscribers ++ [self.created] }.observe (.subscribed self.created)

/-- The snapshot step of `Publish`: expired entries are erased, the others locked. -/
def publish (thread : Fin threads) (message : M) : Bus threads M :=
  let live := self.subscribers.filter self.lock
  let envelope : Envelope threads M := ⟨self.published, thread, message⟩
  ({ self with subscribers := live, published := self.published + 1 }.setInFlight thread
    (some ⟨envelope, live, live⟩)).observe (.published envelope live)

/-- The delivery of `publishing` to the next subscriber of its snapshot. -/
def deliver (thread : Fin threads) (publishing : Publishing threads M) (id : Nat)
    (rest : List Nat) : Bus threads M :=
  let (dropped, object) := (self.objects id).deliver capacity publishing.envelope
  let observation : Observation threads M := match dropped with
    | some dropped => .delivered id publishing.envelope dropped
    | none => .refused id publishing.envelope
  (((self.setObject id object).setInFlight thread
    (some { publishing with pending := rest })).observe observation)

/-- `Publish` returns and its `shared_ptr`s are destroyed. -/
def finish (thread : Fin threads) (publishing : Publishing threads M) : Bus threads M :=
  (self.setInFlight thread none).observe (.completed publishing.envelope)

def pop (id : Nat) : Bus threads M :=
  let (result, object) := (self.objects id).pop
  (self.setObject id object).observe (.popped id result)

def close (id : Nat) : Bus threads M :=
  (self.setObject id (self.objects id).close).observe (.closed id)

/-- The owner drops its `shared_ptr`. -/
def release (id : Nat) : Bus threads M :=
  { self with owned := self.owned.erase id }.observe (.released id)

/-- One critical section. A thread runs one `Publish` at a time; `Pop`, `Close` and
the dropping need the owner's `shared_ptr`. -/
def step : BusEvent threads M → Option (Bus threads M)
  | .subscribe => some self.subscribe
  | .publish thread message =>
      match self.inFlight thread with
      | none => some (self.publish thread message)
      | some _ => none
  | .deliver thread =>
      match self.inFlight thread with
      | some publishing =>
          match publishing.pending with
          | id :: rest => some (self.deliver capacity thread publishing id rest)
          | [] => none
      | none => none
  | .finish thread =>
      match self.inFlight thread with
      | some publishing =>
          match publishing.pending with
          | [] => some (self.finish thread publishing)
          | _ :: _ => none
      | none => none
  | .pop id => if id ∈ self.owned then some (self.pop id) else none
  | .close id => if id ∈ self.owned then some (self.close id) else none
  | .release id => if id ∈ self.owned then some (self.release id) else none

end Bus

/-! ## The two buses -/

namespace EventBus

def kSubscriberQueueCapacity : Nat := 32

def step (bus : Bus threads EventMessage) (event : BusEvent threads EventMessage) :
    Option (Bus threads EventMessage) :=
  bus.step kSubscriberQueueCapacity event

end EventBus

/-- The hub records a sample in its history before it publishes it; `recorded` are
the samples of the `Publish` calls between these two steps. -/
structure TelemetryHub (threads : Nat) where
  history : RingBuffer TelemetrySample
  recorded : Fin threads → Option TelemetrySample := fun _ => none
  bus : Bus threads TelemetrySample := {}

inductive HubEvent (threads : Nat) where
  | record (thread : Fin threads) (sample : TelemetrySample)
  | snapshot (thread : Fin threads)
  | subscribe
  | deliver (thread : Fin threads)
  | finish (thread : Fin threads)
  | pop (id : Nat)
  | close (id : Nat)
  | release (id : Nat)

def HubEvent.owner? : HubEvent threads → Option Nat
  | .pop id => some id
  | .close id => some id
  | .release id => some id
  | _ => none

namespace TelemetryHub

def kDefaultHistoryCapacity : Nat := 300

def kSubscriberQueueCapacity : Nat := 64

def ofCapacity (historyCapacity : Nat) : TelemetryHub threads :=
  { history := .ofCapacity historyCapacity }

variable (self : TelemetryHub threads)

def busStep (event : BusEvent threads TelemetrySample) : Option (TelemetryHub threads) :=
  (self.bus.step kSubscriberQueueCapacity event).map fun bus => { self with bus }

def step : HubEvent threads → Option (TelemetryHub threads)
  | .record thread sample =>
      match self.recorded thread, self.bus.inFlight thread with
      | none, none => some
          { self with
            history := self.history.push sample
            recorded := Function.update self.recorded thread (some sample) }
      | _, _ => none
  | .snapshot thread =>
      match self.recorded thread with
      | some sample =>
          { self with recorded := Function.update self.recorded thread none }.busStep
            (.publish thread sample)
      | none => none
  | .subscribe => self.busStep .subscribe
  | .deliver thread => self.busStep (.deliver thread)
  | .finish thread => self.busStep (.finish thread)
  | .pop id => self.busStep (.pop id)
  | .close id => self.busStep (.close id)
  | .release id => self.busStep (.release id)

end TelemetryHub

end HWPanel.Core
