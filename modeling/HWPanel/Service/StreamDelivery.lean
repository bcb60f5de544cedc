import HWPanel.Core.BusDelivery
import HWPanel.Library.Decimation
import HWPanel.Service.TelemetryService

/-!
# What a telemetry client receives

With one publisher the samples delivered to a subscriber are numbered without a
gap from its subscription on. The handler pops a subsequence of them, writes every
`decimate`-th it pops, and the client rebuilds the filtered samples.
-/

namespace HWPanel.Service

open HWPanel.Core
open HWPanel.Library

section

open Bus

variable {M : Type} {capacity : Nat}

/-- From number `base` on, subscriber `id` has been delivered everything published;
while it is open, only the publish in flight may still be due. -/
structure UpToDate (base id : Nat) (bus : Bus 1 M) : Prop where
  numbers : (deliveredTo id bus.trace).map (·.number) =
    List.range' base (deliveredTo id bus.trace).length
  owned : (bus.objects id).closed = false → id ∈ bus.owned
  due (publishing : Publishing 1 M) : (bus.objects id).closed = false →
    bus.inFlight 0 = some publishing → id ∈ publishing.pending →
      base + (deliveredTo id bus.trace).length + 1 = bus.published
  delivered : (bus.objects id).closed = false →
    (∀ publishing, bus.inFlight 0 = some publishing → id ∉ publishing.pending) →
      base + (deliveredTo id bus.trace).length = bus.published

/-- A step that neither publishes nor delivers. -/
theorem UpToDate.frame {base id : Nat} {bus next : Bus 1 M} (upToDate : UpToDate base id bus)
    (deliveredEq : deliveredTo id next.trace = deliveredTo id bus.trace)
    (inFlightEq : next.inFlight = bus.inFlight) (publishedEq : next.published = bus.published)
    (open_ : (next.objects id).closed = false → (bus.objects id).closed = false)
    (owned : (next.objects id).closed = false → id ∈ bus.owned → id ∈ next.owned) :
    UpToDate base id next := by
  constructor
  · rw [deliveredEq]
    exact upToDate.numbers
  · intro opened
    exact owned opened (upToDate.owned (open_ opened))
  · intro publishing opened
    rw [inFlightEq, deliveredEq, publishedEq]
    exact upToDate.due publishing (open_ opened)
  · intro opened
    rw [inFlightEq, deliveredEq, publishedEq]
    exact upToDate.delivered (open_ opened)

/-- The publish in flight turns to its next subscriber; for `id` nothing changes unless
it was the one. -/
theorem UpToDate.advance {base id target : Nat} {rest : List Nat} {bus next : Bus 1 M}
    {publishing : Publishing 1 M} (upToDate : UpToDate base id bus)
    (busy : bus.inFlight 0 = some publishing) (pending : publishing.pending = target :: rest)
    (deliveredEq : deliveredTo id next.trace = deliveredTo id bus.trace)
    (inFlightEq : next.inFlight 0 = some { publishing with pending := rest })
    (publishedEq : next.published = bus.published) (ownedEq : next.owned = bus.owned)
    (open_ : (next.objects id).closed = false →
      (bus.objects id).closed = false ∧ id ≠ target) :
    UpToDate base id next := by
  constructor
  · rw [deliveredEq]
    exact upToDate.numbers
  · intro opened
    rw [ownedEq]
    exact upToDate.owned (open_ opened).1
  · intro after opened busyAfter membership
    rw [inFlightEq] at busyAfter
    cases busyAfter
    rw [deliveredEq, publishedEq]
    apply upToDate.due publishing (open_ opened).1 busy
    rw [pending]
    exact List.mem_cons_of_mem _ membership
  · intro opened absent
    rw [deliveredEq, publishedEq]
    apply upToDate.delivered (open_ opened).1
    intro before busyBefore membership
    cases busyBefore.symm.trans busy
    rw [pending] at membership
    rcases List.mem_cons.mp membership with same | later
    · exact (open_ opened).2 same
    · exact absent _ inFlightEq later

theorem upToDate_publish {base id : Nat} {bus : Bus 1 M} (upToDate : UpToDate base id bus)
    (sound : bus.Sound capacity) {message : M} (idle : bus.inFlight 0 = none)
    (kept : ((bus.publish 0 message).objects id).closed = false →
      id ∈ (bus.publish 0 message).owned) : UpToDate base id (bus.publish 0 message) := by
  have deliveredEq : deliveredTo id (bus.publish 0 message).trace =
      deliveredTo id bus.trace := by
    simp [Bus.publish, deliveredTo]
  constructor
  · rw [deliveredEq]
    exact upToDate.numbers
  · exact kept
  · intro publishing opened busy membership
    rw [deliveredEq]
    have before := upToDate.delivered opened fun publishing busy => by
      rw [idle] at busy
      cases busy
    exact congrArg Nat.succ before
  · intro opened absent
    have locked : bus.lock id = true := lock_iff.mpr (.inl (upToDate.owned opened))
    refine absurd ?_ (absent _ (by simp [Bus.publish]; rfl))
    exact List.mem_filter.mpr ⟨sound.registered.listed id locked, locked⟩

/-- A delivery to the subscriber itself, which is open. -/
theorem upToDate_deliver_own {base id : Nat} {bus : Bus 1 M} (upToDate : UpToDate base id bus)
    (sound : bus.Sound capacity) {publishing : Publishing 1 M} {rest : List Nat}
    (busy : bus.inFlight 0 = some publishing) (pending : publishing.pending = id :: rest)
    (opened : (bus.objects id).closed = false) :
    UpToDate base id (bus.deliver capacity 0 publishing id rest) := by
  have due := upToDate.due publishing opened busy
    (by rw [pending]; exact List.mem_cons_self)
  have current := sound.underway.current busy
  have numberEq : publishing.envelope.number =
      base + (deliveredTo id bus.trace).length := Nat.succ.inj (current.trans due.symm)
  have delivered : deliveredTo id (bus.deliver capacity 0 publishing id rest).trace =
      deliveredTo id bus.trace ++ [publishing.envelope] := deliveredTo_deliver opened
  rw [deliver_of_open opened] at delivered ⊢
  constructor
  · rw [delivered, List.map_append, List.map_singleton, List.length_append,
      List.length_singleton, List.range'_1_concat, upToDate.numbers, numberEq]
  · exact fun _ => upToDate.owned opened
  · intro after _ busyAfter membership
    simp only [observe, setInFlight, Function.update_self] at busyAfter
    cases busyAfter
    rcases sound.underway.busy 0 publishing busy with ⟨-, taken, -, progress⟩
    have distinct := sound.underway.live_nodup _ taken
    rw [← progress, pending] at distinct
    exact absurd membership (List.nodup_cons.mp distinct.of_append_right).1
  · intro _ _
    rw [delivered, List.length_append]
    exact due

theorem upToDate_deliver {base id target : Nat} {bus : Bus 1 M}
    (upToDate : UpToDate base id bus) (sound : bus.Sound capacity)
    {publishing : Publishing 1 M} {rest : List Nat} (busy : bus.inFlight 0 = some publishing)
    (pending : publishing.pending = target :: rest) :
    UpToDate base id (bus.deliver capacity 0 publishing target rest) := by
  cases opened : (bus.objects target).closed with
  | true =>
      rw [deliver_of_closed opened]
      refine upToDate.advance busy pending ?_ ?_ rfl rfl ?_
      · simp [deliveredTo]
      · simp
      · intro openedAfter
        refine ⟨openedAfter, ?_⟩
        rintro rfl
        exact Bool.false_ne_true (openedAfter.symm.trans opened)
  | false =>
      by_cases same : id = target
      · subst same
        exact upToDate_deliver_own upToDate sound busy pending opened
      · rw [deliver_of_open opened]
        refine upToDate.advance busy pending ?_ ?_ rfl rfl ?_
        · simp [deliveredTo, Ne.symm same]
        · simp
        · intro openedAfter
          refine ⟨?_, same⟩
          simpa [Function.update_of_ne same] using openedAfter

theorem upToDate_finish {base id : Nat} {bus : Bus 1 M} (upToDate : UpToDate base id bus)
    {publishing : Publishing 1 M} (busy : bus.inFlight 0 = some publishing)
    (done : publishing.pending = [])
    (kept : ((bus.finish 0 publishing).objects id).closed = false →
      id ∈ (bus.finish 0 publishing).owned) : UpToDate base id (bus.finish 0 publishing) := by
  have deliveredEq : deliveredTo id (bus.finish 0 publishing).trace =
      deliveredTo id bus.trace := by
    simp [Bus.finish, deliveredTo]
  have inFlightEq : (bus.finish 0 publishing).inFlight 0 = none := by
    simp [Bus.finish]
  constructor
  · rw [deliveredEq]
    exact upToDate.numbers
  · exact kept
  · intro after opened busyAfter
    rw [inFlightEq] at busyAfter
    cases busyAfter
  · intro opened absent
    rw [deliveredEq]
    apply upToDate.delivered opened
    intro before busyBefore membership
    cases busyBefore.symm.trans busy
    rw [done] at membership
    cases membership

theorem UpToDate.transition {base id : Nat} {bus next : Bus 1 M} {event : BusEvent 1 M}
    (upToDate : UpToDate base id bus) (sound : bus.Sound capacity)
    (taken : Transition capacity bus event next)
    (kept : (next.objects id).closed = false → id ∈ next.owned) : UpToDate base id next := by
  cases taken with
  | subscribe =>
      refine upToDate.frame ?_ rfl rfl (fun opened => opened) ?_
      · simp [Bus.subscribe, deliveredTo]
      · exact fun opened _ => kept opened
  | publish thread message idle =>
      cases Subsingleton.elim thread 0
      exact upToDate_publish upToDate sound idle kept
  | deliver thread publishing target rest busy pending =>
      cases Subsingleton.elim thread 0
      exact upToDate_deliver upToDate sound busy pending
  | finish thread publishing busy done =>
      cases Subsingleton.elim thread 0
      exact upToDate_finish upToDate busy done kept
  | pop target owner =>
      rw [pop_eq] at kept ⊢
      refine upToDate.frame ?_ rfl rfl ?_ (fun opened _ => kept opened)
      · simp [deliveredTo]
      · intro opened
        by_cases same : id = target
        · subst same
          simpa using opened
        · simpa [Function.update_of_ne same] using opened
  | close target owner =>
      refine upToDate.frame ?_ rfl rfl ?_ (fun opened _ => kept opened)
      · simp [Bus.close, deliveredTo]
      · intro opened
        by_cases same : id = target
        · subst same
          simp [Bus.close, Subscriber.close] at opened
        · simpa [Bus.close, Function.update_of_ne same] using opened
  | release target owner =>
      refine upToDate.frame ?_ rfl rfl (fun opened => opened) (fun opened _ => kept opened)
      simp [Bus.release, deliveredTo]

theorem UpToDate.step {base id : Nat} {bus next : Bus 1 M} {event : BusEvent 1 M}
    (upToDate : UpToDate base id bus) (sound : bus.Sound capacity) (positive : 0 < capacity)
    (taken : bus.step capacity event = some next)
    (kept : (next.objects id).closed = false → id ∈ bus.owned → id ∈ next.owned) :
    UpToDate base id next := by
  apply upToDate.transition sound (Bus.step_transition taken)
  intro opened
  apply kept opened
  apply upToDate.owned
  rw [← Bool.not_eq_true]
  intro closed
  have closedAfter := sound.closed_step positive taken closed
  exact Bool.false_ne_true (opened.symm.trans closedAfter)

end

/-! ## The loop of the handler -/

section

variable (request : V1.SubscribeTelemetryRequest)

theorem decimate_pos : 1 ≤ decimate request := by
  rw [decimate]
  split
  · omega
  · exact Nat.le_refl 1

/-- Where the handler stands after any interleaving with the hub. -/
structure StreamTracked (base : Nat) (stream : TelemetryStream) : Prop where
  sound : stream.hub.bus.Sound TelemetryHub.kSubscriberQueueCapacity
  upToDate : UpToDate base stream.subscriber stream.hub.bus
  looping : stream.phase = .looping → stream.unwritten = none
  shut : stream.phase = .closed →
    (stream.hub.bus.objects stream.subscriber).closed = true
  counted : stream.index = (poppedBy stream.subscriber stream.hub.bus.trace).length
  decimated : stream.written ++ stream.unwritten.toList =
    everyNth (decimate request) (poppedBy stream.subscriber stream.hub.bus.trace)
  sent : stream.sent =
    stream.written.map fun sample => toProto sample.message request.metricFilter

variable {base : Nat} {stream : TelemetryStream}

/-- The handler starts to be tracked when its `hub_.Subscribe()` returns. -/
theorem tracked_subscribe {hub : TelemetryHub 1}
    (sound : hub.bus.Sound TelemetryHub.kSubscriberQueueCapacity) :
    StreamTracked request hub.bus.published (TelemetryStream.subscribe hub) := by
  have taken : hub.bus.step TelemetryHub.kSubscriberQueueCapacity .subscribe =
      some hub.bus.subscribe := rfl
  have soundAfter := sound.step (by decide) taken
  have deliveredEq : deliveredTo hub.bus.created hub.bus.subscribe.trace = [] := by
    rw [Bus.subscribe, Bus.observe, deliveredTo_append, sound.deliveredTo_fresh]
    rfl
  have poppedEq : poppedBy hub.bus.created hub.bus.subscribe.trace = [] := by
    have sublist := soundAfter.poppedBy_sublist (by decide) hub.bus.created
    rw [deliveredEq] at sublist
    exact List.sublist_nil.mp sublist
  constructor
  · exact soundAfter
  · constructor
    · rw [TelemetryStream.subscribe, deliveredEq]
      rfl
    · exact fun _ => List.mem_cons_self
    · intro publishing _ busy membership
      rcases sound.underway.busy 0 publishing busy with ⟨-, -, -, progress⟩
      have held : hub.bus.created ∈ publishing.live := by
        rw [← progress]
        exact List.mem_append_right _ membership
      exact absurd (sound.registered.live_lt 0 publishing busy _ held) (Nat.lt_irrefl _)
    · intro _ _
      rw [TelemetryStream.subscribe, deliveredEq]
      rfl
  · exact fun _ => rfl
  · intro closed
    cases closed
  · rw [TelemetryStream.subscribe, poppedEq]
    rfl
  · rw [TelemetryStream.subscribe, poppedEq]
    rfl
  · rfl

/-- A step of the publisher or of another subscriber. -/
theorem StreamTracked.hub_step (tracked : StreamTracked request base stream)
    {event : HubEvent 1} {hub : TelemetryHub 1} (taken : stream.hub.step event = some hub)
    (other : event.owner? ≠ some stream.subscriber) :
    StreamTracked request base { stream with hub } := by
  rcases TelemetryHub.step_bus taken with unchanged | ⟨busEvent, ownerEq, busTaken⟩
  · constructor
    · exact unchanged ▸ tracked.sound
    · exact unchanged ▸ tracked.upToDate
    · exact tracked.looping
    · exact unchanged ▸ tracked.shut
    · exact unchanged ▸ tracked.counted
    · exact unchanged ▸ tracked.decimated
    · exact tracked.sent
  · rcases Bus.step_other busTaken (ownerEq ▸ other) with ⟨poppedEq, owned⟩
    constructor
    · exact tracked.sound.step (by decide) busTaken
    · exact tracked.upToDate.step tracked.sound (by decide) busTaken fun _ => owned
    · exact tracked.looping
    · intro closed
      exact tracked.sound.closed_step (by decide) busTaken (tracked.shut closed)
    · rw [poppedEq]
      exact tracked.counted
    · rw [poppedEq]
      exact tracked.decimated
    · exact tracked.sent

/-- A `Pop` of the loop: the counter advances with each sample popped. -/
theorem StreamTracked.pop (tracked : StreamTracked request base stream)
    (looping : stream.phase = .looping) {next : TelemetryStream}
    (taken : stream.pop request = some next) : StreamTracked request base next := by
  rcases Option.map_eq_some_iff.mp taken with ⟨hub, hubTaken, nextEq⟩
  have busTaken := TelemetryHub.busStep_bus hubTaken
  rcases Option.ite_none_right_eq_some.mp busTaken with ⟨-, busEq⟩
  have poppedEq : poppedBy stream.subscriber hub.bus.trace =
      poppedBy stream.subscriber stream.hub.bus.trace ++
        (stream.hub.bus.objects stream.subscriber).pop.1.toList := by
    rw [← Option.some.inj busEq]
    exact Bus.poppedBy_pop stream.hub.bus stream.subscriber
  have sound := tracked.sound.step (by decide) busTaken
  have upToDate := tracked.upToDate.step tracked.sound (by decide) busTaken fun _ owner => by
    rw [← Option.some.inj busEq]
    exact owner
  have decimated := tracked.decimated
  rw [tracked.looping looping, Option.toList_none, List.append_nil] at decimated
  cases result : (stream.hub.bus.objects stream.subscriber).pop.1 with
  | none =>
      rw [result, Option.toList_none, List.append_nil] at poppedEq
      simp only [result] at nextEq
      cases nextEq
      constructor
      · exact sound
      · exact upToDate
      · exact tracked.looping
      · intro closed
        cases looping.symm.trans closed
      · rw [poppedEq]
        exact tracked.counted
      · rw [poppedEq]
        exact tracked.decimated
      · exact tracked.sent
  | some sample =>
      rw [result, Option.toList_some] at poppedEq
      simp only [result] at nextEq
      split at nextEq
      · rename_i skipped
        cases nextEq
        constructor
        · exact sound
        · exact upToDate
        · exact tracked.looping
        · intro closed
          cases looping.symm.trans closed
        · rw [poppedEq, List.length_append, ← tracked.counted]
          rfl
        · rw [poppedEq, everyNth_snoc, ← tracked.counted, if_neg skipped, List.append_nil]
          exact tracked.decimated
        · exact tracked.sent
      · rename_i due
        cases nextEq
        constructor
        · exact sound
        · exact upToDate
        · intro looping
          cases looping
        · intro closed
          cases closed
        · rw [poppedEq, List.length_append, ← tracked.counted]
          rfl
        · rw [poppedEq, everyNth_snoc, ← tracked.counted, if_pos (not_not.mp due), decimated]
          rfl
        · exact tracked.sent

theorem StreamTracked.write (tracked : StreamTracked request base stream)
    {sample : Envelope 1 TelemetrySample} (unwritten : stream.unwritten = some sample)
    (accepted : Bool) : StreamTracked request base (stream.write request accepted sample) := by
  have decimated := tracked.decimated
  rw [unwritten] at decimated
  cases accepted with
  | true =>
      constructor
      · exact tracked.sound
      · exact tracked.upToDate
      · exact fun _ => rfl
      · intro closed
        cases closed
      · exact tracked.counted
      · simpa [TelemetryStream.write] using decimated
      · simp [TelemetryStream.write, tracked.sent]
  | false =>
      constructor
      · exact tracked.sound
      · exact tracked.upToDate
      · intro looping
        cases looping
      · intro closed
        cases closed
      · exact tracked.counted
      · exact tracked.decimated
      · exact tracked.sent

/-- A step of the handler that leaves its subscriber closed, and pops nothing. -/
theorem StreamTracked.shutting (tracked : StreamTracked request base stream)
    {hub : TelemetryHub 1} {event : BusEvent 1 TelemetrySample} {phase : StreamPhase}
    (taken : stream.hub.bus.step TelemetryHub.kSubscriberQueueCapacity event = some hub.bus)
    (closed : (hub.bus.objects stream.subscriber).closed = true)
    (poppedEq : poppedBy stream.subscriber hub.bus.trace =
      poppedBy stream.subscriber stream.hub.bus.trace) (left : phase ≠ .looping) :
    StreamTracked request base { stream with hub, phase } := by
  constructor
  · exact tracked.sound.step (by decide) taken
  · refine tracked.upToDate.step tracked.sound (by decide) taken fun opened => ?_
    exact absurd (opened.symm.trans closed) Bool.false_ne_true
  · exact fun looping => absurd looping left
  · exact fun _ => closed
  · rw [poppedEq]
    exact tracked.counted
  · rw [poppedEq]
    exact tracked.decimated
  · exact tracked.sent

theorem StreamTracked.step (tracked : StreamTracked request base stream)
    {event : StreamEvent} {next : TelemetryStream}
    (taken : stream.step request event = some next) : StreamTracked request base next := by
  cases event with
  | hub event =>
      simp only [TelemetryStream.step] at taken
      split at taken
      · cases taken
      · rename_i other
        rcases Option.map_eq_some_iff.mp taken with ⟨hub, hubTaken, rfl⟩
        exact tracked.hub_step request hubTaken other
  | pop =>
      rcases Option.ite_none_right_eq_some.mp taken with ⟨looping, popTaken⟩
      exact tracked.pop request looping popTaken
  | write accepted =>
      simp only [TelemetryStream.step] at taken
      split at taken
      · rename_i sample phaseEq unwrittenEq
        cases taken
        exact tracked.write request unwrittenEq accepted
      · cases taken
  | isCancelled =>
      rcases Option.ite_none_right_eq_some.mp taken with ⟨-, nextEq⟩
      cases nextEq
      constructor
      · exact tracked.sound
      · exact tracked.upToDate
      · intro looping
        cases looping
      · intro closed
        cases closed
      · exact tracked.counted
      · exact tracked.decimated
      · exact tracked.sent
  | close =>
      rcases Option.ite_none_right_eq_some.mp taken with ⟨-, closeTaken⟩
      rcases Option.map_eq_some_iff.mp closeTaken with ⟨hub, hubTaken, rfl⟩
      have busTaken := TelemetryHub.busStep_bus hubTaken
      rcases Option.ite_none_right_eq_some.mp busTaken with ⟨-, busEq⟩
      refine tracked.shutting request busTaken ?_ ?_ (by decide)
      · rw [← Option.some.inj busEq]
        simp [Bus.close, Subscriber.close]
      · rw [← Option.some.inj busEq]
        simp [Bus.close, poppedBy]
  | return_ =>
      rcases Option.ite_none_right_eq_some.mp taken with ⟨phaseEq, releaseTaken⟩
      rcases Option.map_eq_some_iff.mp releaseTaken with ⟨hub, hubTaken, rfl⟩
      have busTaken := TelemetryHub.busStep_bus hubTaken
      rcases Option.ite_none_right_eq_some.mp busTaken with ⟨-, busEq⟩
      refine tracked.shutting request busTaken ?_ ?_ (by decide)
      · exact tracked.sound.closed_step (by decide) busTaken (tracked.shut phaseEq)
      · rw [← Option.some.inj busEq]
        simp [Bus.release, poppedBy]

theorem streamTracked_of_run {hub : TelemetryHub 1} {events : List StreamEvent}
    (sound : hub.bus.Sound TelemetryHub.kSubscriberQueueCapacity)
    (executed : run (fun stream => TelemetryStream.step request stream)
      (TelemetryStream.subscribe hub) events = some stream) :
    StreamTracked request hub.bus.published stream :=
  run_invariant (StreamTracked request hub.bus.published) (tracked_subscribe request sound)
    (fun _ _ _ tracked taken => tracked.step request taken) executed

end

/-- The sample with the metrics the client asked for. -/
def filteredSample (filter : List String) (sample : TelemetrySample) : TelemetrySample :=
  { sample with
    metrics := sample.metrics.filter fun metric =>
      filter = [] ∨ metric.metricId ∈ filter }

theorem foldl_append_map {α β : Type} (f : α → β) (elements : List α) (out : List β) :
    elements.foldl (fun out element => out ++ [f element]) out = out ++ elements.map f := by
  induction elements generalizing out with
  | nil => simp
  | cons element rest ih => simp [ih]

theorem foldl_skip {α β : Type} (skip : α → Bool) (f : α → β) (elements : List α)
    (out : List β) :
    elements.foldl (fun out element => if skip element then out else out ++ [f element]) out =
      out ++ (elements.filter fun element => !skip element).map f := by
  induction elements generalizing out with
  | nil => simp
  | cons element rest ih =>
      cases skipped : skip element <;> simp [ih, skipped]

theorem receivedSample_toProto (filter : List String) (sample : TelemetrySample) :
    receivedSample (toProto sample filter) = filteredSample filter sample := by
  have keeps : ∀ metric : MetricSample,
      (!(!filter.isEmpty && !filter.contains metric.metricId)) =
        decide (filter = [] ∨ metric.metricId ∈ filter) := by
    intro metric
    cases filter with
    | nil => simp
    | cons first rest => simp
  simp only [receivedSample, toProto, filteredSample, foldl_skip, foldl_append_map,
    List.nil_append, List.map_map, keeps]
  congr 1
  exact List.map_id' _

/-! ## The law of the stream -/

/-- The samples' numbers, counted from the handler's subscription. -/
def sampleNumbers (base : Nat) (samples : List (Envelope 1 TelemetrySample)) : List Nat :=
  samples.map fun sample => sample.number - base

/-- The handler never has a full queue pending when a sample is delivered. -/
def NeverLagging (subscriber : Nat) (trace : List (Observation 1 TelemetrySample)) : Prop :=
  ∀ past envelope dropped future,
    trace = past ++ .delivered subscriber envelope dropped :: future →
      (queueAfter TelemetryHub.kSubscriberQueueCapacity subscriber past).length <
        TelemetryHub.kSubscriberQueueCapacity

/-- The samples the handler has popped. -/
def TelemetryStream.popped (stream : TelemetryStream) : List (Envelope 1 TelemetrySample) :=
  poppedBy stream.subscriber stream.hub.bus.trace

structure StreamLaw (request : V1.SubscribeTelemetryRequest) (base : Nat)
    (stream : TelemetryStream) : Prop where
  /-- Every `decimate`-th sample popped is written, the first one included. -/
  decimated : stream.written ++ stream.unwritten.toList =
    everyNth (decimate request) stream.popped
  published_after : ∀ sample ∈ stream.popped, base ≤ sample.number
  increasing : (sampleNumbers base stream.written).Pairwise (· < ·)
  apart : (sampleNumbers base stream.written).Pairwise fun earlier later =>
    earlier + decimate request ≤ later
  /-- Without lag the samples popped are all those published, in order, and the written
  ones are the multiples of `decimate`. -/
  complete : NeverLagging stream.subscriber stream.hub.bus.trace →
    sampleNumbers base stream.popped = List.range stream.popped.length ∧
    sampleNumbers base (stream.written ++ stream.unwritten.toList) =
      (List.range stream.popped.length).filter fun number => number % decimate request = 0
  /-- The client rebuilds the filtered samples. -/
  received : stream.sent.map receivedSample =
    stream.written.map fun sample => filteredSample request.metricFilter sample.message

theorem StreamTracked.dropped_nil {request : V1.SubscribeTelemetryRequest} {base : Nat}
    {stream : TelemetryStream} (tracked : StreamTracked request base stream)
    (timely : NeverLagging stream.subscriber stream.hub.bus.trace) :
    droppedFrom stream.subscriber stream.hub.bus.trace = [] := by
  rw [List.eq_nil_iff_forall_not_mem]
  intro envelope membership
  rcases mem_droppedFrom.mp membership with ⟨sent, delivered⟩
  rcases List.append_of_mem delivered with ⟨past, future, split⟩
  have room := timely past sent _ future split
  have dropped := (tracked.sound.lawful past _ future split).2.2
  rw [if_neg (Nat.ne_of_lt room)] at dropped
  cases dropped

theorem StreamTracked.law {request : V1.SubscribeTelemetryRequest} {base : Nat}
    {stream : TelemetryStream} (tracked : StreamTracked request base stream) :
    StreamLaw request base stream := by
  have numbersEq : sampleNumbers base (deliveredTo stream.subscriber stream.hub.bus.trace) =
      List.range (deliveredTo stream.subscriber stream.hub.bus.trace).length := by
    have relative := congrArg (List.map (· - base)) tracked.upToDate.numbers
    rw [List.map_map, List.map_sub_range' (Nat.le_refl base), Nat.sub_self,
      ← List.range_eq_range'] at relative
    exact relative
  have sublist : stream.popped.Sublist (deliveredTo stream.subscriber stream.hub.bus.trace) :=
    tracked.sound.poppedBy_sublist (by decide) stream.subscriber
  have popped_increasing : (sampleNumbers base stream.popped).Pairwise (· < ·) := by
    have delivered_increasing : (sampleNumbers base
        (deliveredTo stream.subscriber stream.hub.bus.trace)).Pairwise (· < ·) := by
      rw [numbersEq]
      exact List.pairwise_lt_range
    exact delivered_increasing.sublist (sublist.map _)
  have writtenEq : sampleNumbers base (stream.written ++ stream.unwritten.toList) =
      everyNth (decimate request) (sampleNumbers base stream.popped) := by
    rw [tracked.decimated, sampleNumbers, sampleNumbers, everyNth_map]
    rfl
  have written_sublist : (sampleNumbers base stream.written).Sublist
      (everyNth (decimate request) (sampleNumbers base stream.popped)) := by
    rw [← writtenEq]
    exact (List.sublist_append_left _ _).map _
  constructor
  · exact tracked.decimated
  · intro sample membership
    have delivered := List.mem_map_of_mem (f := (·.number)) (sublist.subset membership)
    rw [tracked.upToDate.numbers] at delivered
    exact (List.mem_range'_1.mp delivered).1
  · exact popped_increasing.sublist (written_sublist.trans (everyNth_sublist _ _))
  · exact (everyNth_apart (decimate_pos request) popped_increasing).sublist written_sublist
  · intro timely
    have lossless := tracked.dropped_nil timely
    have consecutive : sampleNumbers base stream.popped =
        List.range stream.popped.length := by
      have split := (tracked.sound.balanced (by decide)
        stream.subscriber).popped_append_queue lossless
      have numbersSplit := congrArg (sampleNumbers base) split
      rw [numbersEq, sampleNumbers, List.map_append] at numbersSplit
      have front : sampleNumbers base stream.popped <+: List.range
          (deliveredTo stream.subscriber stream.hub.bus.trace).length := ⟨_, numbersSplit⟩
      have taken := List.prefix_iff_eq_take.mp front
      rw [List.take_range, sampleNumbers, List.length_map,
        Nat.min_eq_left sublist.length_le] at taken
      exact taken
    refine ⟨consecutive, ?_⟩
    rw [writtenEq, consecutive, everyNth_range]
  · rw [tracked.sent, List.map_map]
    exact List.map_congr_left fun sample _ =>
      receivedSample_toProto request.metricFilter sample.message

/-- Whatever happened on the hub before the handler subscribed and however the single
publisher, the other subscribers and the handler interleave, the stream keeps its law. -/
theorem telemetry_stream_law {historyCapacity : Nat} {before : List (HubEvent 1)}
    {hub : TelemetryHub 1} {request : V1.SubscribeTelemetryRequest}
    {events : List StreamEvent} {stream : TelemetryStream}
    (reached : run TelemetryHub.step (.ofCapacity historyCapacity) before = some hub)
    (executed : run (fun stream => TelemetryStream.step request stream)
      (TelemetryStream.subscribe hub) events = some stream) :
    1 ≤ decimate request ∧ StreamLaw request hub.bus.published stream := by
  rcases TelemetryHub.bus_of_run reached with ⟨busEvents, busReached⟩
  have sound := Bus.sound_of_run (by decide) busReached
  exact ⟨decimate_pos request, (streamTracked_of_run request sound executed).law⟩

/-- A stream of one metric on a fresh hub: its first sample is written and filtered. -/
theorem telemetry_stream_law_first_sample : ∃ stream,
    run (fun stream => TelemetryStream.step ⟨0, ["cpu.usage_pct"]⟩ stream)
      (TelemetryStream.subscribe (.ofCapacity TelemetryHub.kDefaultHistoryCapacity))
      [.hub (.record 0 ⟨2000, [⟨"cpu.usage_pct", 12, "percent"⟩, ⟨"mem.used", 3, "mb"⟩]⟩),
        .hub (.snapshot 0), .hub (.deliver 0), .pop, .write true] = some stream ∧
    1 ≤ decimate ⟨0, ["cpu.usage_pct"]⟩ ∧ StreamLaw ⟨0, ["cpu.usage_pct"]⟩ 0 stream ∧
    sampleNumbers 0 stream.written = [0] ∧
    stream.sent.map (·.metrics.map (·.metricId)) = [["cpu.usage_pct"]] := by
  have reached : run TelemetryHub.step
      (.ofCapacity TelemetryHub.kDefaultHistoryCapacity : TelemetryHub 1) [] = some _ := rfl
  have executed : run (fun stream => TelemetryStream.step ⟨0, ["cpu.usage_pct"]⟩ stream)
      (TelemetryStream.subscribe (.ofCapacity TelemetryHub.kDefaultHistoryCapacity))
      [.hub (.record 0 ⟨2000, [⟨"cpu.usage_pct", 12, "percent"⟩, ⟨"mem.used", 3, "mb"⟩]⟩),
        .hub (.snapshot 0), .hub (.deliver 0), .pop, .write true] = some _ := rfl
  have law := telemetry_stream_law reached executed
  exact ⟨_, executed, law.1, law.2, rfl, rfl⟩

end HWPanel.Service
