import HWPanel.Core.BusInvariants

/-!
# The delivery law

Every subscriber is a private drop-oldest queue fed by the publishes that had it
in their snapshot. The law is stated of the trace of a run: what each observation
says about the history before it, and what follows for the history as a whole.
-/

namespace HWPanel.Core

open HWPanel.Library

variable {threads : Nat} {M : Type}

/-- The queue that a drop-oldest queue of this capacity would hold for `id`. -/
def queueAfter (capacity : Nat) (id : Nat) (trace : List (Observation threads M)) :
    List (Envelope threads M) :=
  (Ledger.replay capacity (queueOps id trace)).queue

/-- What may be observed after a history: a snapshot locks the subscribers alive,
once each, and a thread publishes after its last `Publish` returned; a publish
that holds a subscriber delivers to it unless it is closed, dropping the oldest
message of a full queue; it returns when its snapshot is handled; `Pop` takes the
oldest message. -/
def Lawful (capacity : Nat) (past : List (Observation threads M)) :
    Observation threads M → Prop
  | .subscribed id => .subscribed id ∉ past
  | .published envelope live =>
      envelope.number = (snapshots past).length ∧ live.Nodup ∧
      (∀ id, id ∈ live ↔ AliveIn past id) ∧
      ∀ earlier held, .published earlier held ∈ past →
        earlier.publisher = envelope.publisher → .completed earlier ∈ past
  | .delivered id envelope dropped =>
      .closed id ∉ past ∧ HeldBy past envelope id ∧
      dropped = if (queueAfter capacity id past).length = capacity
        then (queueAfter capacity id past).head? else none
  | .refused id envelope => .closed id ∈ past ∧ HeldBy past envelope id
  | .completed envelope =>
      ∀ live, .published envelope live ∈ past → handled envelope.number past = live
  | .popped id result => result = (queueAfter capacity id past).head?
  | .closed _ => True
  | .released _ => True

/-- Messages of one publisher come in the order it published them. -/
def InPublishOrder (messages : List (Envelope threads M)) : Prop :=
  messages.Pairwise fun earlier later =>
    earlier.publisher = later.publisher → earlier.number < later.number

/-- A delivery step was for a subscriber in the snapshot of its publish. -/
theorem published_of_delivered {capacity : Nat} {trace : List (Observation threads M)}
    (lawful : AlongHistory (Lawful capacity) trace) {id : Nat} {envelope : Envelope threads M}
    {dropped : Option (Envelope threads M)}
    (membership : .delivered id envelope dropped ∈ trace) :
    ∃ live, .published envelope live ∈ trace ∧ id ∈ live := by
  rcases List.append_of_mem membership with ⟨past, future, rfl⟩
  rcases (lawful past _ future rfl).2.1 with ⟨live, published, held, -⟩
  exact ⟨live, List.mem_append_left _ published, held⟩

theorem published_of_refused {capacity : Nat} {trace : List (Observation threads M)}
    (lawful : AlongHistory (Lawful capacity) trace) {id : Nat} {envelope : Envelope threads M}
    (membership : .refused id envelope ∈ trace) :
    ∃ live, .published envelope live ∈ trace ∧ id ∈ live := by
  rcases List.append_of_mem membership with ⟨past, future, rfl⟩
  rcases (lawful past _ future rfl).2 with ⟨live, published, held, -⟩
  exact ⟨live, List.mem_append_left _ published, held⟩

structure DeliveryLaw (capacity : Nat) (bus : Bus threads M) : Prop where
  /-- Each observation of the run is lawful. -/
  lawful : AlongHistory (Lawful capacity) bus.trace
  /-- A subscriber is a private drop-oldest FIFO fed with its delivered messages. -/
  fifo (id : Nat) : Ledger.replay capacity (queueOps id bus.trace) =
    { queue := (bus.objects id).queue
      pushed := deliveredTo id bus.trace
      popped := poppedBy id bus.trace
      dropped := droppedFrom id bus.trace }
  /-- A completed publish has had one delivery step for each subscriber of its
  snapshot, and none for any other. -/
  handled_once (envelope : Envelope threads M) (live : List Nat) :
    .published envelope live ∈ bus.trace → .completed envelope ∈ bus.trace →
      ∀ id, (handled envelope.number bus.trace).count id = if id ∈ live then 1 else 0
  /-- It is delivered exactly once to those it was not refused by. -/
  delivered_once (envelope : Envelope threads M) (live : List Nat) :
    .published envelope live ∈ bus.trace → .completed envelope ∈ bus.trace →
      ∀ id ∈ live, .refused id envelope ∉ bus.trace →
        ((deliveredTo id bus.trace).map (·.number)).count envelope.number = 1
  /-- And to no one else. -/
  delivered_only (envelope : Envelope threads M) (live : List Nat) :
    .published envelope live ∈ bus.trace →
      ∀ id, id ∉ live ∨ .refused id envelope ∈ bus.trace →
        ((deliveredTo id bus.trace).map (·.number)).count envelope.number = 0
  delivered_distinct (id : Nat) : ((deliveredTo id bus.trace).map (·.number)).Nodup
  delivered_inOrder (id : Nat) : InPublishOrder (deliveredTo id bus.trace)
  popped_distinct (id : Nat) : ((poppedBy id bus.trace).map (·.number)).Nodup
  popped_inOrder (id : Nat) : InPublishOrder (poppedBy id bus.trace)
  /-- A delivered message is popped, was dropped at a later delivery, or is queued. -/
  accounted (id : Nat) : (deliveredTo id bus.trace).Perm
    (poppedBy id bus.trace ++ droppedFrom id bus.trace ++ (bus.objects id).queue)
  /-- After `Close` nothing is delivered, and the queued remainder is what is popped. -/
  remainder (id : Nat) (front back : List (Observation threads M)) :
    bus.trace = front ++ .closed id :: back →
      deliveredTo id back = [] ∧
      poppedBy id back ++ (bus.objects id).queue = queueAfter capacity id front

namespace Bus

variable {capacity : Nat} {self : Bus threads M}

/-- The weak pointers that can be locked are those of the subscribers alive. -/
theorem lock_iff_aliveIn (registered : self.Registered) (underway : self.Underway)
    (id : Nat) : self.lock id = true ↔ AliveIn self.trace id := by
  rw [lock_iff]
  constructor
  · rintro (owner | ⟨thread, publishing, busy, membership⟩)
    · rcases (registered.owned id).mp owner with ⟨subscribed, held⟩
      exact ⟨subscribed, .inl held⟩
    · rcases underway.busy thread publishing busy with ⟨-, taken, running, -⟩
      refine ⟨(registered.created id).mpr ?_, .inr ⟨publishing.envelope, publishing.live, ?_⟩⟩
      · exact registered.live_lt thread publishing busy id membership
      · exact ⟨mem_snapshots.mp taken, membership, running⟩
  · rintro ⟨subscribed, held | ⟨envelope, live, taken, membership, running⟩⟩
    · exact .inl ((registered.owned id).mpr ⟨subscribed, held⟩)
    · right
      rcases underway.settled _ (mem_snapshots.mpr taken) with
        ⟨completed, -⟩ | ⟨publishing, busy, -, liveEq⟩
      · exact absurd completed running
      · exact ⟨_, publishing, busy, liveEq ▸ membership⟩

/-- The next subscriber of a publish in flight is held by it and not handled yet. -/
theorem Underway.pending_held (underway : self.Underway) {thread : Fin threads}
    {publishing : Publishing threads M} {id : Nat} {rest : List Nat}
    (busy : self.inFlight thread = some publishing)
    (pending : publishing.pending = id :: rest) :
    HeldBy self.trace publishing.envelope id ∧
      id ∉ handled publishing.envelope.number self.trace := by
  rcases underway.busy thread publishing busy with ⟨-, taken, running, progress⟩
  have distinct := underway.live_nodup _ taken
  rw [pending] at progress
  rw [← progress] at distinct
  constructor
  · refine ⟨publishing.live, mem_snapshots.mp taken, ?_, running⟩
    rw [← progress]
    exact List.mem_append_right _ List.mem_cons_self
  · intro earlier
    exact (List.nodup_append.mp distinct).2.2 id earlier id List.mem_cons_self rfl

/-- The invariant of a run. -/
structure Sound (capacity : Nat) (bus : Bus threads M) : Prop where
  registered : bus.Registered
  underway : bus.Underway
  queued : bus.Queued capacity
  lawful : AlongHistory (Lawful capacity) bus.trace
  inOrder (id : Nat) : InPublishOrder (deliveredTo id bus.trace)
  /-- The pops so far were those of the private queue, at every point of the run. -/
  poppedAlong : AlongHistory (fun past _ => ∀ id,
    (Ledger.replay capacity (queueOps id past)).popped = poppedBy id past) bus.trace

theorem sound_initial : Sound capacity ({} : Bus threads M) where
  registered := registered_initial
  underway := underway_initial
  queued := queued_initial
  lawful := alongHistory_nil
  inOrder _ := .nil
  poppedAlong := alongHistory_nil

/-- What a step makes observable is lawful. -/
theorem Sound.lawful_step (sound : self.Sound capacity) (positive : 0 < capacity)
    {next : Bus threads M} {event : BusEvent threads M}
    (taken : Transition capacity self event next) :
    ∃ made, next.trace = self.trace ++ [made] ∧ Lawful capacity self.trace made := by
  have queueEq : ∀ id, queueAfter capacity id self.trace = (self.objects id).queue := by
    intro id
    rw [queueAfter, sound.queued.ledger id]
  cases taken with
  | subscribe =>
      refine ⟨_, rfl, fun subscribed => ?_⟩
      exact Nat.lt_irrefl _ ((sound.registered.created _).mp subscribed)
  | publish thread message idle =>
      refine ⟨_, rfl, ?_, sound.registered.subscribers_nodup.filter _, ?_, ?_⟩
      · have numbered := congrArg List.length sound.underway.numbered
        rw [List.length_map, List.length_range] at numbered
        exact numbered.symm
      · intro id
        rw [List.mem_filter, ← lock_iff_aliveIn sound.registered sound.underway]
        exact ⟨And.right, fun locked => ⟨sound.registered.listed id locked, locked⟩⟩
      · intro earlier held published publisherEq
        rcases sound.underway.settled _ (mem_snapshots.mpr published) with
          ⟨completed, -⟩ | ⟨publishing, busy, -⟩
        · exact completed
        · rw [publisherEq, idle] at busy
          cases busy
  | deliver thread publishing id rest busy pending =>
      rcases sound.underway.pending_held busy pending with ⟨held, -⟩
      cases opened : (self.objects id).closed with
      | true =>
          rw [deliver_of_closed opened]
          exact ⟨_, rfl, (sound.queued.closed id).mp opened, held⟩
      | false =>
          rw [deliver_of_open opened]
          refine ⟨_, rfl, ?_, held, ?_⟩
          · rw [← sound.queued.closed id, opened]
            exact Bool.false_ne_true
          · rw [queueEq]
            have bounded := sound.queued.length_le positive id
            have full_iff : capacity ≤ (self.objects id).queue.length ↔
                (self.objects id).queue.length = capacity :=
              ⟨fun full => Nat.le_antisymm bounded full, fun full => Nat.le_of_eq full.symm⟩
            simp only [full_iff]
  | finish thread publishing busy done =>
      refine ⟨_, rfl, fun live published => ?_⟩
      rcases sound.underway.busy thread publishing busy with ⟨-, taken, -, progress⟩
      rw [done, List.append_nil] at progress
      rw [progress]
      exact congrArg Prod.snd (sound.underway.unique taken (mem_snapshots.mpr published) rfl)
  | pop id owner =>
      rw [pop_eq]
      exact ⟨_, rfl, by rw [Lawful, queueEq]⟩
  | close id owner => exact ⟨_, rfl, trivial⟩
  | release id owner => exact ⟨_, rfl, trivial⟩

/-- A message delivered now was published after those of its publisher before it. -/
theorem Sound.inOrder_step (sound : self.Sound capacity) {next : Bus threads M}
    {event : BusEvent threads M} (taken : Transition capacity self event next) (id : Nat) :
    InPublishOrder (deliveredTo id next.trace) := by
  have quiet : ∀ made : Observation threads M, next.trace = self.trace ++ [made] →
      deliveredTo id [made] = [] → InPublishOrder (deliveredTo id next.trace) := by
    intro made traceEq none
    rw [traceEq, deliveredTo_append, none, List.append_nil]
    exact sound.inOrder id
  cases taken with
  | subscribe => exact quiet _ rfl rfl
  | publish thread message idle => exact quiet _ rfl rfl
  | deliver thread publishing target rest busy pending =>
      cases opened : (self.objects target).closed with
      | true =>
          rw [deliver_of_closed opened] at quiet ⊢
          exact quiet _ rfl rfl
      | false =>
          rw [deliver_of_open opened] at quiet ⊢
          by_cases same : target = id
          · subst same
            rcases sound.underway.busy thread publishing busy with ⟨publisherEq, sent, -, -⟩
            have delivered : ∀ dropped, deliveredTo target
                [.delivered target publishing.envelope dropped] = [publishing.envelope] := by
              simp [deliveredTo]
            rw [observe, deliveredTo_append, delivered]
            refine List.pairwise_append.mpr ⟨sound.inOrder target, List.pairwise_singleton _ _, ?_⟩
            intro earlier membership later laterEq
            cases List.mem_singleton.mp laterEq
            intro samePublisher
            rcases mem_deliveredTo.mp membership with ⟨dropped, earlierDelivered⟩
            rcases published_of_delivered sound.lawful earlierDelivered with ⟨live, published, -⟩
            have earlierMem := mem_snapshots.mpr published
            have bound := sound.underway.latest thread publishing busy _ earlierMem
              (samePublisher.trans publisherEq)
            apply Nat.lt_of_le_of_ne bound
            intro sameNumber
            -- The same publish would have handled this subscriber twice.
            apply (sound.underway.pending_held busy pending).2
            exact mem_handled.mpr ⟨earlier, sameNumber, .inl ⟨dropped, earlierDelivered⟩⟩
          · refine quiet _ rfl ?_
            simp [deliveredTo, same]
  | finish thread publishing busy done => exact quiet _ rfl rfl
  | pop target owner =>
      rw [pop_eq] at quiet ⊢
      exact quiet _ rfl rfl
  | close target owner => exact quiet _ rfl rfl
  | release target owner => exact quiet _ rfl rfl

theorem Sound.step (sound : self.Sound capacity) (positive : 0 < capacity)
    {next : Bus threads M} {event : BusEvent threads M}
    (taken : self.step capacity event = some next) : next.Sound capacity := by
  have transition := step_transition taken
  rcases sound.lawful_step positive transition with ⟨made, traceEq, lawful⟩
  constructor
  · exact sound.registered.transition transition
  · exact sound.underway.transition sound.registered.subscribers_nodup transition
  · exact sound.queued.transition positive transition
  · rw [traceEq, alongHistory_snoc]
    exact ⟨sound.lawful, lawful⟩
  · exact sound.inOrder_step transition
  · rw [traceEq, alongHistory_snoc]
    refine ⟨sound.poppedAlong, fun id => ?_⟩
    rw [sound.queued.ledger id]

/-- `Close` is final. -/
theorem Sound.closed_step (sound : self.Sound capacity) (positive : 0 < capacity)
    {next : Bus threads M} {event : BusEvent threads M}
    (taken : self.step capacity event = some next) {id : Nat}
    (closed : (self.objects id).closed = true) : (next.objects id).closed = true := by
  rcases sound.lawful_step positive (step_transition taken) with ⟨made, traceEq, -⟩
  apply ((sound.step positive taken).queued.closed id).mpr
  rw [traceEq]
  exact List.mem_append_left _ ((sound.queued.closed id).mp closed)

theorem sound_of_run (positive : 0 < capacity) {events : List (BusEvent threads M)}
    (executed : run (Bus.step capacity) {} events = some self) : self.Sound capacity :=
  run_invariant (Bus.Sound capacity) sound_initial
    (fun _ _ _ sound taken => sound.step positive taken) executed

/-! ## The law from the invariant -/

theorem distinct_of_inOrder {messages : List (Envelope threads M)}
    (inOrder : InPublishOrder messages)
    (unique : ∀ first ∈ messages, ∀ second ∈ messages,
      first.number = second.number → first.publisher = second.publisher) :
    (messages.map (·.number)).Nodup := by
  rw [List.Nodup, List.pairwise_map]
  refine inOrder.imp_of_mem ?_
  intro first second firstMem secondMem ordered sameNumber
  exact Nat.ne_of_lt (ordered (unique first firstMem second secondMem sameNumber)) sameNumber

section

variable (sound : self.Sound capacity)
include sound

/-- Delivery steps carry the published envelope of their number. -/
theorem Sound.same_of_delivered {id : Nat} {sent envelope : Envelope threads M}
    {dropped : Option (Envelope threads M)} {live : List Nat}
    (delivered : .delivered id sent dropped ∈ self.trace)
    (published : .published envelope live ∈ self.trace)
    (sameNumber : sent.number = envelope.number) : sent = envelope ∧ id ∈ live := by
  rcases published_of_delivered sound.lawful delivered with ⟨sentLive, sentPublished, held⟩
  cases sound.underway.unique (mem_snapshots.mpr sentPublished) (mem_snapshots.mpr published)
    sameNumber
  exact ⟨rfl, held⟩

theorem Sound.same_of_refused {id : Nat} {sent envelope : Envelope threads M}
    {live : List Nat} (refused : .refused id sent ∈ self.trace)
    (published : .published envelope live ∈ self.trace)
    (sameNumber : sent.number = envelope.number) : sent = envelope := by
  rcases published_of_refused sound.lawful refused with ⟨sentLive, sentPublished, -⟩
  exact congrArg Prod.fst (sound.underway.unique (mem_snapshots.mpr sentPublished)
    (mem_snapshots.mpr published) sameNumber)

theorem Sound.handled_eq {envelope : Envelope threads M} {live : List Nat}
    (published : .published envelope live ∈ self.trace)
    (completed : .completed envelope ∈ self.trace) :
    handled envelope.number self.trace = live := by
  rcases sound.underway.settled _ (mem_snapshots.mpr published) with
    ⟨-, all⟩ | ⟨publishing, busy, same, -⟩
  · exact all
  · exact absurd (same ▸ completed) (sound.underway.busy _ publishing busy).2.2.1

theorem Sound.handled_nodup {envelope : Envelope threads M} {live : List Nat}
    (published : .published envelope live ∈ self.trace) :
    (handled envelope.number self.trace).Nodup := by
  have distinct := sound.underway.live_nodup _ (mem_snapshots.mpr published)
  rcases sound.underway.settled _ (mem_snapshots.mpr published) with
    ⟨-, all⟩ | ⟨publishing, busy, same, liveEq⟩
  · rw [all]
    exact distinct
  · have progress := (sound.underway.busy _ publishing busy).2.2.2
    rw [same, liveEq] at progress
    rw [← progress] at distinct
    exact distinct.of_append_left

theorem Sound.delivered_distinct (id : Nat) :
    ((deliveredTo id self.trace).map (·.number)).Nodup := by
  apply distinct_of_inOrder (sound.inOrder id)
  intro first firstMem second secondMem sameNumber
  rcases mem_deliveredTo.mp firstMem with ⟨_, firstDelivered⟩
  rcases mem_deliveredTo.mp secondMem with ⟨_, secondDelivered⟩
  rcases published_of_delivered sound.lawful secondDelivered with ⟨live, published, -⟩
  rw [(sound.same_of_delivered firstDelivered published sameNumber).1]

theorem Sound.delivered_once {envelope : Envelope threads M} {live : List Nat}
    (published : .published envelope live ∈ self.trace)
    (completed : .completed envelope ∈ self.trace) {id : Nat} (held : id ∈ live)
    (accepted : .refused id envelope ∉ self.trace) :
    ((deliveredTo id self.trace).map (·.number)).count envelope.number = 1 := by
  apply List.count_eq_one_of_mem (sound.delivered_distinct id)
  rw [← sound.handled_eq published completed] at held
  rcases mem_handled.mp held with ⟨sent, sameNumber, ⟨dropped, delivered⟩ | refused⟩
  · rw [← sameNumber]
    exact List.mem_map_of_mem (mem_deliveredTo.mpr ⟨dropped, delivered⟩)
  · rw [sound.same_of_refused refused published sameNumber] at refused
    exact absurd refused accepted

theorem Sound.delivered_only {envelope : Envelope threads M} {live : List Nat}
    (published : .published envelope live ∈ self.trace) {id : Nat}
    (excluded : id ∉ live ∨ .refused id envelope ∈ self.trace) :
    ((deliveredTo id self.trace).map (·.number)).count envelope.number = 0 := by
  rw [List.count_eq_zero]
  intro membership
  rcases List.mem_map.mp membership with ⟨sent, sentMem, sameNumber⟩
  rcases mem_deliveredTo.mp sentMem with ⟨dropped, delivered⟩
  rcases sound.same_of_delivered delivered published sameNumber with ⟨rfl, held⟩
  rcases excluded with absent | refused
  · exact absent held
  · exact not_refused_of_delivered (sound.handled_nodup published) delivered refused

/-- The private queue's ledger is balanced. -/
theorem Sound.balanced (positive : 0 < capacity) (id : Nat) : Ledger.Balanced capacity
    { queue := (self.objects id).queue
      pushed := deliveredTo id self.trace
      popped := poppedBy id self.trace
      dropped := droppedFrom id self.trace } := by
  rw [← sound.queued.ledger id]
  exact Ledger.balanced_replay positive _

theorem Sound.poppedBy_sublist (positive : 0 < capacity) (id : Nat) :
    (poppedBy id self.trace).Sublist (deliveredTo id self.trace) :=
  (List.sublist_append_left _ _).trans (sound.balanced positive id).ordered

/-- A subscriber not created yet has no history. -/
@[simp] theorem Sound.deliveredTo_fresh : deliveredTo self.created self.trace = [] := by
  rw [List.eq_nil_iff_forall_not_mem]
  intro envelope membership
  rcases mem_deliveredTo.mp membership with ⟨dropped, delivered⟩
  rcases published_of_delivered sound.lawful delivered with ⟨live, published, held⟩
  rcases List.append_of_mem published with ⟨past, future, split⟩
  have alive := ((sound.lawful past _ future split).2.2.1 self.created).mp held
  apply Nat.lt_irrefl self.created
  apply (sound.registered.created self.created).mp
  rw [split]
  exact List.mem_append_left _ alive.1

/-- Once closed, a subscriber is delivered nothing. -/
theorem Sound.deliveredTo_after_close {id : Nat} {front back : List (Observation threads M)}
    (split : self.trace = front ++ .closed id :: back) : deliveredTo id back = [] := by
  rw [List.eq_nil_iff_forall_not_mem]
  intro envelope membership
  rcases mem_deliveredTo.mp membership with ⟨dropped, delivered⟩
  rcases List.append_of_mem delivered with ⟨past, future, rfl⟩
  have lawful := sound.lawful (front ++ .closed id :: past)
    (.delivered id envelope dropped) future (by rw [split]; simp)
  exact lawful.1 (List.mem_append_right _ List.mem_cons_self)

/-- Once closed, the queue only shrinks from the front. -/
theorem Sound.remainder {id : Nat} {front back : List (Observation threads M)}
    (split : self.trace = front ++ .closed id :: back) :
    poppedBy id back ++ (self.objects id).queue = queueAfter capacity id front := by
  have pops : ∀ op ∈ queueOps id back, op = .pop := by
    intro op membership
    cases op with
    | pop => rfl
    | push envelope =>
        rcases mem_queueOps_push.mp membership with ⟨dropped, delivered⟩
        have noDelivery := sound.deliveredTo_after_close split
        have delivery := mem_deliveredTo.mpr ⟨dropped, delivered⟩
        rw [noDelivery] at delivery
        cases delivery
  have opsEq : queueOps id self.trace = queueOps id front ++ queueOps id back := by
    rw [split, queueOps_append]
    rfl
  have ledger := sound.queued.ledger id
  rw [opsEq, Ledger.replay_append] at ledger
  rcases Ledger.foldl_pop capacity (Ledger.replay capacity (queueOps id front))
    (queueOps id back) pops with ⟨taken, popped, remaining⟩
  rw [ledger] at popped remaining
  have takenEq : taken = poppedBy id back := by
    have poppedFront := sound.poppedAlong front (.closed id) back split id
    rw [poppedFront] at popped
    have poppedSplit : poppedBy id self.trace = poppedBy id front ++ poppedBy id back := by
      rw [split, poppedBy_append]
      rfl
    exact (List.append_cancel_left (poppedSplit.symm.trans popped)).symm
  rw [← takenEq]
  exact remaining

end

theorem deliveryLaw_of_run (positive : 0 < capacity) {events : List (BusEvent threads M)}
    (executed : run (Bus.step capacity) {} events = some self) :
    DeliveryLaw capacity self := by
  have sound := sound_of_run positive executed
  constructor
  · exact sound.lawful
  · exact sound.queued.ledger
  · intro envelope live published completed id
    have distinct := sound.underway.live_nodup _ (mem_snapshots.mpr published)
    rw [sound.handled_eq published completed]
    exact distinct.count
  · intro envelope live published completed id held accepted
    exact sound.delivered_once published completed held accepted
  · intro envelope live published id excluded
    exact sound.delivered_only published excluded
  · exact sound.delivered_distinct
  · exact sound.inOrder
  · intro id
    exact (sound.delivered_distinct id).sublist ((sound.poppedBy_sublist positive id).map _)
  · intro id
    exact (sound.inOrder id).sublist (sound.poppedBy_sublist positive id)
  · intro id
    exact (sound.balanced positive id).accounted
  · intro id front back split
    exact ⟨sound.deliveredTo_after_close split, sound.remainder split⟩

end Bus

namespace TelemetryHub

variable {self next : TelemetryHub threads}

theorem busStep_bus {event : BusEvent threads TelemetrySample}
    (taken : self.busStep event = some next) :
    self.bus.step kSubscriberQueueCapacity event = some next.bus := by
  rcases Option.map_eq_some_iff.mp taken with ⟨bus, busTaken, rfl⟩
  exact busTaken

/-- A step of the hub records a sample or is a step of its bus. -/
theorem step_bus {event : HubEvent threads} (taken : self.step event = some next) :
    next.bus = self.bus ∨ ∃ busEvent, busEvent.owner? = event.owner? ∧
      self.bus.step kSubscriberQueueCapacity busEvent = some next.bus := by
  cases event with
  | record thread sample =>
      left
      simp only [step] at taken
      split at taken
      · cases taken
        rfl
      · cases taken
  | snapshot thread =>
      right
      simp only [step] at taken
      split at taken
      · have busTaken := busStep_bus taken
        exact ⟨_, rfl, busTaken⟩
      · cases taken
  | subscribe => exact .inr ⟨_, rfl, busStep_bus taken⟩
  | deliver thread => exact .inr ⟨_, rfl, busStep_bus taken⟩
  | finish thread => exact .inr ⟨_, rfl, busStep_bus taken⟩
  | pop id => exact .inr ⟨_, rfl, busStep_bus taken⟩
  | close id => exact .inr ⟨_, rfl, busStep_bus taken⟩
  | release id => exact .inr ⟨_, rfl, busStep_bus taken⟩

/-- A run of the hub is a run of its bus. -/
theorem bus_of_run {historyCapacity : Nat} {events : List (HubEvent threads)}
    (executed : run step (ofCapacity historyCapacity) events = some self) :
    ∃ busEvents, run (Bus.step kSubscriberQueueCapacity) {} busEvents = some self.bus := by
  refine run_invariant (fun hub => ∃ busEvents,
    run (Bus.step kSubscriberQueueCapacity) {} busEvents = some hub.bus) ⟨[], rfl⟩ ?_ executed
  rintro before event after ⟨busEvents, reached⟩ taken
  rcases step_bus taken with unchanged | ⟨busEvent, -, busTaken⟩
  · rw [unchanged]
    exact ⟨busEvents, reached⟩
  · refine ⟨busEvents ++ [busEvent], ?_⟩
    rw [run_append, reached, Option.bind_some, run_cons, busTaken]
    rfl

end TelemetryHub

/-- The delivery law holds of every run of `EventBus` and of `TelemetryHub`, whatever
the number of threads and subscribers and whatever the interleaving. -/
theorem delivery_law :
    (∀ (events : List (BusEvent threads EventMessage)) (bus : Bus threads EventMessage),
      run EventBus.step {} events = some bus →
        DeliveryLaw EventBus.kSubscriberQueueCapacity bus) ∧
    (∀ (historyCapacity : Nat) (events : List (HubEvent threads)) (hub : TelemetryHub threads),
      run TelemetryHub.step (.ofCapacity historyCapacity) events = some hub →
        DeliveryLaw TelemetryHub.kSubscriberQueueCapacity hub.bus) := by
  constructor
  · intro events bus executed
    exact Bus.deliveryLaw_of_run (by decide) executed
  · intro historyCapacity events hub executed
    rcases TelemetryHub.bus_of_run executed with ⟨busEvents, busExecuted⟩
    exact Bus.deliveryLaw_of_run (by decide) busExecuted

/-- Two publishers whose deliveries cross: the second snapshot is delivered first, and
the subscriber that closes in between is refused. The same for one sample of the hub
that its subscriber pops. -/
theorem delivery_law_crossing :
    (∃ bus : Bus 2 EventMessage,
      run EventBus.step {}
        [.subscribe, .subscribe, .publish 0 ⟨1000, "info", "Profile applied", "Balanced"⟩,
          .publish 1 ⟨1001, "warn", "Rollback", "Gaming"⟩, .deliver 1, .deliver 0, .close 1,
          .deliver 1, .deliver 0, .finish 1, .finish 0, .pop 0, .pop 0] = some bus ∧
      DeliveryLaw EventBus.kSubscriberQueueCapacity bus ∧
      (poppedBy 0 bus.trace).map (·.number) = [1, 0] ∧ deliveredTo 1 bus.trace = []) ∧
    (∃ hub : TelemetryHub 2,
      run TelemetryHub.step (.ofCapacity TelemetryHub.kDefaultHistoryCapacity)
        [.subscribe, .record 0 ⟨1000, []⟩, .snapshot 0, .deliver 0, .finish 0, .pop 0] =
          some hub ∧
      DeliveryLaw TelemetryHub.kSubscriberQueueCapacity hub.bus ∧
      (poppedBy 0 hub.bus.trace).map (·.message.timestampMs) = [1000]) := by
  constructor
  · have executed : run EventBus.step ({} : Bus 2 EventMessage)
        [.subscribe, .subscribe, .publish 0 ⟨1000, "info", "Profile applied", "Balanced"⟩,
          .publish 1 ⟨1001, "warn", "Rollback", "Gaming"⟩, .deliver 1, .deliver 0, .close 1,
          .deliver 1, .deliver 0, .finish 1, .finish 0, .pop 0, .pop 0] = some _ := rfl
    exact ⟨_, executed, delivery_law.1 _ _ executed, rfl, rfl⟩
  · have executed : run TelemetryHub.step
        (.ofCapacity TelemetryHub.kDefaultHistoryCapacity : TelemetryHub 2)
        [.subscribe, .record 0 ⟨1000, []⟩, .snapshot 0, .deliver 0, .finish 0, .pop 0] =
          some _ := rfl
    exact ⟨_, executed, delivery_law.2 _ _ _ executed, rfl⟩

end HWPanel.Core
