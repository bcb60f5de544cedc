import HWPanel.Core.BusDelivery

/-!
# The subscribers of a bus

Nothing but a `Publish` removes an entry from the list of `weak_ptr`s, and it removes
those it cannot lock. So the list is known from the history of the bus, and so is
the first number a subscriber can be delivered.
-/

namespace HWPanel.Core

open HWPanel.Library

variable {threads : Nat} {M : Type}

/-- The steps that change the list: a subscription and the snapshot of a `Publish`. -/
def Observation.lists : Observation threads M → Bool
  | .subscribed _ => true
  | .published _ _ => true
  | _ => false

/-- The subscribers that were created, in order. -/
def subscribedIn (trace : List (Observation threads M)) : List Nat :=
  trace.filterMap fun
    | .subscribed id => some id
    | _ => none

theorem mem_subscribedIn {trace : List (Observation threads M)} {id : Nat} :
    id ∈ subscribedIn trace ↔ .subscribed id ∈ trace := by
  rw [subscribedIn, List.mem_filterMap]
  constructor
  · rintro ⟨made, membership, isSubscription⟩
    cases made <;> cases isSubscription
    exact membership
  · intro membership
    exact ⟨_, membership, rfl⟩

/-- A `Publish` made when `id` was subscribed found it alive. -/
def FoundAlive (id : Nat) (past : List (Observation threads M)) (made : Observation threads M) :
    Prop :=
  ∀ envelope live, made = .published envelope live → .subscribed id ∈ past → AliveIn past id

namespace Bus

variable {capacity : Nat} {self next : Bus threads M} {id : Nat}

/-- The list holds those subscribed that every `Publish` since has found alive. -/
def Lists (bus : Bus threads M) : Prop :=
  ∀ id, id ∈ bus.subscribers ↔
    .subscribed id ∈ bus.trace ∧ AlongHistory (FoundAlive id) bus.trace

theorem lists_initial : Lists ({} : Bus threads M) := by
  intro id
  refine iff_of_false List.not_mem_nil fun subscribed => ?_
  exact absurd subscribed.1 List.not_mem_nil

/-- A step that neither subscribes nor publishes. -/
theorem Lists.frame {made : Observation threads M} (lists : self.Lists)
    (subscribersEq : next.subscribers = self.subscribers)
    (traceEq : next.trace = self.trace ++ [made]) (quiet : made.lists = false) : next.Lists := by
  intro id
  have found : FoundAlive id self.trace made := by
    rintro envelope live rfl
    cases quiet
  have notSubscribed : Observation.subscribed id ≠ made := by
    rintro rfl
    cases quiet
  rw [subscribersEq, traceEq, alongHistory_snoc, List.mem_append, List.mem_singleton,
    or_iff_left notSubscribed, and_iff_left found]
  exact lists id

theorem Lists.transition (lists : self.Lists) (sound : self.Sound capacity)
    {event : BusEvent threads M} (taken : Transition capacity self event next) : next.Lists := by
  cases taken with
  | subscribe =>
      intro id
      have known : FoundAlive id self.trace (.subscribed self.created) :=
        fun envelope live isSnapshot => by cases isSnapshot
      have traceEq : self.subscribe.trace = self.trace ++ [.subscribed self.created] := rfl
      have subscribersEq : self.subscribe.subscribers = self.subscribers ++ [self.created] := rfl
      rw [traceEq, subscribersEq, alongHistory_snoc, and_iff_left known, List.mem_append,
        List.mem_append, List.mem_singleton, List.mem_singleton, lists id]
      have sameId : (.subscribed id : Observation threads M) = .subscribed self.created ↔
          id = self.created :=
        ⟨fun same => by cases same; rfl, fun same => by rw [same]⟩
      rw [sameId]
      constructor
      · rintro (listed | rfl)
        · exact ⟨.inl listed.1, listed.2⟩
        · refine ⟨.inr rfl, ?_⟩
          -- Nobody can have subscribed under a number that was not given yet.
          intro past made future split envelope live isSnapshot subscribed
          have before := List.mem_append_left (made :: future) subscribed
          rw [← split] at before
          exact absurd ((sound.registered.created _).mp before) (Nat.lt_irrefl _)
      · rintro ⟨subscribed | same, along⟩
        · exact .inl ⟨subscribed, along⟩
        · exact .inr same
  | publish thread message idle =>
      intro id
      have traceEq : (self.publish thread message).trace = self.trace ++
          [.published ⟨self.published, thread, message⟩ (self.subscribers.filter self.lock)] :=
        rfl
      have subscribersEq : (self.publish thread message).subscribers =
          self.subscribers.filter self.lock := rfl
      have found : FoundAlive id self.trace (.published ⟨self.published, thread, message⟩
          (self.subscribers.filter self.lock)) ↔
            (.subscribed id ∈ self.trace → AliveIn self.trace id) :=
        ⟨fun found => found _ _ rfl, fun alive _ _ _ => alive⟩
      rw [traceEq, subscribersEq, alongHistory_snoc, found, List.mem_append, List.mem_singleton,
        or_iff_left (by exact fun isNew => by cases isNew), List.mem_filter, lists id,
        lock_iff_aliveIn sound.registered sound.underway]
      constructor
      · rintro ⟨⟨subscribed, along⟩, alive⟩
        exact ⟨subscribed, along, fun _ => alive⟩
      · rintro ⟨subscribed, along, alive⟩
        exact ⟨⟨subscribed, along⟩, alive subscribed⟩
  | deliver thread publishing target rest busy pending =>
      cases opened : (self.objects target).closed with
      | true =>
          rw [deliver_of_closed opened]
          exact lists.frame rfl rfl rfl
      | false =>
          rw [deliver_of_open opened]
          exact lists.frame rfl rfl rfl
  | finish thread publishing busy done => exact lists.frame rfl rfl rfl
  | pop target owner =>
      rw [pop_eq]
      exact lists.frame rfl rfl rfl
  | close target owner => exact lists.frame rfl rfl rfl
  | release target owner => exact lists.frame rfl rfl rfl

theorem lists_of_run (positive : 0 < capacity) {events : List (BusEvent threads M)}
    (executed : run (Bus.step capacity) {} events = some self) : self.Lists := by
  refine (run_invariant (fun bus => bus.Sound capacity ∧ bus.Lists)
    ⟨sound_initial, lists_initial⟩ ?_ executed).2
  rintro before event after ⟨sound, lists⟩ taken
  exact ⟨sound.step positive taken, lists.transition sound (step_transition taken)⟩

/-- Between two snapshots the list only grows by the subscriptions. -/
theorem Lists.length_le (lists : self.Lists) (sound : self.Sound capacity)
    {front back : List (Observation threads M)} {envelope : Envelope threads M}
    {live : List Nat} (split : self.trace = front ++ .published envelope live :: back) :
    self.subscribers.length ≤ live.length + (subscribedIn back).length := by
  rw [← List.length_append]
  apply List.Subperm.length_le
  refine List.subperm_of_subset sound.registered.subscribers_nodup ?_
  intro id listed
  rcases (lists id).mp listed with ⟨subscribed, along⟩
  rw [split, List.mem_append, List.mem_cons] at subscribed
  rw [List.mem_append, mem_subscribedIn]
  rcases subscribed with earlier | isSnapshot | later
  · have alive := along front _ back split envelope live rfl earlier
    exact .inl (((sound.lawful front _ back split).2.2.1 id).mpr alive)
  · cases isSnapshot
  · exact .inr later

/-- Subscriber `id` is in no snapshot with a number below `base`. -/
structure Since (base id : Nat) (bus : Bus threads M) : Prop where
  published : base ≤ bus.published
  held (envelope : Envelope threads M) (live : List Nat) :
    .published envelope live ∈ bus.trace → id ∈ live → base ≤ envelope.number

/-- A subscriber is created after every snapshot so far. -/
theorem Sound.since_subscribe (sound : self.Sound capacity) :
    Since self.published self.created self.subscribe := by
  constructor
  · exact Nat.le_refl _
  · intro envelope live published held
    have traceEq : self.subscribe.trace = self.trace ++ [.subscribed self.created] := rfl
    rw [traceEq, List.mem_append, List.mem_singleton] at published
    rcases published with before | isNew
    · rcases List.append_of_mem before with ⟨past, future, split⟩
      have alive := ((sound.lawful past _ future split).2.2.1 self.created).mp held
      have created := List.mem_append_left (.published envelope live :: future) alive.1
      rw [← split] at created
      exact absurd ((sound.registered.created _).mp created) (Nat.lt_irrefl _)
    · cases isNew

theorem Underway.length_snapshots (underway : self.Underway) :
    (snapshots self.trace).length = self.published := by
  have numbered := congrArg List.length underway.numbered
  rwa [List.length_map, List.length_range] at numbered

/-- What was published stays published. -/
theorem Sound.step_published (sound : self.Sound capacity) (positive : 0 < capacity)
    {event : BusEvent threads M} (taken : self.step capacity event = some next) :
    self.published ≤ next.published ∧ self.trace <+: next.trace := by
  rcases sound.lawful_step positive (step_transition taken) with ⟨made, traceEq, -⟩
  have before := sound.underway.length_snapshots
  have after := (sound.step positive taken).underway.length_snapshots
  rw [traceEq, snapshots, List.filterMap_append, List.length_append] at after
  constructor
  · rw [← after, ← before]
    exact Nat.le_add_right _ _
  · rw [traceEq]
    exact List.prefix_append _ _

theorem Since.step {base : Nat} (since : self.Since base id) (sound : self.Sound capacity)
    (positive : 0 < capacity) {event : BusEvent threads M}
    (taken : self.step capacity event = some next) : next.Since base id := by
  rcases sound.lawful_step positive (step_transition taken) with ⟨made, traceEq, lawful⟩
  constructor
  · exact Nat.le_trans since.published (sound.step_published positive taken).1
  · intro envelope live published held
    rw [traceEq, List.mem_append, List.mem_singleton] at published
    rcases published with earlier | rfl
    · exact since.held envelope live earlier held
    · rw [lawful.1, sound.underway.length_snapshots]
      exact since.published

/-- A message delivered was published, and not before the subscription. -/
theorem Since.delivered {base : Nat} (since : self.Since base id) (sound : self.Sound capacity)
    {envelope : Envelope threads M} (delivered : envelope ∈ deliveredTo id self.trace) :
    base ≤ envelope.number ∧ envelope.number < self.published := by
  rcases mem_deliveredTo.mp delivered with ⟨dropped, observed⟩
  rcases published_of_delivered sound.lawful observed with ⟨live, published, held⟩
  refine ⟨since.held envelope live published held, ?_⟩
  exact sound.underway.number_lt (mem_snapshots.mpr published)

/-- Subscriber `id` is held by its owner and in every snapshot since it was created. -/
structure Attends (id : Nat) (bus : Bus threads M) : Prop where
  owned : id ∈ bus.owned
  attended : AlongHistory (fun past made => ∀ envelope live, made = .published envelope live →
    .subscribed id ∈ past → id ∈ live) bus.trace

theorem Sound.attends_subscribe (sound : self.Sound capacity) :
    Attends self.created self.subscribe := by
  constructor
  · exact List.mem_cons_self
  · have traceEq : self.subscribe.trace = self.trace ++ [.subscribed self.created] := rfl
    rw [traceEq, alongHistory_snoc]
    refine ⟨?_, fun envelope live isSnapshot => by cases isSnapshot⟩
    intro past made future split envelope live isSnapshot subscribed
    have before := List.mem_append_left (made :: future) subscribed
    rw [← split] at before
    exact absurd ((sound.registered.created _).mp before) (Nat.lt_irrefl _)

/-- A subscriber attends the snapshots while its owner holds it. -/
theorem Attends.step (attends : self.Attends id) (sound : self.Sound capacity)
    (positive : 0 < capacity) {event : BusEvent threads M}
    (taken : self.step capacity event = some next) (owned : id ∈ next.owned) :
    next.Attends id := by
  rcases sound.lawful_step positive (step_transition taken) with ⟨made, traceEq, lawful⟩
  constructor
  · exact owned
  · rw [traceEq, alongHistory_snoc]
    refine ⟨attends.attended, ?_⟩
    rintro envelope live rfl subscribed
    have registered := (sound.registered.owned id).mp attends.owned
    exact (lawful.2.2.1 id).mpr ⟨registered.1, .inl registered.2⟩

/-- A `Publish` that has returned since then delivered to it, unless it was closed. -/
theorem Attends.delivered (attends : self.Attends id) (sound : self.Sound capacity)
    {past future : List (Observation threads M)} {envelope : Envelope threads M}
    {live : List Nat} (split : self.trace = past ++ .published envelope live :: future)
    (subscribed : .subscribed id ∈ past) (completed : .completed envelope ∈ self.trace)
    (accepted : .refused id envelope ∉ self.trace) : envelope ∈ deliveredTo id self.trace := by
  have published : .published envelope live ∈ self.trace := by
    rw [split]
    exact List.mem_append_right _ List.mem_cons_self
  have held := attends.attended past _ future split envelope live rfl subscribed
  rw [← sound.handled_eq published completed] at held
  rcases mem_handled.mp held with ⟨sent, sameNumber, ⟨dropped, delivered⟩ | refused⟩
  · rw [← (sound.same_of_delivered delivered published sameNumber).1]
    exact mem_deliveredTo.mpr ⟨dropped, delivered⟩
  · rw [sound.same_of_refused refused published sameNumber] at refused
    exact absurd refused accepted

end Bus

/-- No message twice, and those of one publisher in the order it published them. -/
structure OnceInOrder (messages : List (Envelope threads M)) : Prop where
  inOrder : InPublishOrder messages
  once : (messages.map (·.number)).Nodup

namespace OnceInOrder

theorem nil : OnceInOrder ([] : List (Envelope threads M)) := ⟨.nil, .nil⟩

theorem sublist {messages fewer : List (Envelope threads M)} (ordered : OnceInOrder messages)
    (isSublist : fewer.Sublist messages) : OnceInOrder fewer :=
  ⟨ordered.inOrder.sublist isSublist, ordered.once.sublist (isSublist.map _)⟩

/-- Messages numbered from `base` on may follow those numbered below it. -/
theorem append {front back : List (Envelope threads M)} (frontOrdered : OnceInOrder front)
    (backOrdered : OnceInOrder back) {base : Nat} (below : ∀ message ∈ front, message.number < base)
    (above : ∀ message ∈ back, base ≤ message.number) : OnceInOrder (front ++ back) := by
  have apart : ∀ earlier ∈ front, ∀ later ∈ back, earlier.number < later.number :=
    fun earlier inFront later inBack =>
      Nat.lt_of_lt_of_le (below earlier inFront) (above later inBack)
  constructor
  · refine List.pairwise_append.mpr ⟨frontOrdered.inOrder, backOrdered.inOrder, ?_⟩
    intro earlier inFront later inBack _
    exact apart earlier inFront later inBack
  · rw [List.map_append, List.nodup_append]
    refine ⟨frontOrdered.once, backOrdered.once, ?_⟩
    intro first inFront second inBack same
    obtain ⟨earlier, earlierMem, rfl⟩ := List.mem_map.mp inFront
    obtain ⟨later, laterMem, rfl⟩ := List.mem_map.mp inBack
    exact Nat.ne_of_lt (apart earlier earlierMem later laterMem) same

end OnceInOrder

/-- What the owner of a subscriber has popped. -/
theorem Bus.Sound.onceInOrder_popped {capacity : Nat} {bus : Bus threads M}
    (sound : bus.Sound capacity) (positive : 0 < capacity) (id : Nat) :
    OnceInOrder (poppedBy id bus.trace) :=
  OnceInOrder.sublist ⟨sound.inOrder id, sound.delivered_distinct id⟩
    (sound.poppedBy_sublist positive id)

/-- The list of a bus, as the history of the bus tells. -/
structure ListingLaw (bus : Bus threads M) : Prop where
  /-- It holds those subscribed that every `Publish` since has found alive, once. -/
  listed (id : Nat) : id ∈ bus.subscribers ↔
    .subscribed id ∈ bus.trace ∧ AlongHistory (FoundAlive id) bus.trace
  distinct : bus.subscribers.Nodup
  /-- So it never lacks one that is alive. -/
  alive (id : Nat) : AliveIn bus.trace id → id ∈ bus.subscribers
  /-- And is no longer than those alive at a `Publish` and those subscribed since. -/
  bounded (front back : List (Observation threads M)) (envelope : Envelope threads M)
    (live : List Nat) : bus.trace = front ++ .published envelope live :: back →
      bus.subscribers.length ≤ live.length + (subscribedIn back).length

/-- After any run of a bus its list of subscribers is as its history tells. -/
theorem subscribers_listed {capacity : Nat} (positive : 0 < capacity)
    {events : List (BusEvent threads M)} {bus : Bus threads M}
    (executed : run (Bus.step capacity) {} events = some bus) : ListingLaw bus := by
  have sound := Bus.sound_of_run positive executed
  have lists := Bus.lists_of_run positive executed
  constructor
  · exact lists
  · exact sound.registered.subscribers_nodup
  · intro id alive
    apply sound.registered.listed
    exact (Bus.lock_iff_aliveIn sound.registered sound.underway id).mpr alive
  · intro front back envelope live split
    exact lists.length_le sound split

/-- A subscriber that was dropped stays listed until the next `Publish`. -/
theorem subscribers_listed_dropped : ∃ quiet pruned : Bus 1 Nat,
    run (Bus.step 1) {} [.subscribe, .release 0, .subscribe] = some quiet ∧
      quiet.subscribers = [0, 1] ∧ ListingLaw quiet ∧
    run (Bus.step 1) {} [.subscribe, .release 0, .subscribe, .publish 0 7] = some pruned ∧
      pruned.subscribers = [1] ∧ ListingLaw pruned := by
  have quiet : run (Bus.step 1) ({} : Bus 1 Nat) [.subscribe, .release 0, .subscribe] =
      some _ := rfl
  have pruned : run (Bus.step 1) ({} : Bus 1 Nat)
      [.subscribe, .release 0, .subscribe, .publish 0 7] = some _ := rfl
  refine ⟨_, _, quiet, rfl, subscribers_listed (by decide) quiet, pruned, ?_, ?_⟩
  · decide
  · exact subscribers_listed (by decide) pruned

end HWPanel.Core
