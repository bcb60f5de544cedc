import HWPanel.Core.BusSubscribers
import HWPanel.Core.TelemetryHistory
import HWPanel.Service.StreamDelivery

/-!
# The history and a stream

`TelemetryHub::Publish` pushes a sample to the history before it looks for subscribers. So
a client that subscribes and then asks for the history misses nothing: what it is sent on
its stream is a block at the end of the history.
-/

namespace HWPanel.Service

open HWPanel.Core
open HWPanel.Library

section

variable {M : Type} {threads capacity : Nat} {self next : Bus threads M}

theorem snapshots_observe {made : Observation threads M}
    (unpublished : ∀ envelope live, made ≠ .published envelope live) :
    snapshots (self.trace ++ [made]) = snapshots self.trace := by
  rw [snapshots, List.filterMap_append]
  cases made with
  | published envelope live => exact absurd rfl (unpublished envelope live)
  | _ => exact List.append_nil _

/-- A `Publish` is put in flight by its snapshot step only. -/
theorem step_unpublished {event : BusEvent threads M} (taken : self.step capacity event = some next)
    (quiet : ∀ thread message, event ≠ .publish thread message) :
    snapshots next.trace = snapshots self.trace ∧
      ∀ thread, self.inFlight thread = none → next.inFlight thread = none := by
  cases Bus.step_transition taken with
  | subscribe => exact ⟨snapshots_observe (fun _ _ same => by cases same), fun _ idle => idle⟩
  | publish thread message _ => exact absurd rfl (quiet thread message)
  | deliver thread publishing id rest busy pending =>
      refine ⟨?_, fun other idle => ?_⟩
      · refine snapshots_observe fun envelope live same => ?_
        split at same
        · cases same
        · cases same
      · have different : other ≠ thread := by
          rintro rfl
          cases idle.symm.trans busy
        exact (Function.update_of_ne different _ _).trans idle
  | finish thread publishing busy done =>
      refine ⟨snapshots_observe (fun _ _ same => by cases same), fun other idle => ?_⟩
      by_cases same : other = thread
      · rw [same]
        exact Function.update_self _ _ _
      · exact (Function.update_of_ne same _ _).trans idle
  | pop id owner => exact ⟨snapshots_observe (fun _ _ same => by cases same), fun _ idle => idle⟩
  | close id owner => exact ⟨snapshots_observe (fun _ _ same => by cases same), fun _ idle => idle⟩
  | release id owner =>
      exact ⟨snapshots_observe (fun _ _ same => by cases same), fun _ idle => idle⟩

/-- The subscribers held are those that were held, and the one created. -/
theorem owned_of_step {event : BusEvent threads M} (taken : self.step capacity event = some next)
    {id : Nat} (owned : id ∈ next.owned) : id ∈ self.owned ∨ id = self.created := by
  cases Bus.step_transition taken with
  | subscribe => exact (List.mem_cons.mp owned).symm
  | publish thread message idle => exact .inl owned
  | deliver thread publishing target rest busy pending => exact .inl owned
  | finish thread publishing busy done => exact .inl owned
  | pop target owner => exact .inl owned
  | close target owner => exact .inl owned
  | release target owner => exact .inl (List.mem_of_mem_erase owned)

theorem created_le_of_step {event : BusEvent threads M}
    (taken : self.step capacity event = some next) : self.created ≤ next.created := by
  cases Bus.step_transition taken with
  | subscribe => exact Nat.le_succ _
  | publish thread message idle => exact le_refl _
  | deliver thread publishing target rest busy pending => exact le_refl _
  | finish thread publishing busy done => exact le_refl _
  | pop target owner => exact le_refl _
  | close target owner => exact le_refl _
  | release target owner => exact le_refl _

/-- A message is found under its number. -/
theorem getElem?_snapshots (underway : self.Underway) {snapshot : Envelope threads M × List Nat}
    (membership : snapshot ∈ snapshots self.trace) :
    (snapshots self.trace)[snapshot.1.number]? = some snapshot := by
  obtain ⟨index, inRange, found⟩ := List.mem_iff_getElem.mp membership
  have numbered : ((snapshots self.trace).map (·.1.number))[index]? = some snapshot.1.number := by
    rw [List.getElem?_map, List.getElem?_eq_getElem inRange, found]
    rfl
  rw [underway.numbered] at numbered
  have same := (List.getElem?_eq_some_iff.mp numbered).2
  rw [List.getElem_range] at same
  rw [← same, List.getElem?_eq_getElem inRange, found]

end

/-- The history has what was published, and the sample that is about to be. -/
structure Leads (events : List (HubEvent 1)) (hub : TelemetryHub 1) : Prop where
  recorded : publishedSamples events =
    (snapshots hub.bus.trace).map (·.1.message) ++ (hub.recorded 0).toList
  idle : hub.recorded 0 ≠ none → hub.bus.inFlight 0 = none

theorem leads_initial (capacity : Nat) : Leads [] (.ofCapacity capacity) where
  recorded := rfl
  idle none := absurd rfl none

@[simp] theorem publishedSamples_snoc (events : List (HubEvent 1)) (event : HubEvent 1) :
    publishedSamples (events ++ [event]) = publishedSamples events ++ event.recorded?.toList := by
  rw [publishedSamples, List.filterMap_append, List.filterMap_cons, List.filterMap_nil]
  cases event.recorded? with
  | none => rfl
  | some sample => rfl

section

variable {events : List (HubEvent 1)} {hub next : TelemetryHub 1}

/-- A step of the bus that does not publish. -/
theorem Leads.bus_step (leads : Leads events hub) {event : HubEvent 1}
    (unrecorded : event.recorded? = none) {busEvent : BusEvent 1 TelemetrySample}
    (quiet : ∀ thread message, busEvent ≠ .publish thread message)
    (taken : hub.busStep busEvent = some next) : Leads (events ++ [event]) next := by
  obtain ⟨bus, busTaken, rfl⟩ := Option.map_eq_some_iff.mp taken
  obtain ⟨same, idle⟩ := step_unpublished busTaken quiet
  constructor
  · rw [publishedSamples_snoc, unrecorded, Option.toList_none, List.append_nil, same]
    exact leads.recorded
  · exact fun pending => idle 0 (leads.idle pending)

theorem Leads.step (leads : Leads events hub) {event : HubEvent 1}
    (taken : hub.step event = some next) : Leads (events ++ [event]) next := by
  cases event with
  | record thread sample =>
      simp only [TelemetryHub.step] at taken
      split at taken
      · rename_i empty idle
        cases taken
        cases Subsingleton.elim thread 0
        constructor
        · rw [publishedSamples_snoc, leads.recorded, empty, Option.toList_none, List.append_nil]
          simp [HubEvent.recorded?]
        · exact fun _ => idle
      · cases taken
  | snapshot thread =>
      simp only [TelemetryHub.step] at taken
      split at taken
      · rename_i sample pending
        cases Subsingleton.elim thread 0
        obtain ⟨bus, busTaken, rfl⟩ := Option.map_eq_some_iff.mp taken
        have idle := leads.idle (by rw [pending]; exact Option.some_ne_none sample)
        simp only [Bus.step, idle] at busTaken
        cases busTaken
        constructor
        · rw [publishedSamples_snoc, leads.recorded, pending]
          simp [HubEvent.recorded?, Bus.publish, snapshots]
        · exact fun pending => absurd (Function.update_self (0 : Fin 1) none hub.recorded) pending
      · cases taken
  | subscribe => exact leads.bus_step rfl (fun _ _ same => by cases same) taken
  | deliver thread => exact leads.bus_step rfl (fun _ _ same => by cases same) taken
  | finish thread => exact leads.bus_step rfl (fun _ _ same => by cases same) taken
  | pop id => exact leads.bus_step rfl (fun _ _ same => by cases same) taken
  | close id => exact leads.bus_step rfl (fun _ _ same => by cases same) taken
  | release id => exact leads.bus_step rfl (fun _ _ same => by cases same) taken

theorem leads_of_run {capacity : Nat}
    (executed : run TelemetryHub.step (.ofCapacity capacity) events = some hub) :
    Leads events hub :=
  run_history Leads (leads_initial capacity) (fun _ _ _ _ leads taken => leads.step taken) executed

end

/-- While its handler holds it, the subscriber has been given everything published since. -/
structure Attached (base id : Nat) (hub : TelemetryHub 1) : Prop where
  sound : hub.bus.Sound TelemetryHub.kSubscriberQueueCapacity
  created : id < hub.bus.created
  upToDate : id ∈ hub.bus.owned → UpToDate base id hub.bus

theorem Attached.step {base id : Nat} {hub next : TelemetryHub 1} (attached : Attached base id hub)
    {event : HubEvent 1} (taken : hub.step event = some next) : Attached base id next := by
  rcases TelemetryHub.step_bus taken with unchanged | ⟨busEvent, -, busTaken⟩
  · constructor
    · exact unchanged ▸ attached.sound
    · exact unchanged ▸ attached.created
    · exact unchanged ▸ attached.upToDate
  · constructor
    · exact attached.sound.step (by decide) busTaken
    · exact attached.created.trans_le (created_le_of_step busTaken)
    · intro owned
      have before := (owned_of_step busTaken owned).resolve_right (Nat.ne_of_lt attached.created)
      exact (attached.upToDate before).step attached.sound (by decide) busTaken fun _ _ => owned

/-- A subscription starts after what was published so far. -/
theorem attached_subscribe {hub : TelemetryHub 1}
    (sound : hub.bus.Sound TelemetryHub.kSubscriberQueueCapacity) :
    Attached hub.bus.published hub.bus.created { hub with bus := hub.bus.subscribe } := by
  have tracked := tracked_subscribe ⟨0, []⟩ sound
  exact ⟨tracked.sound, Nat.lt_succ_self _, fun _ => tracked.upToDate⟩

/-- What a subscription made after the events `front` makes of the history: `base` samples
are none of the stream's, at most one of those pushed before the subscription is. -/
structure HistoryLaw (front events : List (HubEvent 1)) (id base : Nat) (hub : TelemetryHub 1) :
    Prop where
  cut : base ≤ (publishedSamples front).length ∧ (publishedSamples front).length ≤ base + 1
  /-- From there on the history is what was delivered, and at most one more sample unless
  the stream is closed. -/
  block : ∃ rest, publishedSamples events = (publishedSamples events).take base ++
      (deliveredTo id hub.bus.trace).map (·.message) ++ rest ∧
    ((hub.bus.objects id).closed = false → rest.length ≤ 1)
  popped : (poppedBy id hub.bus.trace).Sublist (deliveredTo id hub.bus.trace)
  /-- An answer of `History` that reaches back to the subscription ends with all of it. -/
  answered : ∀ seconds samples, hub.historyOf seconds = some samples →
    (publishedSamples events).length ≤ base + samples.length →
      ∃ older rest, samples = older ++ (deliveredTo id hub.bus.trace).map (·.message) ++ rest ∧
        ((hub.bus.objects id).closed = false → rest.length ≤ 1)

section

variable {base id : Nat} {hub : TelemetryHub 1} {events : List (HubEvent 1)}
  (attached : Attached base id hub) (leads : Leads events hub)
include attached leads

/-- A sample delivered is in the history, at its number. -/
theorem Attached.getElem?_published {sample : Envelope 1 TelemetrySample}
    (delivered : sample ∈ deliveredTo id hub.bus.trace) :
    (publishedSamples events)[sample.number]? = some sample.message := by
  obtain ⟨dropped, observed⟩ := mem_deliveredTo.mp delivered
  obtain ⟨live, published, -⟩ := published_of_delivered attached.sound.lawful observed
  have found := getElem?_snapshots attached.sound.underway (mem_snapshots.mpr published)
  have inRange := (List.getElem?_eq_some_iff.mp found).1
  rw [leads.recorded, List.getElem?_append_left (by rw [List.length_map]; exact inRange),
    List.getElem?_map, found]
  rfl

theorem Attached.messages (owned : id ∈ hub.bus.owned) :
    (deliveredTo id hub.bus.trace).map (·.message) =
      ((publishedSamples events).drop base).take (deliveredTo id hub.bus.trace).length := by
  have numbers := (attached.upToDate owned).numbers
  apply List.ext_getElem?
  intro index
  rw [List.getElem?_map, List.getElem?_take, List.getElem?_drop]
  split
  case isTrue inRange =>
    have numbered := congrArg (fun list => list[index]?) numbers
    simp only [List.getElem?_map, List.getElem?_eq_getElem inRange, List.getElem?_range' inRange,
      Option.map_some, Option.some.injEq, one_mul] at numbered
    rw [List.getElem?_eq_getElem inRange, ← numbered,
      attached.getElem?_published leads (List.getElem_mem inRange)]
    rfl
  case isFalse outside =>
    rw [List.getElem?_eq_none (not_lt.mp outside)]
    rfl

/-- At most one sample is still on its way. -/
theorem Attached.length_le (owned : id ∈ hub.bus.owned)
    (opened : (hub.bus.objects id).closed = false) : (publishedSamples events).length ≤
      base + (deliveredTo id hub.bus.trace).length + 1 := by
  have upToDate := attached.upToDate owned
  have published := attached.sound.underway.length_snapshots
  rw [leads.recorded, List.length_append, List.length_map, published]
  by_cases due : ∃ publishing, hub.bus.inFlight 0 = some publishing ∧ id ∈ publishing.pending
  · obtain ⟨publishing, busy, pending⟩ := due
    have recorded : hub.recorded 0 = none := by
      by_contra some
      cases busy.symm.trans (leads.idle some)
    rw [recorded, ← upToDate.due publishing opened busy pending]
    exact le_refl _
  · have delivered := upToDate.delivered opened fun publishing busy pending =>
      due ⟨publishing, busy, pending⟩
    rw [← delivered]
    cases hub.recorded 0 with
    | none => exact Nat.le_succ _
    | some sample => exact le_refl _

/-- What was delivered is a block of the history. -/
theorem Attached.block (owned : id ∈ hub.bus.owned) :
    ∃ rest, publishedSamples events = (publishedSamples events).take base ++
        (deliveredTo id hub.bus.trace).map (·.message) ++ rest ∧
      ((hub.bus.objects id).closed = false → rest.length ≤ 1) := by
  refine ⟨((publishedSamples events).drop base).drop (deliveredTo id hub.bus.trace).length,
    ?_, fun opened => ?_⟩
  · rw [attached.messages leads owned, List.append_assoc, List.take_append_drop,
      List.take_append_drop]
  · have short := attached.length_le leads owned opened
    rw [List.drop_drop, List.length_drop]
    omega

end

/-- The newest entries, reaching back into a front part. -/
theorem exists_rtake_append {α : Type} (front back : List α) {count : Nat}
    (reaches : back.length ≤ count) : ∃ older, (front ++ back).rtake count = older ++ back := by
  refine ⟨front.drop ((front ++ back).length - count), ?_⟩
  rw [List.rtake, List.drop_append_of_le_length]
  rw [List.length_append]
  omega

/-- A client that subscribes while samples are published, and asks for the history at any
later time, finds what its stream brings at the end of the answer. -/
theorem history_meets_stream {capacity : Nat} (intCapacity : capacity ≤ 2 ^ 31 - 1)
    {front back : List (HubEvent 1)} {before hub : TelemetryHub 1}
    (reached : run TelemetryHub.step (.ofCapacity capacity) front = some before)
    (executed : run TelemetryHub.step before (.subscribe :: back) = some hub)
    (held : before.bus.created ∈ hub.bus.owned) :
    HistoryLaw front (front ++ .subscribe :: back) before.bus.created before.bus.published hub := by
  have whole : run TelemetryHub.step (.ofCapacity capacity) (front ++ .subscribe :: back) =
      some hub := by
    rw [run_append, reached]
    exact executed
  obtain ⟨busEvents, busReached⟩ := TelemetryHub.bus_of_run reached
  have sound := Bus.sound_of_run (by decide) busReached
  have started : Attached before.bus.published before.bus.created
      { before with bus := before.bus.subscribe } := attached_subscribe sound
  have attached : Attached before.bus.published before.bus.created hub :=
    run_invariant (Attached before.bus.published before.bus.created) started
      (fun _ _ _ attached taken => attached.step taken) executed
  have block := attached.block (leads_of_run whole) held
  constructor
  · have leads := leads_of_run reached
    rw [leads.recorded, List.length_append, List.length_map, sound.underway.length_snapshots]
    cases before.recorded 0 with
    | none => exact ⟨Nat.le_add_right _ _, Nat.le_succ _⟩
    | some sample => exact ⟨Nat.le_add_right _ _, le_refl _⟩
  · exact block
  · exact attached.sound.poppedBy_sublist (by decide) _
  · intro seconds samples asked reaches
    obtain ⟨rest, split, short⟩ := block
    rw [TelemetryHub.historyOf_of_run intCapacity whole] at asked
    cases asked
    rw [rtake_length] at reaches
    rw [List.append_assoc] at split
    have lengths := congrArg List.length split
    rw [List.length_append, List.length_take] at lengths
    have reach : ((deliveredTo before.bus.created hub.bus.trace).map (·.message) ++ rest).length ≤
        min (max seconds 0).toNat (if capacity = 0 then 1 else capacity) := by omega
    obtain ⟨older, answer⟩ := exists_rtake_append
      ((publishedSamples (front ++ .subscribe :: back)).take before.bus.published) _ reach
    rw [← split] at answer
    exact ⟨older, rest, by rw [answer, List.append_assoc], short⟩

/-- A subscription between the two steps of a `Publish`: the sample is in the history and on
the stream. -/
theorem history_meets_stream_between : ∃ before hub : TelemetryHub 1,
    run TelemetryHub.step (.ofCapacity 300)
      [.record 0 ⟨1000, []⟩, .snapshot 0, .finish 0, .record 0 ⟨2000, []⟩] = some before ∧
    run TelemetryHub.step before
      [.subscribe, .snapshot 0, .deliver 0, .finish 0, .pop 0] = some hub ∧
    HistoryLaw [.record 0 ⟨1000, []⟩, .snapshot 0, .finish 0, .record 0 ⟨2000, []⟩]
      [.record 0 ⟨1000, []⟩, .snapshot 0, .finish 0, .record 0 ⟨2000, []⟩, .subscribe,
        .snapshot 0, .deliver 0, .finish 0, .pop 0] 0 1 hub ∧
    (poppedBy 0 hub.bus.trace).map (·.message.timestampMs) = [2000] ∧
    (hub.historyOf 60).map (·.map (·.timestampMs)) = some [1000, 2000] := by
  have reached : run TelemetryHub.step (.ofCapacity 300 : TelemetryHub 1)
      [.record 0 ⟨1000, []⟩, .snapshot 0, .finish 0, .record 0 ⟨2000, []⟩] = some _ := rfl
  refine ⟨_, _, reached, rfl, ?_, rfl, rfl⟩
  exact history_meets_stream (by decide) reached rfl List.mem_cons_self

end HWPanel.Service
