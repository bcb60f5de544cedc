import HWPanel.Client.Reconnection
import HWPanel.Client.TelemetryStore
import HWPanel.Service.StreamDelivery

/-!
# Charts across reconnections

`TelemetryLoop` emits what it reads of one `Subscribe` stream after the other, and the UI
thread hands it to `TelemetryStore::HandleSample`.
-/

namespace HWPanel.Client

open HWPanel.Core HWPanel.Service HWPanel.Library

/-- A client's loop on the telemetry bus, which has one publisher, the pipeline. -/
abbrev TelemetryChannel := Channel 1 TelemetrySample V1.TelemetrySample TelemetrySample

/-- The charts, on the UI thread that has taken `handled` of the `SampleReceived` signals. -/
structure TelemetryScreen where
  channel : TelemetryChannel := {}
  handled : Nat := 0
  store : TelemetryStore := {}

inductive ScreenEvent where
  | channel (event : ChannelEvent 1 TelemetrySample V1.TelemetrySample)
  | handleSample

def ScreenEvent.opens : ScreenEvent → Bool
  | .channel event => event.opens
  | .handleSample => false

namespace TelemetryScreen

variable (request : V1.SubscribeTelemetryRequest) (self : TelemetryScreen)

def step : ScreenEvent → Option TelemetryScreen
  | .channel event =>
      (self.channel.step (subscribeTelemetry request) event).map fun channel =>
        { self with channel }
  | .handleSample =>
      match self.channel.client.emitted[self.handled]? with
      | some sample => some
          { self with
            handled := self.handled + 1
            store := self.store.handleSample sample }
      | none => none

/-- The `SampleReceived` signals emitted so far. -/
abbrev emitted : List TelemetrySample := self.channel.client.emitted

/-- The charts after these events from the start. -/
abbrev after (events : List ScreenEvent) : Option TelemetryScreen :=
  run (fun screen => TelemetryScreen.step request screen) {} events

/-- `decimate` apart are the samples read in a part of the run that opens no stream. -/
def ApartOnStreams (events : List ScreenEvent) (read : List (Envelope 1 TelemetrySample)) :
    Prop :=
  ∀ before during start last, before ++ during <+: events →
    (∀ event ∈ during, event.opens = false) →
    after request before = some start → after request (before ++ during) = some last →
    (sampleNumbers 0 ((read.take last.emitted.length).drop start.emitted.length)).Pairwise
      fun earlier later => earlier + decimate request ≤ later

/-- What the charts show of the samples read over all calls. -/
structure ScreenLaw (events : List ScreenEvent) (read : List (Envelope 1 TelemetrySample))
    (screen : TelemetryScreen) : Prop where
  emitted : screen.emitted = read.map fun sample =>
    filteredSample request.metricFilter sample.message
  /-- The samples read were published, one after the other and none twice. -/
  increasing : (sampleNumbers 0 read).Pairwise (· < ·)
  published : ∀ sample ∈ read, ∃ live, .published sample live ∈ screen.channel.bus.trace
  apart : ApartOnStreams request events read
  queued : screen.handled ≤ read.length
  /-- Each chart holds the last points of the samples handled. -/
  charts (series : Series) : (screen.store.series series).values =
    ((read.take screen.handled).flatMap fun sample =>
      series.points (filteredSample request.metricFilter sample.message).metrics).rtake 60

variable {request} {self}

/-- Messages of the one publisher come with increasing numbers. -/
theorem increasing_of_onceInOrder {samples : List (Envelope 1 TelemetrySample)}
    (ordered : OnceInOrder samples) : (sampleNumbers 0 samples).Pairwise (· < ·) :=
  List.pairwise_map.mpr (ordered.inOrder.imp fun inOrder => inOrder (Subsingleton.elim _ _))

/-- Every `decimate`-th sample popped was written on the current stream. -/
theorem apart_of_tracks {earlier session wire : List (Envelope 1 TelemetrySample)}
    {channel : TelemetryChannel}
    (tracks : channel.Tracks (subscribeTelemetry request) earlier session wire) :
    (sampleNumbers 0 session).Pairwise fun earlier later =>
      earlier + decimate request ≤ later := by
  cases found : channel.handler with
  | none =>
      rw [(tracks.unserved found).1]
      exact .nil
  | some handler =>
      have popped := tracks.sound.onceInOrder_popped (subscribeTelemetry request).capacity_pos
        handler.subscriber
      have apart := everyNth_apart (decimate_pos request) (increasing_of_onceInOrder popped)
      rw [sampleNumbers, everyNth_map] at apart
      exact apart.sublist ((tracks.served handler found).sublist_everyNth.map _)

/-- The charts have seen the first of the samples emitted. -/
structure Handles (screen : TelemetryScreen) : Prop where
  queued : screen.handled ≤ screen.emitted.length
  store : screen.store =
    (screen.emitted.take screen.handled).foldl TelemetryStore.handleSample {}

theorem Handles.step {event : ScreenEvent} {next : TelemetryScreen}
    (handles : Handles self) (taken : self.step request event = some next) : Handles next := by
  cases event with
  | channel event =>
      obtain ⟨channel, channelTaken, rfl⟩ := Option.map_eq_some_iff.mp taken
      obtain ⟨queued, taken⟩ := Channel.queued_step channelTaken handles.queued
      constructor
      · exact queued
      · rw [emitted, taken]
        exact handles.store
  | handleSample =>
      simp only [TelemetryScreen.step] at taken
      split at taken
      · rename_i sample queued
        cases taken
        obtain ⟨inQueue, -⟩ := List.getElem?_eq_some_iff.mp queued
        constructor
        · exact inQueue
        · rw [handles.store]
          simp only [List.take_add_one, queued, List.foldl_append]
          rfl
      · cases taken

/-- The signals emitted stay, and the samples read are those of the streams before and of
the current one, whatever the slot does. -/
theorem reads_of_step {earlier session wire : List (Envelope 1 TelemetrySample)}
    {event : ScreenEvent} {next : TelemetryScreen}
    (tracks : self.channel.Tracks (subscribeTelemetry request) earlier session wire)
    (taken : self.step request event = some next) :
    self.emitted.length ≤ next.emitted.length ∧
      ((event.opens = true ∧
          next.channel.Tracks (subscribeTelemetry request) (earlier ++ session) [] []) ∨
        ∃ read wire,
          next.channel.Tracks (subscribeTelemetry request) earlier (session ++ read) wire) := by
  cases event with
  | channel event =>
      obtain ⟨channel, channelTaken, rfl⟩ := Option.map_eq_some_iff.mp taken
      exact ⟨(Channel.emitted_extends channelTaken).length_le, tracks.step channelTaken⟩
  | handleSample =>
      simp only [TelemetryScreen.step] at taken
      split at taken
      · cases taken
        refine ⟨Nat.le_refl _, .inr ⟨[], wire, ?_⟩⟩
        rw [List.append_nil]
        exact tracks
      · cases taken

variable (request) in
/-- The samples read in a run, those of the current stream last. -/
structure Reads (past : List ScreenEvent) (earlier session : List (Envelope 1 TelemetrySample))
    (screen : TelemetryScreen) : Prop where
  reached : after request past = some screen
  tracks : ∃ wire, screen.channel.Tracks (subscribeTelemetry request) earlier session wire
  /-- The samples of the streams before were read when the current one was opened. -/
  since : ∀ before during start, before ++ during = past →
    (∀ event ∈ during, event.opens = false) → after request before = some start →
    earlier.length ≤ start.emitted.length
  below : ∀ front state, front <+: past → after request front = some state →
    state.emitted.length ≤ screen.emitted.length
  apart : ApartOnStreams request past (earlier ++ session)

variable (request) in
theorem reads_initial : Reads request [] [] [] {} where
  reached := rfl
  tracks := ⟨[], Channel.tracks_initial⟩
  since _ _ start _ _ _ := Nat.zero_le start.emitted.length
  below front state isPrefix reached := by
    rw [List.prefix_nil.mp isPrefix] at reached
    cases reached
    exact Nat.le_refl _
  apart before during start last _ _ _ _ := by
    simp [sampleNumbers]

theorem Reads.emitted_length {past : List ScreenEvent}
    {earlier session : List (Envelope 1 TelemetrySample)}
    (reads : Reads request past earlier session self) :
    self.emitted.length = (earlier ++ session).length := by
  obtain ⟨wire, tracks⟩ := reads.tracks
  rw [emitted, tracks.emitted, List.length_map]

/-- One more event, by which more is read on the current stream or a new one is opened. -/
theorem Reads.extend {past : List ScreenEvent} {event : ScreenEvent} {next : TelemetryScreen}
    {earlier session earlier' session' : List (Envelope 1 TelemetrySample)}
    (reads : Reads request past earlier session self)
    (taken : self.step request event = some next)
    (grows : self.emitted.length ≤ next.emitted.length)
    (tracks : ∃ wire,
      next.channel.Tracks (subscribeTelemetry request) earlier' session' wire)
    (more : earlier ++ session <+: earlier' ++ session')
    (kept : event.opens = false → earlier' = earlier)
    (all : earlier'.length ≤ next.emitted.length) :
    Reads request (past ++ [event]) earlier' session' next := by
  have reached : after request (past ++ [event]) = some next := by
    have before : run (fun screen => TelemetryScreen.step request screen) {} past = some self :=
      reads.reached
    rw [after, run_append, before, Option.bind_some, run_cons, taken]
    rfl
  have since : ∀ before during start, before ++ during = past ++ [event] →
      (∀ event ∈ during, event.opens = false) → after request before = some start →
      earlier'.length ≤ start.emitted.length := by
    intro before during start split noOpening started
    rcases List.eq_nil_or_concat during with rfl | ⟨rest, last, rfl⟩
    · rw [List.append_nil] at split
      rw [split, reached] at started
      cases started
      exact all
    · rw [List.concat_eq_append, ← List.append_assoc] at split
      obtain ⟨front, lastEq⟩ := List.append_inj' split rfl
      cases lastEq
      rw [List.concat_eq_append] at noOpening
      rw [kept (noOpening event (by simp))]
      exact reads.since before rest start front
        (fun other member => noOpening other (List.mem_append_left _ member)) started
  constructor
  · exact reached
  · exact tracks
  · exact since
  · intro front state isPrefix stateReached
    rcases List.prefix_concat_iff.mp isPrefix with rfl | inPast
    · rw [reached] at stateReached
      cases stateReached
      exact Nat.le_refl _
    · exact (reads.below front state inPast stateReached).trans grows
  · intro before during start last isPrefix noOpening started lastReached
    rcases List.prefix_concat_iff.mp isPrefix with whole | inPast
    · -- What is read last is from the current stream.
      obtain ⟨wire, tracks⟩ := tracks
      have onStream := since before during start whole noOpening started
      rw [List.drop_take, List.drop_append, List.drop_of_length_le onStream, List.nil_append]
      have part := (List.take_sublist (last.emitted.length - start.emitted.length) _).trans
        (List.drop_sublist (start.emitted.length - earlier'.length) session')
      exact (apart_of_tracks tracks).sublist (part.map _)
    · have within := reads.below _ last inPast lastReached
      rw [reads.emitted_length] at within
      obtain ⟨later, readEq⟩ := more
      rw [← readEq, List.take_append_of_le_length within]
      exact reads.apart before during start last inPast noOpening started lastReached

theorem Reads.step {past : List ScreenEvent} {event : ScreenEvent} {next : TelemetryScreen}
    {earlier session : List (Envelope 1 TelemetrySample)}
    (reads : Reads request past earlier session self)
    (taken : self.step request event = some next) :
    ∃ earlier session, Reads request (past ++ [event]) earlier session next := by
  obtain ⟨wire, tracks⟩ := reads.tracks
  obtain ⟨grows, ⟨opens, opened⟩ | ⟨read, wire, after⟩⟩ := reads_of_step tracks taken
  · refine ⟨earlier ++ session, [], reads.extend taken grows ⟨_, opened⟩ ?_ ?_ ?_⟩
    · rw [List.append_nil]
    · intro notOpened
      cases opens.symm.trans notOpened
    · rw [← reads.emitted_length]
      exact grows
  · refine ⟨earlier, session ++ read, reads.extend taken grows ⟨_, after⟩ ?_ (fun _ => rfl) ?_⟩
    · rw [← List.append_assoc]
      exact List.prefix_append _ _
    · rw [reads.emitted_length, List.length_append] at grows
      omega

/-- The law of a run, from its streams and from the slot. -/
theorem law_of_reads {events : List ScreenEvent}
    {earlier session : List (Envelope 1 TelemetrySample)}
    (reads : Reads request events earlier session self) (handles : Handles self) :
    ScreenLaw request events (earlier ++ session) self := by
  obtain ⟨wire, tracks⟩ := reads.tracks
  obtain ⟨ordered, published⟩ := tracks.received
  have signal : ∀ sample : Envelope 1 TelemetrySample,
      (subscribeTelemetry request).signal sample =
        filteredSample request.metricFilter sample.message :=
    fun sample => receivedSample_toProto request.metricFilter sample.message
  have emitted : self.emitted = (earlier ++ session).map fun sample =>
      filteredSample request.metricFilter sample.message :=
    tracks.emitted.trans (List.map_congr_left fun sample _ => signal sample)
  constructor
  · exact emitted
  · exact increasing_of_onceInOrder ordered
  · exact fun sample member => (published sample member).2
  · exact reads.apart
  · rw [← reads.emitted_length]
    exact handles.queued
  · intro series
    rw [handles.store, emitted, ← List.map_take, TelemetryStore.values_foldl_handleSample,
      List.flatMap_map]

end TelemetryScreen

/-- Whatever happens to the streams of a client, its charts show the last points of
distinct samples in the order of their publication. -/
theorem charts_across_reconnects {request : V1.SubscribeTelemetryRequest}
    {events : List ScreenEvent} {screen : TelemetryScreen}
    (executed : TelemetryScreen.after request events = some screen) :
    ∃ read, TelemetryScreen.ScreenLaw request events read screen := by
  obtain ⟨⟨earlier, session, reads⟩, handles⟩ :=
    run_history
      (fun past screen =>
        (∃ earlier session,
          TelemetryScreen.Reads request past earlier session screen) ∧
        TelemetryScreen.Handles screen)
      ⟨⟨[], [], TelemetryScreen.reads_initial request⟩, Nat.le_refl _, rfl⟩
      (fun past before event after holds taken => by
        obtain ⟨⟨earlier, session, reads⟩, handles⟩ := holds
        exact ⟨reads.step taken, handles.step taken⟩) executed
  exact ⟨earlier ++ session, TelemetryScreen.law_of_reads reads handles⟩

/-- A chart with a gap where the stream was lost. -/
theorem charts_across_reconnects_gap : ∃ events screen,
    TelemetryScreen.after ⟨0, []⟩ events = some screen ∧
    screen.store.cpuUsage.values = [12, 13] ∧
    ∃ read, TelemetryScreen.ScreenLaw ⟨0, []⟩ events read screen := by
  have executed : TelemetryScreen.after ⟨0, []⟩
      ((reconnecting ⟨1000, [⟨"cpu.usage_pct", 12, "percent"⟩]⟩
          ⟨2000, [⟨"cpu.usage_pct", 60, "percent"⟩]⟩
          ⟨3000, [⟨"cpu.usage_pct", 13, "percent"⟩]⟩).map .channel ++
        [.handleSample, .handleSample]) = some _ := rfl
  exact ⟨_, _, executed, rfl, charts_across_reconnects executed⟩

end HWPanel.Client
