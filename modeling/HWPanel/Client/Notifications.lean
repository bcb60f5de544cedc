import HWPanel.Client.NotificationModel
import HWPanel.Client.Reconnection

/-!
# Notifications from the event bus to the screen

`EventsLoop` emits what it reads of the `WatchEvents` streams, and the UI thread appends it
to the notification list, among the results of the user's own switches.
-/

namespace HWPanel.Client

open HWPanel.Core HWPanel.Service HWPanel.Library

variable {threads : Nat}

/-- A client's loop on the event bus. -/
abbrev EventChannel (threads : Nat) := Channel threads EventMessage V1.EventMessage EventMessage

namespace EventChannel

/-- The event reached the handler's subscriber, and is not lost: it was read, is on its way
or in the handler's hand, waits in the queue, or was dropped from it for newer ones. -/
def Accounted (session wire : List (Envelope threads EventMessage))
    (channel : EventChannel threads) (handler : StreamHandler threads EventMessage)
    (event : Envelope threads EventMessage) : Prop :=
  event ∈ session ++ wire ++ handler.unwritten.toList ∨
    event ∈ droppedFrom handler.subscriber channel.bus.trace ∨
      event ∈ (channel.bus.objects handler.subscriber).queue

/-- What a client has read of its earlier calls and of the current one, and what is on its
way to it. -/
structure EventLaw (earlier session wire : List (Envelope threads EventMessage))
    (channel : EventChannel threads) : Prop where
  emitted : channel.client.emitted = (earlier ++ session).map (·.message)
  ordered : OnceInOrder (earlier ++ session)
  published : ∀ event ∈ earlier ++ session, ∃ live, .published event live ∈ channel.bus.trace
  /-- On a stream that is up, what was read, sent and taken up is what was popped. -/
  current (handler : StreamHandler threads EventMessage) : channel.handler = some handler →
    channel.client.connected = true →
      session ++ wire ++ handler.unwritten.toList =
        poppedBy handler.subscriber channel.bus.trace ∧
      channel.client.stream.inFlight = wire.map fun event => eventToProto event.message
  /-- Nothing that was published since the server took the call is lost on such a stream. -/
  complete (handler : StreamHandler threads EventMessage) : channel.handler = some handler →
    channel.client.connected = true → handler.phase ≠ .returned →
      ∀ past event live future, channel.bus.trace = past ++ .published event live :: future →
        .subscribed handler.subscriber ∈ past → .completed event ∈ channel.bus.trace →
          .refused handler.subscriber event ∉ channel.bus.trace →
            Accounted session wire channel handler event

end EventChannel

/-- Decimation by one keeps everything. -/
@[simp] theorem everyNth_one {α : Type} (elements : List α) : everyNth 1 elements = elements := by
  induction elements using List.reverseRecOn with
  | nil => rfl
  | append_singleton front last ih => rw [everyNth_snoc, ih, Nat.mod_one, if_pos rfl]

namespace EventChannel

theorem law_of_tracks {earlier session wire : List (Envelope threads EventMessage)}
    {channel : EventChannel threads}
    (tracks : channel.Tracks watchEvents earlier session wire) :
    EventLaw earlier session wire channel := by
  obtain ⟨ordered, published⟩ := tracks.received
  have popped : ∀ handler, channel.handler = some handler → channel.client.connected = true →
      session ++ wire ++ handler.unwritten.toList =
        poppedBy handler.subscriber channel.bus.trace := by
    intro handler found connected
    have serves := tracks.served handler found
    have decimated := serves.follows.decimated
    have decimation : watchEvents.decimate = 1 := rfl
    rw [decimation, everyNth_one] at decimated
    rw [serves.intact connected, decimated]
  constructor
  · exact tracks.emitted
  · exact ordered
  · exact fun event member => (published event member).2
  · exact fun handler found connected => ⟨popped handler found connected, tracks.inFlight⟩
  · intro handler found connected running past event live future split subscribed completed
      accepted
    have attends := (tracks.served handler found).attends running
    have delivered := attends.delivered tracks.sound split subscribed completed accepted
    have accounted := (tracks.sound.balanced watchEvents.capacity_pos
      handler.subscriber).accounted.mem_iff.mp delivered
    rw [Accounted, popped handler found connected]
    simpa [or_assoc] using accounted

end EventChannel

/-- Whatever publishers, other subscribers, handlers and connections do, a client reads
distinct events in their order, and misses none on a stream that is up. -/
theorem events_across_reconnects
    {events : List (ChannelEvent threads EventMessage V1.EventMessage)}
    {channel : EventChannel threads}
    (executed : run (fun channel => Channel.step watchEvents channel) {} events =
      some channel) :
    ∃ earlier session wire, EventChannel.EventLaw earlier session wire channel := by
  obtain ⟨earlier, session, wire, tracks⟩ := Channel.tracked_of_run executed
  exact ⟨earlier, session, wire, EventChannel.law_of_tracks tracks⟩

/-- A switch, the loss of the stream, a switch that is missed, and one after it. -/
def switchesSeen : List (ChannelEvent 1 EventMessage V1.EventMessage) :=
  reconnecting ⟨1000, "info", "Profile applied", "Night"⟩
    ⟨2000, "info", "Profile applied", "Day"⟩
    ⟨3000, "info", "Profile applied", "Balanced"⟩

theorem events_across_reconnects_missed : ∃ channel,
    run (fun channel => Channel.step watchEvents channel) {} switchesSeen = some channel ∧
    channel.client.emitted.map (·.timestampMs) = [1000, 3000] ∧
    ∃ earlier session wire, EventChannel.EventLaw earlier session wire channel := by
  have executed : run (fun channel => Channel.step watchEvents channel) {} switchesSeen =
      some _ := rfl
  exact ⟨_, executed, rfl, events_across_reconnects executed⟩

/-- A call of a slot of the list on the UI thread: of `Append` for an `EventReceived` or by
the lambda that `main` connects to `SwitchResult`, or of `Clear`. -/
inductive SlotCall where
  | received (event : EventMessage)
  | switchResult (now : Int) (ok : Bool) (message : String)
  | clear

/-- The event that the lambda makes of a result. -/
def switchResultEvent (now : Int) (ok : Bool) (message : String) : EventMessage where
  timestampMs := now
  level := if ok then "info" else "warn"
  title := if ok then "Profile switch" else "Profile switch failed"
  message := message

namespace SlotCall

def op : SlotCall → NotificationModel.Op
  | .received event => .append event
  | .switchResult now ok message => .append (switchResultEvent now ok message)
  | .clear => .clear

def received? : SlotCall → Option EventMessage
  | .received event => some event
  | _ => none

end SlotCall

/-- The list on the UI thread, which has taken `handled` of the queued `EventReceived`
signals; `calls` are the slots it has run. -/
structure NotificationCenter (threads : Nat) where
  channel : EventChannel threads := {}
  handled : Nat := 0
  calls : List SlotCall := []
  model : NotificationModel := {}

inductive CenterEvent (threads : Nat) where
  | channel (event : ChannelEvent threads EventMessage V1.EventMessage)
  | handleEvent
  | switchResult (now : Int) (ok : Bool) (message : String)
  | clear

namespace NotificationCenter

variable (formatTime : Int → String) (self : NotificationCenter threads)

def call (slot : SlotCall) : NotificationCenter threads :=
  { self with
    calls := self.calls ++ [slot]
    model := self.model.apply formatTime slot.op }

def step : CenterEvent threads → Option (NotificationCenter threads)
  | .channel event => (self.channel.step watchEvents event).map fun channel =>
      { self with channel }
  | .handleEvent =>
      match self.channel.client.emitted[self.handled]? with
      | some event =>
          some ({ self with handled := self.handled + 1 }.call formatTime (.received event))
      | none => none
  | .switchResult now ok message =>
      some (self.call formatTime (.switchResult now ok message))
  | .clear => some (self.call formatTime .clear)

/-- The signals handled are the first of those emitted, and the model has run the slots. -/
structure Handles (center : NotificationCenter threads) : Prop where
  tracked : center.channel.Tracked watchEvents
  queued : center.handled ≤ center.channel.client.emitted.length
  received : center.calls.filterMap SlotCall.received? =
    center.channel.client.emitted.take center.handled
  model : center.model = NotificationModel.after formatTime (center.calls.map SlotCall.op)

variable {formatTime} {self}

theorem model_call (model : self.model = .after formatTime (self.calls.map SlotCall.op))
    (slot : SlotCall) : (self.call formatTime slot).model =
      .after formatTime ((self.call formatTime slot).calls.map SlotCall.op) := by
  rw [call, List.map_append, NotificationModel.after, List.foldl_append,
    ← NotificationModel.after, ← model]
  rfl

/-- A slot that is not connected to `EventReceived`. -/
theorem Handles.call (handles : Handles formatTime self) {slot : SlotCall}
    (other : slot.received? = none) : Handles formatTime (self.call formatTime slot) := by
  constructor
  · exact handles.tracked
  · exact handles.queued
  · have received := handles.received
    rw [NotificationCenter.call, List.filterMap_append, received]
    simp [other]
  · exact model_call handles.model slot

theorem Handles.step {event : CenterEvent threads} {next : NotificationCenter threads}
    (handles : Handles formatTime self) (taken : self.step formatTime event = some next) :
    Handles formatTime next := by
  cases event with
  | channel event =>
      obtain ⟨channel, channelTaken, rfl⟩ := Option.map_eq_some_iff.mp taken
      obtain ⟨queued, taken⟩ := Channel.queued_step channelTaken handles.queued
      constructor
      · exact handles.tracked.step channelTaken
      · exact queued
      · rw [taken]
        exact handles.received
      · exact handles.model
  | handleEvent =>
      simp only [NotificationCenter.step] at taken
      split at taken
      · rename_i event queued
        cases taken
        obtain ⟨inQueue, -⟩ := List.getElem?_eq_some_iff.mp queued
        constructor
        · exact handles.tracked
        · exact inQueue
        · rw [NotificationCenter.call, List.filterMap_append, handles.received]
          simp only [List.take_add_one, queued]
          rfl
        · exact model_call handles.model _
      · cases taken
  | switchResult now ok message =>
      cases taken
      exact handles.call rfl
  | clear =>
      cases taken
      exact handles.call rfl

theorem handles_of_run {events : List (CenterEvent threads)}
    {center : NotificationCenter threads}
    (executed : run (fun center => NotificationCenter.step formatTime center) {} events =
      some center) : Handles formatTime center :=
  run_invariant (Handles formatTime)
    ⟨⟨[], [], [], Channel.tracks_initial⟩, Nat.le_refl _, rfl, rfl⟩
    (fun _ _ _ handles taken => handles.step taken) executed

/-- The newest events that the slots were called with since the last `Clear`. -/
def newest (center : NotificationCenter threads) : List EventMessage :=
  NotificationModel.newest (NotificationModel.sinceClear (center.calls.map SlotCall.op))

/-- The list of a client, from the bus to the screen. -/
structure CenterLaw (formatTime : Int → String) (center : NotificationCenter threads) :
    Prop where
  /-- The events handled are the first of those read, which came once and in order. -/
  received : ∃ earlier session wire,
    EventChannel.EventLaw earlier session wire center.channel ∧
    center.handled ≤ (earlier ++ session).length ∧
    center.calls.filterMap SlotCall.received? =
      ((earlier ++ session).take center.handled).map (·.message)
  /-- Shown are the newest fifty of these and of the results, since the last `Clear`. -/
  shown : NotificationModel.Shows formatTime (center.calls.map SlotCall.op) center.model
  rowCount : center.model.rowCount false = center.newest.length
  data (index : Int) (role : NotificationModel.Role) : center.model.data index role =
    if index < 0 then none
    else (center.newest[index.toNat]?).map fun event =>
      (NotificationModel.row formatTime event).field role

end NotificationCenter

/-- From the event bus to the notification list nothing is shown twice or out of order,
however the results of switches and calls of `Clear` come between. -/
theorem notifications_end_to_end {formatTime : Int → String}
    {events : List (CenterEvent threads)} {center : NotificationCenter threads}
    (executed : run (fun center => NotificationCenter.step formatTime center) {} events =
      some center) : center.CenterLaw formatTime := by
  have handles := NotificationCenter.handles_of_run executed
  obtain ⟨earlier, session, wire, tracks⟩ := handles.tracked
  have queued := handles.queued
  have received := handles.received
  have shown := NotificationModel.shows_after formatTime (center.calls.map SlotCall.op)
  rw [← handles.model] at shown
  constructor
  · refine ⟨earlier, session, wire, EventChannel.law_of_tracks tracks, ?_, ?_⟩
    · rw [tracks.emitted, List.length_map] at queued
      exact queued
    · rw [tracks.emitted] at received
      rw [received, List.map_take]
      rfl
  · exact shown
  · exact shown.rowCount
  · exact shown.data

/-- The result of a failed switch after an event, the next event not yet handled. -/
theorem notifications_end_to_end_result : ∃ center,
    run (fun center => NotificationCenter.step (fun _ => "12:00:00") center) {}
      (switchesSeen.map .channel ++
        [.handleEvent, .switchResult 2500 false "not connected"]) = some center ∧
    center.CenterLaw (fun _ => "12:00:00") ∧
    center.model.rows.map (·.message) = ["not connected", "Night"] := by
  have executed : run (fun center => NotificationCenter.step (fun _ => "12:00:00") center) {}
      (switchesSeen.map .channel ++
        [.handleEvent, .switchResult 2500 false "not connected"]) = some _ := rfl
  exact ⟨_, executed, notifications_end_to_end executed, rfl⟩

end HWPanel.Client
