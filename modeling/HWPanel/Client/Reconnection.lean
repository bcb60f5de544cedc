import HWPanel.Client.ServerStream
import HWPanel.Core.BusSubscribers

/-!
# What a reconnecting client receives

A new call subscribes after everything the client has read was published, so the messages
of two calls never overlap; within a call the handler writes what it pops, and the
client reads a beginning of it.
-/

namespace HWPanel.Client

open HWPanel.Core HWPanel.Service HWPanel.Library

variable {threads : Nat} {M Message Signal : Type}

section

variable {convert : Message → Signal} {running : Bool} {thread next : LoopThread Message Signal}

/-- Nothing is read, and the stream is as before or given up. -/
structure KeepsStream (thread next : LoopThread Message Signal) : Prop where
  emitted : next.emitted = thread.emitted
  inFlight : next.stream.inFlight = thread.stream.inFlight ∨ next.stream.inFlight = []
  connected : next.connected = true →
    thread.connected = true ∧ next.stream.inFlight = thread.stream.inFlight

theorem KeepsStream.of_stream (emitted : next.emitted = thread.emitted)
    (stream : next.stream = thread.stream)
    (streaming : next.streaming = true → thread.streaming = true) : KeepsStream thread next := by
  constructor
  · exact emitted
  · exact .inl (congrArg _ stream)
  · intro connected
    rw [LoopThread.connected, Bool.and_eq_true, stream] at connected
    refine ⟨?_, congrArg _ stream⟩
    rw [LoopThread.connected, Bool.and_eq_true]
    exact ⟨streaming connected.1, connected.2⟩

theorem KeepsStream.of_not_streaming (emitted : next.emitted = thread.emitted)
    (inFlight : next.stream.inFlight = thread.stream.inFlight ∨ next.stream.inFlight = [])
    (left : next.streaming = false) : KeepsStream thread next := by
  refine ⟨emitted, inFlight, fun connected => ?_⟩
  rw [LoopThread.connected, left] at connected
  cases connected

/-- `Read` returned the next message. -/
structure ReadsMessage (convert : Message → Signal) (message : Message)
    (thread next : LoopThread Message Signal) : Prop where
  inFlight : thread.stream.inFlight = message :: next.stream.inFlight
  emitted : next.emitted = thread.emitted ++ [convert message]
  connected : next.connected = true → thread.connected = true

/-- What a step of the loop does to its stream, when it is neither the opening of one nor
the arrival of a message. -/
theorem LoopThread.step_cases {event : LoopEvent Message}
    (taken : thread.step convert running event = some next)
    (notOpened : event ≠ .opened true) (notSent : ∀ message, event ≠ .send message) :
    KeepsStream thread next ∨ ∃ message, ReadsMessage convert message thread next := by
  cases step_transition taken with
  | outerTest phase =>
      refine .inl (.of_not_streaming rfl (.inl rfl) ?_)
      cases running with
      | false => rfl
      | true => rfl
  | innerTest phase =>
      refine .inl (.of_stream rfl rfl fun _ => ?_)
      rw [streaming, phase]
      rfl
  | channelState ready phase =>
      refine .inl (.of_not_streaming rfl (.inl rfl) ?_)
      cases ready with
      | false => rfl
      | true => rfl
  | opened reader phase =>
      cases reader with
      | false => exact .inl (.of_not_streaming rfl (.inr rfl) rfl)
      | true => exact absurd rfl notOpened
  | @read message rest phase inFlight =>
      refine .inr ⟨message, inFlight, rfl, fun connected => ?_⟩
      rw [LoopThread.connected, streaming, phase]
      exact connected
  | readEnd phase inFlight ended => exact .inl (.of_not_streaming rfl (.inl rfl) rfl)
  | wake phase => exact .inl (.of_not_streaming rfl (.inl rfl) rfl)
  | send message _ _ => exact absurd rfl (notSent message)
  | close streaming =>
      refine .inl ⟨rfl, .inl rfl, fun connected => ?_⟩
      rw [LoopThread.connected, Bool.and_eq_true] at connected
      cases connected.2

theorem LoopThread.emitted_extends {event : LoopEvent Message}
    (taken : thread.step convert running event = some next) :
    thread.emitted <+: next.emitted := by
  have others : event ≠ .opened true → (∀ message, event ≠ .send message) →
      thread.emitted <+: next.emitted := by
    intro notOpened notSent
    rcases step_cases taken notOpened notSent with keeps | ⟨message, reads⟩
    · rw [keeps.emitted]
    · rw [reads.emitted]
      exact List.prefix_append _ _
  cases step_transition taken with
  | opened reader _ => exact List.prefix_rfl
  | send message _ _ => exact List.prefix_rfl
  | _ => exact others (by simp) (by simp)

end

namespace StreamHandler

variable {capacity d : Nat} {bus : Bus threads M} {handler : StreamHandler threads M}
  {popped : List (Envelope threads M)}

/-- The locals of a handler that has popped these messages. -/
structure Follows (d : Nat) (popped : List (Envelope threads M))
    (handler : StreamHandler threads M) : Prop where
  looping : handler.phase = .looping → handler.unwritten = none
  counted : handler.index = popped.length
  decimated : handler.written ++ handler.unwritten.toList = everyNth d popped

theorem follows_start (d id : Nat) :
    Follows d ([] : List (Envelope threads M)) { subscriber := id } where
  looping _ := rfl
  counted := rfl
  decimated := rfl

theorem Follows.take (follows : Follows d popped handler) (looping : handler.phase = .looping)
    (result : Option (Envelope threads M)) :
    Follows d (popped ++ result.toList) (handler.take d result) := by
  have decimated := follows.decimated
  cases result with
  | none =>
      rw [Option.toList_none, List.append_nil]
      exact follows
  | some message =>
      have counted : handler.index + 1 = (popped ++ [message]).length := by
        rw [List.length_append, follows.counted]
        rfl
      rw [StreamHandler.take, Option.toList_some]
      split
      · rename_i skipped
        refine ⟨follows.looping, counted, ?_⟩
        rw [everyNth_snoc, ← follows.counted, if_neg skipped, List.append_nil]
        exact decimated
      · rename_i due
        refine ⟨(fun looping => by cases looping), counted, ?_⟩
        rw [follows.looping looping, Option.toList_none, List.append_nil] at decimated
        rw [everyNth_snoc, ← follows.counted, if_pos (not_not.mp due), decimated]
        rfl

theorem Follows.write (follows : Follows d popped handler) {message : Envelope threads M}
    (unwritten : handler.unwritten = some message) (accepted : Bool) :
    Follows d popped (handler.write accepted message) := by
  cases accepted with
  | true =>
      refine ⟨fun _ => rfl, follows.counted, ?_⟩
      rw [← follows.decimated, unwritten]
      exact List.append_nil _
  | false => exact ⟨(fun looping => by cases looping), follows.counted, follows.decimated⟩

/-- What a step of the loop does: the subscriber stays, at most one step of the bus is
taken, and what is written is what was due. -/
theorem Follows.step {bus' : Bus threads M} {next : StreamHandler threads M}
    {event : HandlerEvent}
    (follows : Follows d (poppedBy handler.subscriber bus.trace) handler)
    (taken : handler.step capacity d bus event = some (bus', next)) :
    next.subscriber = handler.subscriber ∧
      (bus' = bus ∨ ∃ busEvent, bus.step capacity busEvent = some bus') ∧
      Follows d (poppedBy handler.subscriber bus'.trace) next ∧
      next.written = handler.written ++ handler.writtenBy event ∧
      (next.phase ≠ .returned → handler.phase ≠ .returned ∧
        (handler.subscriber ∈ bus.owned → handler.subscriber ∈ bus'.owned)) := by
  cases event with
  | pop =>
      obtain ⟨looping, taken⟩ := Option.ite_none_right_eq_some.mp taken
      obtain ⟨after, busTaken, nextEq⟩ := Option.map_eq_some_iff.mp taken
      cases nextEq
      obtain ⟨-, busEq⟩ := Option.ite_none_right_eq_some.mp busTaken
      have poppedEq := bus.poppedBy_pop handler.subscriber
      rw [Option.some.inj busEq] at poppedEq
      refine ⟨handler.take_subscriber d _, .inr ⟨_, busTaken⟩, ?_, ?_, fun _ => ⟨?_, ?_⟩⟩
      · rw [poppedEq]
        exact follows.take looping _
      · rw [take_written]
        exact (List.append_nil _).symm
      · simp [looping]
      · rw [← Option.some.inj busEq]
        exact id
  | write accepted =>
      simp only [StreamHandler.step] at taken
      split at taken
      · rename_i message phase unwritten
        cases taken
        refine ⟨?_, .inl rfl, follows.write unwritten accepted, ?_, fun _ => ⟨?_, id⟩⟩
        · cases accepted <;> rfl
        · cases accepted with
          | true => rw [writtenBy, unwritten]; rfl
          | false => exact (List.append_nil _).symm
        · simp [phase]
      · cases taken
  | isCancelled =>
      obtain ⟨looping, nextEq⟩ := Option.ite_none_right_eq_some.mp taken
      cases nextEq
      refine ⟨rfl, .inl rfl, ?_, (List.append_nil _).symm, fun _ => ⟨?_, id⟩⟩
      · exact ⟨(fun looping => by cases looping), follows.counted, follows.decimated⟩
      · simp [looping]
  | close =>
      obtain ⟨leaving, taken⟩ := Option.ite_none_right_eq_some.mp taken
      obtain ⟨after, busTaken, nextEq⟩ := Option.map_eq_some_iff.mp taken
      cases nextEq
      obtain ⟨-, busEq⟩ := Option.ite_none_right_eq_some.mp busTaken
      have poppedEq : poppedBy handler.subscriber bus'.trace =
          poppedBy handler.subscriber bus.trace := by
        rw [← Option.some.inj busEq]
        simp [Bus.close, poppedBy]
      refine ⟨rfl, .inr ⟨_, busTaken⟩, ?_, (List.append_nil _).symm, fun _ => ⟨?_, ?_⟩⟩
      · rw [poppedEq]
        exact ⟨(fun looping => by cases looping), follows.counted, follows.decimated⟩
      · simp [leaving]
      · rw [← Option.some.inj busEq]
        exact id
  | return_ =>
      obtain ⟨-, taken⟩ := Option.ite_none_right_eq_some.mp taken
      obtain ⟨after, busTaken, nextEq⟩ := Option.map_eq_some_iff.mp taken
      cases nextEq
      obtain ⟨-, busEq⟩ := Option.ite_none_right_eq_some.mp busTaken
      have poppedEq : poppedBy handler.subscriber bus'.trace =
          poppedBy handler.subscriber bus.trace := by
        rw [← Option.some.inj busEq]
        simp [Bus.release, poppedBy]
      refine ⟨rfl, .inr ⟨_, busTaken⟩, ?_, (List.append_nil _).symm, fun running => ?_⟩
      · rw [poppedEq]
        exact ⟨(fun looping => by cases looping), follows.counted, follows.decimated⟩
      · exact absurd rfl running

end StreamHandler

/-! ## One client -/

namespace StreamService

variable (service : StreamService M Message Signal)

/-- The signal the client emits for a published message. -/
def signal (message : Envelope threads M) : Signal :=
  service.received (service.toProto message.message)

end StreamService

namespace Channel

variable {service : StreamService M Message Signal}
  {channel next : Channel threads M Message Signal}
  {earlier session wire : List (Envelope threads M)} {handler : StreamHandler threads M}

/-- The handler of the client's last call: `session` are the messages read on its stream,
`wire` those on their way, and `earlier` those of the calls before. -/
structure Serves (service : StreamService M Message Signal)
    (earlier session wire : List (Envelope threads M))
    (channel : Channel threads M Message Signal) (handler : StreamHandler threads M) : Prop where
  since : ∃ base, channel.bus.Since base handler.subscriber ∧
    ∀ message ∈ earlier, message.number < base
  attends : handler.phase ≠ .returned → channel.bus.Attends handler.subscriber
  follows : handler.Follows service.decimate (poppedBy handler.subscriber channel.bus.trace)
  sent : session ++ wire <+: handler.written
  intact : channel.client.connected = true → session ++ wire = handler.written

/-- Where a client stands after any interleaving. -/
structure Tracks (service : StreamService M Message Signal)
    (earlier session wire : List (Envelope threads M))
    (channel : Channel threads M Message Signal) : Prop where
  sound : channel.bus.Sound service.capacity
  emitted : channel.client.emitted = (earlier ++ session).map service.signal
  inFlight : channel.client.stream.inFlight =
    wire.map fun message => service.toProto message.message
  ordered : OnceInOrder earlier
  published : ∀ message ∈ earlier, message.number < channel.bus.published ∧
    ∃ live, .published message live ∈ channel.bus.trace
  unserved : channel.handler = none → session = [] ∧ wire = []
  served (handler : StreamHandler threads M) :
    channel.handler = some handler → Serves service earlier session wire channel handler

theorem tracks_initial : Tracks service [] [] [] ({} : Channel threads M Message Signal) where
  sound := Bus.sound_initial
  emitted := rfl
  inFlight := rfl
  ordered := .nil
  published := by simp
  unserved _ := ⟨rfl, rfl⟩
  served _ isSome := by cases isSome

/-- What was read on the current stream is among what its handler was to write. -/
theorem Serves.sublist_everyNth
    (serves : Serves service earlier session wire channel handler) :
    session.Sublist
      (everyNth service.decimate (poppedBy handler.subscriber channel.bus.trace)) := by
  have inWritten : session.Sublist handler.written :=
    (List.sublist_append_left session wire).trans serves.sent.sublist
  rw [← serves.follows.decimated]
  exact inWritten.trans (List.sublist_append_left _ _)

theorem Serves.sublist (serves : Serves service earlier session wire channel handler) :
    session.Sublist (poppedBy handler.subscriber channel.bus.trace) :=
  serves.sublist_everyNth.trans (everyNth_sublist _ _)

/-- All that a client has read, over all its calls. -/
theorem Tracks.received (tracks : Tracks service earlier session wire channel) :
    OnceInOrder (earlier ++ session) ∧ ∀ message ∈ earlier ++ session,
      message.number < channel.bus.published ∧
        ∃ live, .published message live ∈ channel.bus.trace := by
  cases found : channel.handler with
  | none =>
      rw [(tracks.unserved found).1, List.append_nil]
      exact ⟨tracks.ordered, tracks.published⟩
  | some handler =>
      have serves := tracks.served handler found
      obtain ⟨base, since, below⟩ := serves.since
      have popped := tracks.sound.poppedBy_sublist service.capacity_pos handler.subscriber
      have delivered : ∀ message ∈ session,
          message ∈ deliveredTo handler.subscriber channel.bus.trace :=
        fun message member => popped.subset (serves.sublist.subset member)
      constructor
      · refine tracks.ordered.append ?_ below fun message member =>
          (since.delivered tracks.sound (delivered message member)).1
        exact (tracks.sound.onceInOrder_popped service.capacity_pos _).sublist
          serves.sublist
      · intro message member
        rcases List.mem_append.mp member with before | current
        · exact tracks.published message before
        · have observed := delivered message current
          obtain ⟨dropped, delivery⟩ := mem_deliveredTo.mp observed
          obtain ⟨live, isPublished, -⟩ := published_of_delivered tracks.sound.lawful delivery
          exact ⟨(since.delivered tracks.sound observed).2, live, isPublished⟩

/-- A step of the bus that the handler does not take. -/
theorem Tracks.bus_step (tracks : Tracks service earlier session wire channel)
    {event : BusEvent threads M} {bus : Bus threads M}
    (taken : channel.bus.step service.capacity event = some bus)
    (other : ∀ handler, channel.handler = some handler →
      event.owner? ≠ some handler.subscriber) :
    Tracks service earlier session wire { channel with bus } := by
  have published := tracks.sound.step_published service.capacity_pos taken
  constructor
  · exact tracks.sound.step service.capacity_pos taken
  · exact tracks.emitted
  · exact tracks.inFlight
  · exact tracks.ordered
  · intro message member
    obtain ⟨below, live, isPublished⟩ := tracks.published message member
    exact ⟨Nat.lt_of_lt_of_le below published.1, live, published.2.mem isPublished⟩
  · exact tracks.unserved
  · intro handler found
    have serves := tracks.served handler found
    obtain ⟨base, since, below⟩ := serves.since
    obtain ⟨poppedEq, owned⟩ := Bus.step_other taken (other handler found)
    refine ⟨⟨base, since.step tracks.sound service.capacity_pos taken, below⟩, ?_, ?_,
      serves.sent, serves.intact⟩
    · intro running
      have before := serves.attends running
      exact before.step tracks.sound service.capacity_pos taken (owned before.owned)
    · rw [poppedEq]
      exact serves.follows

/-- The client has read some of what was on its way, or lost it. -/
theorem Tracks.with_client (tracks : Tracks service earlier session wire channel)
    {client : LoopThread Message Signal} {session' wire' : List (Envelope threads M)}
    (emitted : client.emitted = (earlier ++ session').map service.signal)
    (inFlight : client.stream.inFlight =
      wire'.map fun message => service.toProto message.message)
    (sent : session' ++ wire' <+: session ++ wire)
    (intact : client.connected = true →
      channel.client.connected = true ∧ session' ++ wire' = session ++ wire) :
    Tracks service earlier session' wire' { channel with client } := by
  constructor
  · exact tracks.sound
  · exact emitted
  · exact inFlight
  · exact tracks.ordered
  · exact tracks.published
  · intro unserved
    obtain ⟨rfl, rfl⟩ := tracks.unserved unserved
    exact List.append_eq_nil_iff.mp (List.prefix_nil.mp sent)
  · intro handler found
    have serves := tracks.served handler found
    refine ⟨serves.since, serves.attends, serves.follows, sent.trans serves.sent, ?_⟩
    intro connected
    obtain ⟨before, same⟩ := intact connected
    rw [same]
    exact serves.intact before

/-- A step of the client that is neither the opening of a stream nor an arrival. -/
theorem Tracks.client_step (tracks : Tracks service earlier session wire channel)
    {running : Bool} {event : LoopEvent Message} {client : LoopThread Message Signal}
    (taken : channel.client.step service.received running event = some client)
    (notOpened : event ≠ .opened true) (notSent : ∀ message, event ≠ .send message) :
    ∃ read wire, Tracks service earlier (session ++ read) wire { channel with client } := by
  rcases LoopThread.step_cases taken notOpened notSent with keeps | ⟨message, reads⟩
  · have emitted := keeps.emitted.trans tracks.emitted
    refine ⟨[], ?_⟩
    rw [List.append_nil]
    rcases keeps.inFlight with same | given
    · refine ⟨wire, tracks.with_client emitted (same.trans tracks.inFlight) ?_ ?_⟩
      · exact List.prefix_rfl
      · exact fun connected => ⟨(keeps.connected connected).1, rfl⟩
    · refine ⟨[], tracks.with_client emitted given ?_ ?_⟩
      · rw [List.append_nil]
        exact List.prefix_append _ _
      · intro connected
        obtain ⟨before, same⟩ := keeps.connected connected
        rw [given, tracks.inFlight] at same
        rw [List.map_eq_nil_iff.mp same.symm]
        exact ⟨before, rfl⟩
  · have onWire := reads.inFlight
    rw [tracks.inFlight] at onWire
    obtain ⟨first, rest, rfl, messageEq, restEq⟩ := List.map_eq_cons_iff.mp onWire
    have order : (session ++ [first]) ++ rest = session ++ first :: rest := by
      rw [List.append_assoc]
      rfl
    refine ⟨[first], rest, tracks.with_client ?_ restEq.symm ?_ ?_⟩
    · simp only [reads.emitted, tracks.emitted, ← messageEq, List.map_append, List.append_assoc]
      rfl
    · rw [order]
    · exact fun connected => ⟨reads.connected connected, order⟩

/-- The client opens a stream: what it has read is from earlier calls now. -/
theorem Tracks.opened (tracks : Tracks service earlier session wire channel)
    {running : Bool} {client : LoopThread Message Signal}
    (taken : channel.client.step service.received running (.opened true) = some client) :
    Tracks service (earlier ++ session) [] [] { channel with client, handler := none } := by
  obtain ⟨-, nextEq⟩ := Option.ite_none_right_eq_some.mp taken
  cases nextEq
  obtain ⟨ordered, published⟩ := tracks.received
  constructor
  · exact tracks.sound
  · rw [List.append_nil]
    exact tracks.emitted
  · rfl
  · exact ordered
  · exact published
  · exact fun _ => ⟨rfl, rfl⟩
  · intro handler found
    cases found

/-- The server takes the call: its subscriber comes after all that was published. -/
theorem Tracks.accept (tracks : Tracks service earlier session wire channel)
    (unserved : channel.handler = none) :
    Tracks service earlier session wire
      { channel with
        bus := channel.bus.subscribe
        handler := some { subscriber := channel.bus.created } } := by
  have taken : channel.bus.step service.capacity .subscribe = some channel.bus.subscribe := rfl
  have stepped := tracks.bus_step taken fun handler found => by
    rw [unserved] at found
    cases found
  have since := tracks.sound.since_subscribe
  obtain ⟨rfl, rfl⟩ := tracks.unserved unserved
  have poppedNothing : poppedBy channel.bus.created channel.bus.subscribe.trace = [] := by
    have sublist := stepped.sound.poppedBy_sublist service.capacity_pos channel.bus.created
    have noDelivery : deliveredTo channel.bus.created channel.bus.subscribe.trace = [] := by
      rw [Bus.subscribe, Bus.observe, deliveredTo_append, tracks.sound.deliveredTo_fresh]
      rfl
    rw [noDelivery] at sublist
    exact List.sublist_nil.mp sublist
  constructor
  · exact stepped.sound
  · exact stepped.emitted
  · exact stepped.inFlight
  · exact stepped.ordered
  · exact stepped.published
  · intro none
    cases none
  · intro handler found
    cases found
    refine ⟨⟨_, since, fun message member => (tracks.published message member).1⟩, fun _ => ?_,
      ?_, List.nil_prefix, fun _ => rfl⟩
    · exact tracks.sound.attends_subscribe
    · rw [poppedNothing]
      exact StreamHandler.follows_start _ _

theorem deliver_send (service : StreamService M Message Signal)
    (channel : Channel threads M Message Signal) (message : Message) :
    channel.deliver service (.send message) =
      if channel.client.connected then
        { channel.client with
          stream :=
            { channel.client.stream with
              inFlight := channel.client.stream.inFlight ++ [message] } }
      else channel.client := by
  rw [deliver, LoopThread.step, LoopThread.connected]
  split
  · rfl
  · rfl

/-- The end of the call leaves what is on its way. -/
theorem deliver_close (service : StreamService M Message Signal)
    (channel : Channel threads M Message Signal) :
    (channel.deliver service .close).emitted = channel.client.emitted ∧
      (channel.deliver service .close).stream.inFlight = channel.client.stream.inFlight ∧
      (channel.deliver service .close).connected = false := by
  rw [deliver, LoopThread.step]
  cases streaming : channel.client.streaming with
  | true => exact ⟨rfl, rfl, Bool.and_false _⟩
  | false =>
      refine ⟨rfl, rfl, ?_⟩
      rw [if_neg Bool.false_ne_true, Option.getD_none, LoopThread.connected, streaming]
      rfl

/-- The client's end of a stream on which this was written. -/
structure Receives (service : StreamService M Message Signal)
    (earlier session wire written : List (Envelope threads M))
    (client : LoopThread Message Signal) : Prop where
  emitted : client.emitted = (earlier ++ session).map service.signal
  inFlight : client.stream.inFlight = wire.map fun message => service.toProto message.message
  sent : session ++ wire <+: written
  intact : client.connected = true → session ++ wire = written

/-- The client's end after a step of the handler. -/
theorem Receives.notice
    (receives : Receives service earlier session wire handler.written channel.client)
    (event : HandlerEvent) :
    ∃ wire, Receives service earlier session wire (handler.written ++ handler.writtenBy event)
      (channel.notice service handler event) := by
  have silent : handler.writtenBy event = [] →
      channel.notice service handler event = channel.client →
      ∃ wire, Receives service earlier session wire
        (handler.written ++ handler.writtenBy event) (channel.notice service handler event) := by
    intro nothing same
    rw [nothing, same, List.append_nil]
    exact ⟨wire, receives⟩
  cases event with
  | pop => exact silent rfl rfl
  | isCancelled => exact silent rfl rfl
  | close => exact silent rfl rfl
  | return_ =>
      obtain ⟨emittedEq, inFlightEq, left⟩ := channel.deliver_close service
      refine ⟨wire, ?_⟩
      constructor
      · exact emittedEq.trans receives.emitted
      · exact inFlightEq.trans receives.inFlight
      · exact receives.sent.trans (List.prefix_append _ _)
      · intro connected
        cases left.symm.trans connected
  | write accepted =>
      cases accepted with
      | false => exact silent rfl rfl
      | true =>
          cases unwritten : handler.unwritten with
          | none =>
              refine silent ?_ ?_
              · simp [StreamHandler.writtenBy, unwritten]
              · simp [Channel.notice, StreamHandler.writtenBy, unwritten]
          | some message =>
              have sends : channel.notice service handler (.write true) =
                  channel.deliver service (.send (service.toProto message.message)) := by
                simp [Channel.notice, StreamHandler.writtenBy, unwritten]
              rw [sends, deliver_send, StreamHandler.writtenBy, unwritten, Option.toList_some]
              split
              · rename_i connected
                have whole : session ++ (wire ++ [message]) = handler.written ++ [message] := by
                  rw [← receives.intact connected, List.append_assoc]
                refine ⟨wire ++ [message], receives.emitted, ?_, ?_, fun _ => whole⟩
                · rw [List.map_append, receives.inFlight]
                  rfl
                · rw [whole]
              · rename_i lost
                refine ⟨wire, receives.emitted, receives.inFlight, ?_, ?_⟩
                · exact receives.sent.trans (List.prefix_append _ _)
                · exact fun connected => absurd connected lost

theorem Tracks.handler_step (tracks : Tracks service earlier session wire channel)
    (found : channel.handler = some handler) {event : HandlerEvent} {bus : Bus threads M}
    {next : StreamHandler threads M}
    (taken : handler.step service.capacity service.decimate channel.bus event =
      some (bus, next)) :
    ∃ wire, Tracks service earlier session wire
      { bus, client := channel.notice service handler event, handler := some next } := by
  have serves := tracks.served handler found
  obtain ⟨base, since, below⟩ := serves.since
  obtain ⟨subscriberEq, busStep, follows, writtenEq, running⟩ := serves.follows.step taken
  have receives : Receives service earlier session wire handler.written channel.client :=
    ⟨tracks.emitted, tracks.inFlight, serves.sent, serves.intact⟩
  obtain ⟨wire', receivesAfter⟩ := receives.notice event
  have kept : bus.Sound service.capacity ∧ bus.Since base handler.subscriber ∧
      channel.bus.published ≤ bus.published ∧ channel.bus.trace <+: bus.trace ∧
      (next.phase ≠ .returned → bus.Attends handler.subscriber) := by
    rcases busStep with rfl | ⟨busEvent, busTaken⟩
    · refine ⟨tracks.sound, since, Nat.le_refl _, List.prefix_rfl, fun after => ?_⟩
      exact serves.attends (running after).1
    · obtain ⟨counted, extended⟩ :=
        tracks.sound.step_published service.capacity_pos busTaken
      refine ⟨tracks.sound.step service.capacity_pos busTaken,
        since.step tracks.sound service.capacity_pos busTaken, counted, extended, ?_⟩
      intro after
      obtain ⟨before, owned⟩ := running after
      have attends := serves.attends before
      exact attends.step tracks.sound service.capacity_pos busTaken (owned attends.owned)
  obtain ⟨sound, sinceAfter, counted, extended, attendsAfter⟩ := kept
  refine ⟨wire', ?_⟩
  constructor
  · exact sound
  · exact receivesAfter.emitted
  · exact receivesAfter.inFlight
  · exact tracks.ordered
  · intro message member
    obtain ⟨number, live, isPublished⟩ := tracks.published message member
    exact ⟨Nat.lt_of_lt_of_le number counted, live, extended.mem isPublished⟩
  · intro none
    cases none
  · intro other otherEq
    cases otherEq
    have sent := receivesAfter.sent
    have intact := receivesAfter.intact
    rw [← writtenEq] at sent intact
    rw [← subscriberEq] at sinceAfter follows attendsAfter
    exact ⟨⟨base, sinceAfter, below⟩, attendsAfter, follows, sent, intact⟩

theorem deliver_extends (service : StreamService M Message Signal)
    (channel : Channel threads M Message Signal) (event : LoopEvent Message) :
    channel.client.emitted <+: (channel.deliver service event).emitted := by
  rw [deliver]
  cases taken : channel.client.step service.received true event with
  | none => exact List.prefix_rfl
  | some client => exact LoopThread.emitted_extends taken

theorem notice_extends (service : StreamService M Message Signal)
    (channel : Channel threads M Message Signal) (handler : StreamHandler threads M)
    (event : HandlerEvent) :
    channel.client.emitted <+: (channel.notice service handler event).emitted := by
  cases event with
  | return_ => exact channel.deliver_extends service _
  | _ =>
      simp only [notice]
      split
      · exact channel.deliver_extends service _
      · exact List.prefix_rfl

/-- What was emitted stays emitted. -/
theorem emitted_extends {event : ChannelEvent threads M Message}
    (taken : channel.step service event = some next) :
    channel.client.emitted <+: next.client.emitted := by
  cases event with
  | bus event =>
      obtain ⟨-, taken⟩ := Option.ite_none_left_eq_some.mp taken
      obtain ⟨bus, -, rfl⟩ := Option.map_eq_some_iff.mp taken
      exact List.prefix_rfl
  | client running event =>
      simp only [step] at taken
      split at taken
      · cases taken
      · obtain ⟨client, clientTaken, rfl⟩ := Option.map_eq_some_iff.mp taken
        exact LoopThread.emitted_extends clientTaken
      · obtain ⟨client, clientTaken, rfl⟩ := Option.map_eq_some_iff.mp taken
        exact LoopThread.emitted_extends clientTaken
  | accept =>
      simp only [step] at taken
      split at taken
      · obtain ⟨-, nextEq⟩ := Option.ite_none_right_eq_some.mp taken
        cases nextEq
        exact List.prefix_rfl
      · cases taken
  | handler event =>
      simp only [step] at taken
      split at taken
      · cases taken
      · rename_i handler found
        obtain ⟨next, -, rfl⟩ := Option.map_eq_some_iff.mp taken
        exact channel.notice_extends service handler event

/-- The signals that a slot has handled are the first ones. -/
theorem queued_step {event : ChannelEvent threads M Message}
    (taken : channel.step service event = some next) {handled : Nat}
    (queued : handled ≤ channel.client.emitted.length) :
    handled ≤ next.client.emitted.length ∧
      next.client.emitted.take handled = channel.client.emitted.take handled := by
  obtain ⟨later, emitted⟩ := emitted_extends taken
  rw [← emitted, List.length_append, List.take_append_of_le_length queued]
  exact ⟨queued.trans (Nat.le_add_right _ _), rfl⟩

/-- What the client reads in a step; a new stream leaves what was read to those before. -/
theorem Tracks.step (tracks : Tracks service earlier session wire channel)
    {event : ChannelEvent threads M Message} (taken : channel.step service event = some next) :
    (event.opens = true ∧ Tracks service (earlier ++ session) [] [] next) ∨
      ∃ read wire, Tracks service earlier (session ++ read) wire next := by
  have silent {wire : List (Envelope threads M)}
      (after : Tracks service earlier session wire next) :
      ∃ read wire, Tracks service earlier (session ++ read) wire next := by
    refine ⟨[], wire, ?_⟩
    rw [List.append_nil]
    exact after
  cases event with
  | bus event =>
      obtain ⟨other, taken⟩ := Option.ite_none_left_eq_some.mp taken
      obtain ⟨bus, busTaken, rfl⟩ := Option.map_eq_some_iff.mp taken
      refine .inr (silent (tracks.bus_step busTaken ?_))
      intro handler found owner
      apply other
      rw [owner, found]
      simp
  | client running event =>
      cases event with
      | send message => cases taken
      | opened reader =>
          cases reader with
          | true =>
              obtain ⟨client, clientTaken, rfl⟩ := Option.map_eq_some_iff.mp taken
              exact .inl ⟨rfl, tracks.opened clientTaken⟩
          | false =>
              obtain ⟨client, clientTaken, rfl⟩ := Option.map_eq_some_iff.mp taken
              exact .inr (tracks.client_step clientTaken (by simp) (by simp))
      | _ =>
          obtain ⟨client, clientTaken, rfl⟩ := Option.map_eq_some_iff.mp taken
          exact .inr (tracks.client_step clientTaken (by simp) (by simp))
  | accept =>
      simp only [Channel.step] at taken
      split at taken
      · rename_i unserved
        obtain ⟨-, nextEq⟩ := Option.ite_none_right_eq_some.mp taken
        cases nextEq
        exact .inr (silent (tracks.accept unserved))
      · cases taken
  | handler event =>
      simp only [Channel.step] at taken
      split at taken
      · cases taken
      · rename_i handler found
        obtain ⟨⟨bus, handler'⟩, handlerTaken, rfl⟩ := Option.map_eq_some_iff.mp taken
        obtain ⟨wire, after⟩ := tracks.handler_step found handlerTaken
        exact .inr (silent after)

/-- A client is tracked, with some division of what it has read. -/
def Tracked (service : StreamService M Message Signal)
    (channel : Channel threads M Message Signal) : Prop :=
  ∃ earlier session wire, Tracks service earlier session wire channel

theorem Tracked.step {event : ChannelEvent threads M Message}
    (tracked : Tracked service channel) (taken : channel.step service event = some next) :
    Tracked service next := by
  obtain ⟨earlier, session, wire, tracks⟩ := tracked
  rcases tracks.step taken with ⟨-, opened⟩ | ⟨read, wire, reads⟩
  · exact ⟨_, _, _, opened⟩
  · exact ⟨_, _, _, reads⟩

theorem tracked_of_run {events : List (ChannelEvent threads M Message)}
    (executed : run (fun channel => Channel.step service channel) {} events = some channel) :
    Tracked service channel :=
  run_invariant (Tracked service) ⟨[], [], [], tracks_initial⟩
    (fun _ _ _ tracked taken => tracked.step taken) executed

end Channel

/-! ## A client that reconnects -/

/-- The client's own steps from the test of `running_` to an open stream. -/
def connecting : List (ChannelEvent 1 M Message) :=
  [.client true .testRunning, .client true (.channelState true), .client true (.opened true),
    .accept, .client true .testRunning]

/-- A message read, the stream lost, one message missed meanwhile, and the next one read. -/
def reconnecting (first missed second : M) :
    List (ChannelEvent 1 M Message) :=
  connecting ++
    [.bus (.publish 0 first), .bus (.deliver 0), .bus (.finish 0), .handler .pop,
      .handler (.write true), .client true .read, .client true .close,
      .client true .testRunning, .client true .read, .client true .wake,
      .bus (.publish 0 missed), .bus (.deliver 0), .bus (.finish 0)] ++
    connecting ++
    [.bus (.publish 0 second), .bus (.deliver 0), .bus (.deliver 0), .bus (.finish 0),
      .handler .pop, .handler (.write true), .client true .read]

end HWPanel.Client
