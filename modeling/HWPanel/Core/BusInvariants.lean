import HWPanel.Core.BusHistory
import Mathlib.Data.List.Nodup

/-!
# Invariants of the bus

Three invariants tie the trace of a run to the state of the bus: who is alive, how
far the publishes in flight have come, and what the queues hold. Each of them is
kept by every step, whatever the interleaving.
-/

namespace HWPanel.Core

open HWPanel.Library

namespace Bus

variable {threads : Nat} {M : Type} {capacity : Nat} {self : Bus threads M}
  {publishing : Publishing threads M} {thread : Fin threads} {id : Nat} {rest : List Nat}

/-- The reference counts of the bus, and the weak list it prunes. -/
structure Registered (bus : Bus threads M) : Prop where
  created (id : Nat) : .subscribed id ∈ bus.trace ↔ id < bus.created
  owned (id : Nat) :
    id ∈ bus.owned ↔ .subscribed id ∈ bus.trace ∧ .released id ∉ bus.trace
  released_lt (id : Nat) : .released id ∈ bus.trace → id < bus.created
  owned_nodup : bus.owned.Nodup
  listed (id : Nat) : bus.lock id = true → id ∈ bus.subscribers
  subscribers_nodup : bus.subscribers.Nodup
  subscribers_lt : ∀ id ∈ bus.subscribers, id < bus.created
  live_lt (thread : Fin threads) (publishing : Publishing threads M) :
    bus.inFlight thread = some publishing → ∀ id ∈ publishing.live, id < bus.created

theorem lock_iff {self : Bus threads M} {id : Nat} :
    self.lock id = true ↔ id ∈ self.owned ∨
      ∃ thread publishing, self.inFlight thread = some publishing ∧ id ∈ publishing.live := by
  rw [lock, Bool.or_eq_true, decide_eq_true_iff, decide_eq_true_iff]
  simp only [Option.any_eq_true, List.contains_iff_mem]

theorem registered_initial : Registered ({} : Bus threads M) := by
  constructor <;> simp [lock]

/-- A step that changes neither the owners, nor the weak list, nor the snapshots
held. -/
theorem Registered.frame {next : Bus threads M} (registered : self.Registered)
    (createdEq : next.created = self.created) (ownedEq : next.owned = self.owned)
    (subscribersEq : next.subscribers = self.subscribers)
    (held : ∀ thread publishing, next.inFlight thread = some publishing →
      ∃ before, self.inFlight thread = some before ∧ before.live = publishing.live)
    (observed : ∀ id, (.subscribed id ∈ next.trace ↔ .subscribed id ∈ self.trace) ∧
      (.released id ∈ next.trace ↔ .released id ∈ self.trace)) :
    next.Registered := by
  constructor
  · intro id
    rw [(observed id).1, createdEq]
    exact registered.created id
  · intro id
    rw [ownedEq, (observed id).1, (observed id).2]
    exact registered.owned id
  · intro id
    rw [(observed id).2, createdEq]
    exact registered.released_lt id
  · rw [ownedEq]
    exact registered.owned_nodup
  · intro id locked
    rw [subscribersEq]
    apply registered.listed id
    rw [lock_iff] at locked ⊢
    rw [ownedEq] at locked
    rcases locked with owner | ⟨thread, publishing, busy, membership⟩
    · exact .inl owner
    · rcases held thread publishing busy with ⟨before, busyBefore, liveEq⟩
      exact .inr ⟨thread, before, busyBefore, liveEq ▸ membership⟩
  · rw [subscribersEq]
    exact registered.subscribers_nodup
  · rw [subscribersEq, createdEq]
    exact registered.subscribers_lt
  · intro thread publishing busy
    rcases held thread publishing busy with ⟨before, busyBefore, liveEq⟩
    rw [createdEq, ← liveEq]
    exact registered.live_lt thread before busyBefore

theorem setInFlight_held {next : Option (Publishing threads M)}
    {other : Fin threads} {found : Publishing threads M}
    (busy : self.inFlight thread = some publishing)
    (kept : ∀ after, next = some after → after.live = publishing.live)
    (after : (self.setInFlight thread next).inFlight other = some found) :
    ∃ before, self.inFlight other = some before ∧ before.live = found.live := by
  simp only [setInFlight] at after
  by_cases same : other = thread
  · subst same
    rw [Function.update_self] at after
    exact ⟨publishing, busy, (kept found after).symm⟩
  · rw [Function.update_of_ne same] at after
    exact ⟨found, after, rfl⟩

theorem inFlight_publish {message : M} {other : Fin threads}
    (busy : (self.publish thread message).inFlight other = some publishing) :
    (other = thread ∧ publishing =
      ⟨⟨self.published, thread, message⟩, self.subscribers.filter self.lock,
        self.subscribers.filter self.lock⟩) ∨
    self.inFlight other = some publishing := by
  simp only [publish, setInFlight, observe] at busy
  by_cases same : other = thread
  · subst same
    rw [Function.update_self] at busy
    exact .inl ⟨rfl, (Option.some.inj busy).symm⟩
  · rw [Function.update_of_ne same] at busy
    exact .inr busy

theorem registered_subscribe (registered : self.Registered) : self.subscribe.Registered := by
  have fresh : self.created ∉ self.subscribers := fun membership =>
    Nat.lt_irrefl _ (registered.subscribers_lt _ membership)
  constructor
  · intro id
    simp only [subscribe, mem_trace_observe, Observation.subscribed.injEq,
      registered.created]
    exact Nat.lt_succ_iff_lt_or_eq.symm
  · intro id
    simp only [subscribe, mem_trace_observe, observe_owned, List.mem_cons,
      Observation.subscribed.injEq, reduceCtorEq, or_false, registered.owned]
    constructor
    · rintro (rfl | ⟨subscribed, held⟩)
      · exact ⟨.inr rfl, fun released =>
          Nat.lt_irrefl _ (registered.released_lt _ released)⟩
      · exact ⟨.inl subscribed, held⟩
    · rintro ⟨subscribed | isNew, held⟩
      · exact .inr ⟨subscribed, held⟩
      · exact .inl isNew
  · intro id released
    have earlier : .released id ∈ self.trace := by
      simpa [subscribe] using released
    exact Nat.lt_succ_of_lt (registered.released_lt id earlier)
  · refine List.nodup_cons.mpr ⟨fun owner => ?_, registered.owned_nodup⟩
    exact Nat.lt_irrefl _ ((registered.created _).mp ((registered.owned _).mp owner).1)
  · intro id locked
    rcases lock_iff.mp locked with owner | held
    · rcases List.mem_cons.mp owner with rfl | owner
      · exact List.mem_append_right _ (List.mem_singleton_self _)
      · exact List.mem_append_left _ (registered.listed id (lock_iff.mpr (.inl owner)))
    · exact List.mem_append_left _ (registered.listed id (lock_iff.mpr (.inr held)))
  · simpa [subscribe, List.nodup_append, registered.subscribers_nodup] using
      fun id membership => Nat.ne_of_lt (registered.subscribers_lt id membership)
  · intro id membership
    rcases List.mem_append.mp membership with earlier | isNew
    · exact Nat.lt_succ_of_lt (registered.subscribers_lt id earlier)
    · rw [List.mem_singleton.mp isNew]
      exact Nat.lt_succ_self _
  · intro thread publishing busy id membership
    exact Nat.lt_succ_of_lt (registered.live_lt thread publishing busy id membership)

theorem registered_publish (registered : self.Registered) (thread : Fin threads) (message : M) :
    (self.publish thread message).Registered := by
  have locked_earlier : ∀ id, (self.publish thread message).lock id = true →
      self.lock id = true := by
    intro id locked
    rcases lock_iff.mp locked with owner | ⟨other, publishing, busy, membership⟩
    · exact lock_iff.mpr (.inl owner)
    · rcases inFlight_publish busy with ⟨rfl, rfl⟩ | earlier
      · exact (List.mem_filter.mp membership).2
      · exact lock_iff.mpr (.inr ⟨other, publishing, earlier, membership⟩)
  constructor
  · intro id
    simp [publish, registered.created]
  · intro id
    simp [publish, registered.owned]
  · intro id released
    have earlier : .released id ∈ self.trace := by
      simpa [publish] using released
    exact registered.released_lt id earlier
  · exact registered.owned_nodup
  · intro id locked
    have earlier := locked_earlier id locked
    exact List.mem_filter.mpr ⟨registered.listed id earlier, earlier⟩
  · exact registered.subscribers_nodup.filter _
  · intro id membership
    exact registered.subscribers_lt id (List.mem_of_mem_filter membership)
  · intro other publishing busy id membership
    rcases inFlight_publish busy with ⟨rfl, rfl⟩ | earlier
    · exact registered.subscribers_lt id (List.mem_of_mem_filter membership)
    · exact registered.live_lt other publishing earlier id membership

theorem registered_release (registered : self.Registered) {id : Nat} (owner : id ∈ self.owned) :
    (self.release id).Registered := by
  constructor
  · intro other
    simp [release, registered.created]
  · intro other
    simp only [release, mem_trace_observe, observe_owned,
      registered.owned_nodup.mem_erase_iff, registered.owned,
      Observation.released.injEq, reduceCtorEq, or_false, not_or]
    tauto
  · intro other released
    rcases List.mem_append.mp released with earlier | isNew
    · exact registered.released_lt other earlier
    · cases List.mem_singleton.mp isNew
      exact (registered.created _).mp ((registered.owned _).mp owner).1
  · exact registered.owned_nodup.erase id
  · intro other locked
    apply registered.listed other
    rcases lock_iff.mp locked with owner | held
    · exact lock_iff.mpr (.inl (List.mem_of_mem_erase owner))
    · exact lock_iff.mpr (.inr held)
  · exact registered.subscribers_nodup
  · exact registered.subscribers_lt
  · exact registered.live_lt

theorem Registered.transition {next : Bus threads M} (registered : self.Registered)
    {event : BusEvent threads M} (taken : Transition capacity self event next) :
    next.Registered := by
  cases taken with
  | subscribe => exact registered_subscribe registered
  | publish thread message idle => exact registered_publish registered thread message
  | deliver thread publishing id rest busy next =>
      cases opened : (self.objects id).closed with
      | true =>
          rw [deliver_of_closed opened]
          refine registered.frame rfl rfl rfl ?_ ?_
          · intro other found after
            exact setInFlight_held busy (by rintro _ ⟨⟩; rfl) after
          · simp
      | false =>
          rw [deliver_of_open opened]
          refine registered.frame rfl rfl rfl ?_ ?_
          · intro other found after
            exact setInFlight_held busy (by rintro _ ⟨⟩; rfl) after
          · simp
  | finish thread publishing busy done =>
      refine registered.frame rfl rfl rfl ?_ ?_
      · intro other found after
        exact setInFlight_held busy (by rintro _ ⟨⟩) after
      · simp [finish]
  | pop id owner =>
      rw [pop_eq]
      refine registered.frame rfl rfl rfl ?_ ?_
      · intro other found after
        exact ⟨found, after, rfl⟩
      · simp
  | close id owner =>
      refine registered.frame rfl rfl rfl ?_ ?_
      · intro other found after
        exact ⟨found, after, rfl⟩
      · simp [close]
  | release id owner => exact registered_release registered owner

/-! ## How far the publishes have come -/

/-- Snapshots are numbered in their order, a thread has one publish in flight, and
the delivery steps taken and those pending make up the snapshot. -/
structure Underway (bus : Bus threads M) : Prop where
  numbered : (snapshots bus.trace).map (·.1.number) = List.range bus.published
  live_nodup : ∀ snapshot ∈ snapshots bus.trace, snapshot.2.Nodup
  busy (thread : Fin threads) (publishing : Publishing threads M) :
    bus.inFlight thread = some publishing →
      publishing.envelope.publisher = thread ∧
      (publishing.envelope, publishing.live) ∈ snapshots bus.trace ∧
      .completed publishing.envelope ∉ bus.trace ∧
      handled publishing.envelope.number bus.trace ++ publishing.pending = publishing.live
  latest (thread : Fin threads) (publishing : Publishing threads M) :
    bus.inFlight thread = some publishing → ∀ snapshot ∈ snapshots bus.trace,
      snapshot.1.publisher = thread → snapshot.1.number ≤ publishing.envelope.number
  settled : ∀ snapshot ∈ snapshots bus.trace,
    (.completed snapshot.1 ∈ bus.trace ∧ handled snapshot.1.number bus.trace = snapshot.2) ∨
    ∃ publishing, bus.inFlight snapshot.1.publisher = some publishing ∧
      publishing.envelope = snapshot.1 ∧ publishing.live = snapshot.2
  completed_lt (envelope : Envelope threads M) :
    .completed envelope ∈ bus.trace → envelope.number < bus.published
  handled_lt (number id : Nat) : id ∈ handled number bus.trace → number < bus.published

theorem underway_initial : Underway ({} : Bus threads M) := by
  constructor <;> simp [snapshots, handled]

namespace Underway

variable {next : Bus threads M} (underway : self.Underway)
include underway

/-- A number belongs to one snapshot. -/
theorem unique {first second : Envelope threads M × List Nat}
    (firstMem : first ∈ snapshots self.trace) (secondMem : second ∈ snapshots self.trace)
    (numberEq : first.1.number = second.1.number) : first = second := by
  have distinct : ((snapshots self.trace).map (·.1.number)).Nodup := by
    rw [underway.numbered]
    exact List.nodup_range
  exact List.inj_on_of_nodup_map distinct firstMem secondMem numberEq

theorem number_lt {snapshot : Envelope threads M × List Nat}
    (membership : snapshot ∈ snapshots self.trace) :
    snapshot.1.number < self.published := by
  have numbered := List.mem_map_of_mem (f := fun pair => pair.1.number) membership
  rw [underway.numbered] at numbered
  exact List.mem_range.mp numbered

/-- A step that is no part of a `Publish`. -/
theorem frame (inFlightEq : next.inFlight = self.inFlight)
    (publishedEq : next.published = self.published)
    (snapshotsEq : snapshots next.trace = snapshots self.trace)
    (handledEq : ∀ number, handled number next.trace = handled number self.trace)
    (completedIff : ∀ envelope : Envelope threads M,
      .completed envelope ∈ next.trace ↔ .completed envelope ∈ self.trace) :
    next.Underway := by
  constructor
  · rw [snapshotsEq, publishedEq]
    exact underway.numbered
  · rw [snapshotsEq]
    exact underway.live_nodup
  · intro thread publishing busy
    rw [snapshotsEq, handledEq, completedIff]
    exact underway.busy thread publishing (inFlightEq ▸ busy)
  · intro thread publishing busy
    rw [snapshotsEq]
    exact underway.latest thread publishing (inFlightEq ▸ busy)
  · intro snapshot membership
    rw [snapshotsEq] at membership
    rw [handledEq, completedIff, inFlightEq]
    exact underway.settled snapshot membership
  · intro envelope completed
    rw [publishedEq]
    exact underway.completed_lt envelope ((completedIff envelope).mp completed)
  · intro number id membership
    rw [publishedEq]
    exact underway.handled_lt number id (handledEq number ▸ membership)

/-- The delivery step of a `Publish` for the next subscriber of its snapshot. -/
theorem advance (busy : self.inFlight thread = some publishing)
    (pending : publishing.pending = id :: rest)
    (inFlightEq : next.inFlight =
      Function.update self.inFlight thread (some { publishing with pending := rest }))
    (publishedEq : next.published = self.published)
    (snapshotsEq : snapshots next.trace = snapshots self.trace)
    (handledEq : ∀ number, handled number next.trace =
      handled number self.trace ++ if publishing.envelope.number = number then [id] else [])
    (completedIff : ∀ envelope : Envelope threads M,
      .completed envelope ∈ next.trace ↔ .completed envelope ∈ self.trace) :
    next.Underway := by
  rcases underway.busy thread publishing busy with ⟨publisherEq, taken, running, progress⟩
  -- The steps of the other publishes are not concerned: they have other numbers.
  have others : ∀ snapshot ∈ snapshots self.trace, snapshot.1 ≠ publishing.envelope →
      handled snapshot.1.number next.trace = handled snapshot.1.number self.trace := by
    intro snapshot membership different
    rw [handledEq, if_neg, List.append_nil]
    intro numberEq
    exact different (congrArg Prod.fst (underway.unique membership taken numberEq.symm))
  constructor
  · rw [snapshotsEq, publishedEq]
    exact underway.numbered
  · rw [snapshotsEq]
    exact underway.live_nodup
  · intro other found busyAfter
    rw [inFlightEq] at busyAfter
    rw [snapshotsEq, completedIff]
    by_cases same : other = thread
    · subst same
      rw [Function.update_self] at busyAfter
      cases busyAfter
      refine ⟨publisherEq, taken, running, ?_⟩
      rw [handledEq, if_pos rfl, List.append_assoc, List.singleton_append, ← pending]
      exact progress
    · rw [Function.update_of_ne same] at busyAfter
      rcases underway.busy other found busyAfter with ⟨ownEq, ownTaken, ownRunning, ownProgress⟩
      refine ⟨ownEq, ownTaken, ownRunning, ?_⟩
      rw [others (found.envelope, found.live) ownTaken]
      · exact ownProgress
      · intro equality
        exact same (by rw [← ownEq, ← publisherEq, ← equality])
  · intro other found busyAfter
    rw [inFlightEq] at busyAfter
    rw [snapshotsEq]
    by_cases same : other = thread
    · subst same
      rw [Function.update_self] at busyAfter
      cases busyAfter
      exact underway.latest other publishing busy
    · rw [Function.update_of_ne same] at busyAfter
      exact underway.latest other found busyAfter
  · intro snapshot membership
    rw [snapshotsEq] at membership
    rw [completedIff, inFlightEq]
    rcases underway.settled snapshot membership with ⟨completed, all⟩ | ⟨found, held, same⟩
    · left
      refine ⟨completed, ?_⟩
      rw [others snapshot membership]
      · exact all
      · intro equality
        exact running (equality ▸ completed)
    · right
      by_cases same' : snapshot.1.publisher = thread
      · rw [same', busy] at held
        cases held
        rw [same', Function.update_self]
        exact ⟨_, rfl, same⟩
      · rw [Function.update_of_ne same']
        exact ⟨found, held, same⟩
  · intro envelope completed
    rw [publishedEq]
    exact underway.completed_lt envelope ((completedIff envelope).mp completed)
  · intro number other membership
    rw [publishedEq]
    rw [handledEq, List.mem_append] at membership
    rcases membership with earlier | own
    · exact underway.handled_lt number other earlier
    · by_cases numberEq : publishing.envelope.number = number
      · rw [← numberEq]
        exact underway.number_lt taken
      · rw [if_neg numberEq] at own
        cases own

theorem publish {message : M} (idle : self.inFlight thread = none)
    (subscribers_nodup : self.subscribers.Nodup) :
    (self.publish thread message).Underway := by
  have snapshotsEq : snapshots (self.publish thread message).trace =
      snapshots self.trace ++ [(⟨self.published, thread, message⟩,
        self.subscribers.filter self.lock)] := by
    simp [Bus.publish, snapshots]
  have handledEq : ∀ number, handled number (self.publish thread message).trace =
      handled number self.trace := by
    simp [Bus.publish, handled]
  have completedIff : ∀ envelope : Envelope threads M,
      .completed envelope ∈ (self.publish thread message).trace ↔
        .completed envelope ∈ self.trace := by
    simp [Bus.publish]
  constructor
  · rw [snapshotsEq, List.map_append, underway.numbered]
    exact List.range_succ.symm
  · rw [snapshotsEq]
    intro snapshot membership
    rcases List.mem_append.mp membership with earlier | isNew
    · exact underway.live_nodup snapshot earlier
    · rw [List.mem_singleton.mp isNew]
      exact subscribers_nodup.filter _
  · intro other publishing busy
    rw [snapshotsEq, handledEq, completedIff]
    rcases inFlight_publish busy with ⟨rfl, rfl⟩ | earlier
    · refine ⟨rfl, List.mem_append_right _ (List.mem_singleton_self _), ?_, ?_⟩
      · intro completed
        exact Nat.lt_irrefl _ (underway.completed_lt _ completed)
      · rw [List.eq_nil_iff_forall_not_mem.mpr fun id membership =>
          Nat.lt_irrefl _ (underway.handled_lt _ id membership), List.nil_append]
    · rcases underway.busy other publishing earlier with ⟨own, taken, running, progress⟩
      exact ⟨own, List.mem_append_left _ taken, running, progress⟩
  · intro other publishing busy snapshot membership publisherEq
    rw [snapshotsEq] at membership
    rcases inFlight_publish busy with ⟨rfl, rfl⟩ | earlier
    · rcases List.mem_append.mp membership with old | isNew
      · exact Nat.le_of_lt (underway.number_lt old)
      · cases List.mem_singleton.mp isNew
        exact Nat.le_refl _
    · rcases List.mem_append.mp membership with old | isNew
      · exact underway.latest other publishing earlier snapshot old publisherEq
      · rw [List.mem_singleton.mp isNew] at publisherEq
        cases publisherEq.symm.trans rfl
        rw [idle] at earlier
        cases earlier
  · intro snapshot membership
    rw [snapshotsEq] at membership
    rw [completedIff, handledEq]
    rcases List.mem_append.mp membership with old | isNew
    · rcases underway.settled snapshot old with settled | ⟨publishing, held, same⟩
      · exact .inl settled
      · right
        refine ⟨publishing, ?_, same⟩
        simp only [Bus.publish, setInFlight, observe]
        rw [Function.update_of_ne]
        · exact held
        · rintro equality
          rw [equality, idle] at held
          cases held
    · rw [List.mem_singleton.mp isNew]
      right
      refine ⟨⟨_, _, self.subscribers.filter self.lock⟩, ?_, rfl, rfl⟩
      simp [Bus.publish]
  · intro envelope completed
    exact Nat.lt_succ_of_lt (underway.completed_lt envelope ((completedIff envelope).mp completed))
  · intro number id membership
    rw [handledEq] at membership
    exact Nat.lt_succ_of_lt (underway.handled_lt number id membership)

theorem finish (busy : self.inFlight thread = some publishing)
    (done : publishing.pending = []) : (self.finish thread publishing).Underway := by
  rcases underway.busy thread publishing busy with ⟨publisherEq, taken, running, progress⟩
  have snapshotsEq : snapshots (self.finish thread publishing).trace =
      snapshots self.trace := by
    simp [Bus.finish, snapshots]
  have handledEq : ∀ number, handled number (self.finish thread publishing).trace =
      handled number self.trace := by
    simp [Bus.finish, handled]
  have completedIff : ∀ envelope : Envelope threads M,
      .completed envelope ∈ (self.finish thread publishing).trace ↔
        .completed envelope ∈ self.trace ∨ envelope = publishing.envelope := by
    simp [Bus.finish]
  have inFlightEq : (self.finish thread publishing).inFlight =
      Function.update self.inFlight thread none := rfl
  constructor
  · rw [snapshotsEq]
    exact underway.numbered
  · rw [snapshotsEq]
    exact underway.live_nodup
  · intro other found busyAfter
    rw [inFlightEq] at busyAfter
    rw [snapshotsEq, handledEq, completedIff]
    by_cases same : other = thread
    · rw [same, Function.update_self] at busyAfter
      cases busyAfter
    · rw [Function.update_of_ne same] at busyAfter
      rcases underway.busy other found busyAfter with ⟨ownEq, ownTaken, ownRunning, ownProgress⟩
      refine ⟨ownEq, ownTaken, ?_, ownProgress⟩
      rintro (completed | equality)
      · exact ownRunning completed
      · exact same (by rw [← ownEq, ← publisherEq, equality])
  · intro other found busyAfter
    rw [inFlightEq] at busyAfter
    rw [snapshotsEq]
    by_cases same : other = thread
    · rw [same, Function.update_self] at busyAfter
      cases busyAfter
    · rw [Function.update_of_ne same] at busyAfter
      exact underway.latest other found busyAfter
  · intro snapshot membership
    rw [snapshotsEq] at membership
    rw [completedIff, handledEq, inFlightEq]
    rcases underway.settled snapshot membership with ⟨completed, all⟩ | ⟨found, held, same, liveEq⟩
    · exact .inl ⟨.inl completed, all⟩
    · by_cases own : snapshot.1.publisher = thread
      · left
        rw [own, busy] at held
        cases held
        rw [done, List.append_nil] at progress
        rw [← same, ← liveEq]
        exact ⟨.inr rfl, progress⟩
      · right
        rw [Function.update_of_ne own]
        exact ⟨found, held, same, liveEq⟩
  · intro envelope completed
    rcases (completedIff envelope).mp completed with earlier | rfl
    · exact underway.completed_lt envelope earlier
    · exact underway.number_lt taken
  · intro number id membership
    rw [handledEq] at membership
    exact underway.handled_lt number id membership

theorem transition {next : Bus threads M} (subscribers_nodup : self.subscribers.Nodup)
    {event : BusEvent threads M} (taken : Transition capacity self event next) : next.Underway := by
  cases taken with
  | subscribe =>
      refine underway.frame rfl rfl ?_ ?_ ?_ <;>
        simp [subscribe, snapshots, handled]
  | publish thread message idle => exact underway.publish idle subscribers_nodup
  | deliver thread publishing id rest busy pending =>
      cases opened : (self.objects id).closed with
      | true =>
          rw [deliver_of_closed opened]
          refine underway.advance busy pending rfl rfl ?_ ?_ ?_
          · simp [snapshots]
          · intro number
            by_cases numberEq : publishing.envelope.number = number <;>
              simp [handled, numberEq]
          · simp
      | false =>
          rw [deliver_of_open opened]
          refine underway.advance busy pending rfl rfl ?_ ?_ ?_
          · simp [snapshots]
          · intro number
            by_cases numberEq : publishing.envelope.number = number <;>
              simp [handled, numberEq]
          · simp
  | finish thread publishing busy done => exact underway.finish busy done
  | pop id owner =>
      rw [pop_eq]
      refine underway.frame rfl rfl ?_ ?_ ?_ <;>
        simp [snapshots, handled]
  | close id owner =>
      refine underway.frame rfl rfl ?_ ?_ ?_ <;>
        simp [close, snapshots, handled]
  | release id owner =>
      refine underway.frame rfl rfl ?_ ?_ ?_ <;>
        simp [release, snapshots, handled]

end Underway

/-- With one publisher the publish in flight is the last one. -/
theorem Underway.current {bus : Bus 1 M} {last : Publishing 1 M} (underway : bus.Underway)
    (busy : bus.inFlight 0 = some last) : last.envelope.number + 1 = bus.published := by
  rcases underway.busy 0 last busy with ⟨-, taken, -, -⟩
  have below : last.envelope.number < bus.published := underway.number_lt taken
  have newest : bus.published - 1 ∈ (snapshots bus.trace).map (·.1.number) := by
    rw [underway.numbered, List.mem_range]
    exact Nat.sub_lt (Nat.zero_lt_of_lt below) Nat.one_pos
  rcases List.mem_map.mp newest with ⟨snapshot, membership, numberEq⟩
  have bound := underway.latest 0 last busy snapshot membership (Subsingleton.elim _ _)
  omega

/-! ## What the queues hold -/

/-- Each subscriber's queue, and the closed flag, as its history tells. -/
structure Queued (capacity : Nat) (bus : Bus threads M) : Prop where
  ledger (id : Nat) : Ledger.replay capacity (queueOps id bus.trace) =
    { queue := (bus.objects id).queue
      pushed := deliveredTo id bus.trace
      popped := poppedBy id bus.trace
      dropped := droppedFrom id bus.trace }
  closed (id : Nat) : (bus.objects id).closed = true ↔ .closed id ∈ bus.trace

theorem queued_initial : Queued capacity ({} : Bus threads M) := by
  constructor <;> simp [queueOps, deliveredTo, poppedBy, droppedFrom]

namespace Queued

variable {next : Bus threads M}

theorem length_le (queued : self.Queued capacity) (positive : 0 < capacity) (id : Nat) :
    (self.objects id).queue.length ≤ capacity := by
  have bounded := (Ledger.balanced_replay positive (queueOps id self.trace)).bounded
  rw [queued.ledger id] at bounded
  exact bounded

theorem at_of_leaves {id : Nat} {made : Observation threads M} (queued : self.Queued capacity)
    (leaves : made.Leaves id) (traceEq : next.trace = self.trace ++ [made])
    (objectEq : next.objects id = self.objects id) :
    Ledger.replay capacity (queueOps id next.trace) =
      { queue := (next.objects id).queue
        pushed := deliveredTo id next.trace
        popped := poppedBy id next.trace
        dropped := droppedFrom id next.trace } ∧
      ((next.objects id).closed = true ↔ .closed id ∈ next.trace) := by
  rcases leaves with ⟨ops, delivered, popped, dropped, different⟩
  rw [traceEq, objectEq, queueOps_append, deliveredTo_append, poppedBy_append,
    droppedFrom_append, ops, delivered, popped, dropped]
  simp only [List.append_nil, List.mem_append, List.mem_singleton, different.symm, or_false]
  exact ⟨queued.ledger id, queued.closed id⟩

/-- A step that touches no subscriber object. -/
theorem frame {made : Observation threads M} (queued : self.Queued capacity)
    (objectsEq : next.objects = self.objects) (traceEq : next.trace = self.trace ++ [made])
    (leaves : ∀ id, made.Leaves id) : next.Queued capacity := by
  constructor
  · intro id
    exact (queued.at_of_leaves (leaves id) traceEq (congrFun objectsEq id)).1
  · intro id
    exact (queued.at_of_leaves (leaves id) traceEq (congrFun objectsEq id)).2

/-- A step on the subscriber object `id`. -/
theorem update {made : Observation threads M} {object : Subscriber threads M}
    (queued : self.Queued capacity)
    (objectsEq : next.objects = Function.update self.objects id object)
    (traceEq : next.trace = self.trace ++ [made]) (leaves : ∀ other, other ≠ id →
      made.Leaves other)
    (ledger : Ledger.replay capacity (queueOps id self.trace ++ queueOps id [made]) =
      { queue := object.queue
        pushed := deliveredTo id self.trace ++ deliveredTo id [made]
        popped := poppedBy id self.trace ++ poppedBy id [made]
        dropped := droppedFrom id self.trace ++ droppedFrom id [made] })
    (closed : object.closed = true ↔ .closed id ∈ self.trace ∨ made = .closed id) :
    next.Queued capacity := by
  have elsewhere : ∀ other, other ≠ id → next.objects other = self.objects other := by
    intro other different
    rw [objectsEq, Function.update_of_ne different]
  have here : next.objects id = object := by
    rw [objectsEq, Function.update_self]
  constructor
  · intro other
    by_cases same : other = id
    · rw [same, here, traceEq, queueOps_append, deliveredTo_append, poppedBy_append,
        droppedFrom_append]
      exact ledger
    · exact (queued.at_of_leaves (leaves other same) traceEq (elsewhere other same)).1
  · intro other
    by_cases same : other = id
    · rw [same, here, traceEq, List.mem_append, List.mem_singleton, eq_comm (b := made)]
      exact closed
    · exact (queued.at_of_leaves (leaves other same) traceEq (elsewhere other same)).2

theorem transition (queued : self.Queued capacity) (positive : 0 < capacity)
    {event : BusEvent threads M} (taken : Transition capacity self event next) :
    next.Queued capacity := by
  cases taken with
  | subscribe =>
      refine queued.frame rfl rfl fun id => ?_
      exact Observation.leaves_of_subject (by simp [Observation.subject?])
  | publish thread message idle =>
      refine queued.frame rfl rfl fun id => ?_
      exact Observation.leaves_of_subject (by simp [Observation.subject?])
  | deliver thread publishing id rest busy pending =>
      cases opened : (self.objects id).closed with
      | true =>
          rw [deliver_of_closed opened]
          refine queued.frame rfl rfl fun id => ?_
          exact Observation.leaves_of_subject (by simp [Observation.subject?])
      | false =>
          rw [deliver_of_open opened]
          refine queued.update rfl rfl (fun other different => ?_) ?_ ?_
          · apply Observation.leaves_of_subject
            simpa [Observation.subject?] using different.symm
          · have bounded := queued.length_le positive id
            have pushed : ∀ dropped, queueOps id
                [.delivered id publishing.envelope dropped] = [.push publishing.envelope] := by
              simp [queueOps, Observation.queueOp?]
            rw [pushed, Ledger.replay_snoc, queued.ledger id, Ledger.push_of_le positive bounded]
            rw [droppedFrom_delivered]
            simp [deliveredTo, poppedBy]
          · simpa [opened] using queued.closed id
  | finish thread publishing busy done =>
      refine queued.frame rfl rfl fun id => ?_
      exact Observation.leaves_of_subject (by simp [Observation.subject?])
  | pop id owner =>
      rw [pop_eq]
      refine queued.update rfl rfl (fun other different => ?_) ?_ ?_
      · exact Observation.leaves_of_subject (by simpa [Observation.subject?] using different.symm)
      · have popped : ∀ result : Option (Envelope threads M),
            queueOps id [.popped id result] = [.pop] := by
          simp [queueOps, Observation.queueOp?]
        rw [popped, Ledger.replay_snoc, queued.ledger id]
        rw [poppedBy_popped]
        simp [Ledger.step, deliveredTo, droppedFrom]
      · simpa using queued.closed id
  | close id owner =>
      refine queued.update rfl rfl (fun other different => ?_) ?_ ?_
      · exact Observation.leaves_of_subject (by simpa [Observation.subject?] using different.symm)
      · simpa [queueOps, Observation.queueOp?, deliveredTo, poppedBy, droppedFrom,
          List.filterMap_cons, Subscriber.close] using queued.ledger id
      · simp [Subscriber.close]
  | release id owner =>
      refine queued.frame rfl rfl fun id => ?_
      exact Observation.leaves_of_subject (by simp [Observation.subject?])

end Queued

end Bus

end HWPanel.Core
