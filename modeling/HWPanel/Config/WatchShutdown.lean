import HWPanel.Config.FileWatch

/-!
# Stopping the watch

`StopFileWatch` clears `watching_`, cancels the call that is out and joins the thread of the
loop. The loop ends within a few of its steps and none of them blocks, so the join returns;
but the buffer belongs to the loop, and the call may be out when it leaves.
-/

namespace HWPanel.Config

open HWPanel.Library

/-- The steps of the loop. -/
def WatchEvent.ofLoop : WatchEvent → Bool
  | .arm _ => true
  | .test => true
  | .timeout => true
  | .wake => true
  | .check => true
  | .publish => true
  | .change _ => false
  | .complete => false
  | .stop => false
  | .cancel => false

def WatchRecord.isPublication : WatchRecord → Bool
  | .change => false
  | .published _ _ _ => true

namespace FileWatch

/-- The calls of `PublishNow` so far. -/
def publications (self : FileWatch) : Nat := self.history.countP WatchRecord.isPublication

/-- The steps that are left to a loop whose `watching_` is cleared. -/
def stepsLeft : WatchPhase → Nat
  | .publishing => 3
  | .starting => 2
  | .arming => 2
  | .waiting => 2
  | .testing => 1
  | .timedOut => 1
  | .woken => 1
  | .ended => 0

/-- The publications that are left to it. -/
def publicationsLeft : WatchPhase → Nat
  | .publishing => 1
  | _ => 0

variable {self next : FileWatch} {event : WatchEvent}

/-- What a step does to a loop that winds down. -/
structure Winds (watch next : FileWatch) (event : WatchEvent) : Prop where
  watching : next.watching = false
  steps : stepsLeft next.phase + (if event.ofLoop then 1 else 0) ≤ stepsLeft watch.phase
  publications : next.publications + publicationsLeft next.phase ≤
    watch.publications + publicationsLeft watch.phase

theorem publications_publish (self : FileWatch) :
    self.publish.publications ≤ self.publications + 1 := by
  rw [publish]
  split
  · simp [publications, WatchRecord.isPublication]
  · exact Nat.le_succ _

@[simp] theorem phase_publish (self : FileWatch) : self.publish.phase = .arming := by
  rw [publish]
  split
  · rfl
  · rfl

@[simp] theorem armed_publish (self : FileWatch) : self.publish.armed = self.armed := by
  rw [publish]
  split
  · rfl
  · rfl

theorem winds_step (cleared : self.watching = false) (taken : self.step event = some next) :
    Winds self next event := by
  cases event with
  | change nameLength =>
      obtain ⟨started, nextEq⟩ := Option.ite_none_left_eq_some.mp taken
      cases nextEq
      exact ⟨cleared, le_rfl, by simp [publications, WatchRecord.isPublication]⟩
  | complete =>
      obtain ⟨due, nextEq⟩ := Option.ite_none_right_eq_some.mp taken
      cases nextEq
      exact ⟨cleared, le_rfl, le_rfl⟩
  | arm accepted =>
      obtain ⟨ready, nextEq⟩ := Option.ite_none_right_eq_some.mp taken
      cases nextEq
      have before : stepsLeft self.phase = 2 := by
        rcases ready with starting | arming
        · rw [starting]
          rfl
        · rw [arming]
          rfl
      cases accepted with
      | true => exact ⟨cleared, le_of_eq before.symm, Nat.le_add_right _ _⟩
      | false =>
          refine ⟨cleared, ?_, Nat.le_add_right _ _⟩
          rw [before]
          exact Nat.le_succ 1
  | test =>
      obtain ⟨testing, nextEq⟩ := Option.ite_none_right_eq_some.mp taken
      rw [if_neg (Bool.not_eq_true _ ▸ cleared)] at nextEq
      cases nextEq
      exact ⟨cleared, testing ▸ le_rfl, Nat.le_add_right _ _⟩
  | timeout =>
      obtain ⟨due, nextEq⟩ := Option.ite_none_right_eq_some.mp taken
      cases nextEq
      exact ⟨cleared, due.1 ▸ le_rfl, Nat.le_add_right _ _⟩
  | wake =>
      obtain ⟨due, nextEq⟩ := Option.ite_none_right_eq_some.mp taken
      cases nextEq
      exact ⟨cleared, due.1 ▸ le_rfl, Nat.le_add_right _ _⟩
  | check =>
      simp only [step, cleared, if_neg Bool.false_ne_true] at taken
      split at taken
      · rename_i timedOut
        cases taken
        exact ⟨rfl, timedOut ▸ le_rfl, Nat.le_add_right _ _⟩
      · rename_i woken
        cases taken
        exact ⟨rfl, woken ▸ le_rfl, Nat.le_add_right _ _⟩
      · cases taken
  | publish =>
      obtain ⟨publishing, nextEq⟩ := Option.ite_none_right_eq_some.mp taken
      cases nextEq
      refine ⟨?_, ?_, ?_⟩
      · rw [publish]
        split
        · exact cleared
        · exact cleared
      · rw [phase_publish, publishing]
        exact le_rfl
      · rw [phase_publish, publishing]
        exact self.publications_publish
  | stop =>
      obtain ⟨watching, -⟩ := Option.ite_none_right_eq_some.mp taken
      exact absurd (watching.symm.trans cleared) (by decide)
  | cancel =>
      obtain ⟨due, nextEq⟩ := Option.ite_none_right_eq_some.mp taken
      cases nextEq
      exact ⟨cleared, le_rfl, le_rfl⟩

theorem winds_run {events : List WatchEvent} (cleared : self.watching = false)
    (executed : run step self events = some next) :
    stepsLeft next.phase + events.countP WatchEvent.ofLoop ≤ stepsLeft self.phase ∧
      next.publications + publicationsLeft next.phase ≤
        self.publications + publicationsLeft self.phase := by
  induction events generalizing self with
  | nil =>
      cases executed
      exact ⟨le_rfl, le_rfl⟩
  | cons event rest ih =>
      obtain ⟨middle, taken, remaining⟩ := Option.bind_eq_some_iff.mp executed
      have winds := winds_step cleared taken
      obtain ⟨steps, publications⟩ := ih winds.watching remaining
      refine ⟨?_, le_trans publications winds.publications⟩
      have first := winds.steps
      rw [List.countP_cons]
      omega

theorem stepsLeft_le (phase : WatchPhase) : stepsLeft phase ≤ 3 := by
  cases phase <;> simp [stepsLeft]

theorem publicationsLeft_le (phase : WatchPhase) : publicationsLeft phase ≤ 1 := by
  cases phase <;> simp [publicationsLeft]

/-- The loop is never blocked. -/
theorem exists_loop_step (self : FileWatch) (running : self.phase ≠ .ended) :
    ∃ event : WatchEvent, event.ofLoop = true ∧ (self.step event).isSome = true := by
  cases phase : self.phase with
  | starting => exact ⟨.arm true, rfl, by simp [step, phase]⟩
  | testing => exact ⟨.test, rfl, by simp [step, phase]⟩
  | timedOut => exact ⟨.check, rfl, by simp [step, phase]⟩
  | waiting =>
      cases signalled : self.signalled with
      | true => exact ⟨.wake, rfl, by simp [step, phase, signalled]⟩
      | false => exact ⟨.timeout, rfl, by simp [step, phase, signalled]⟩
  | woken => exact ⟨.check, rfl, by simp [step, phase]⟩
  | publishing => exact ⟨.publish, rfl, by simp [step, phase]⟩
  | arming => exact ⟨.arm true, rfl, by simp [step, phase]⟩
  | ended => exact absurd phase running

/-! ## The read that is left behind -/

/-- The call made last has neither completed nor been cancelled. -/
def CallOut (events : List WatchEvent) : Prop :=
  ∃ front later, events = front ++ .arm true :: later ∧
    ∀ event ∈ later, event ≠ .complete ∧ event ≠ .cancel

/-- The loop left at its head, or at the test after a wait that timed out. -/
def LeftUncompleted (events : List WatchEvent) : Prop :=
  [.test] <:+ events.filter WatchEvent.ofLoop ∨
    [.timeout, .check] <:+ events.filter WatchEvent.ofLoop

theorem callOut_snoc {past : List WatchEvent} :
    CallOut (past ++ [event]) ↔
      event = .arm true ∨ (event ≠ .complete ∧ event ≠ .cancel) ∧ CallOut past := by
  constructor
  · rintro ⟨front, later, split, pending⟩
    rcases List.eq_nil_or_concat later with rfl | ⟨rest, last, rfl⟩
    · cases (List.append_inj' split rfl).2
      exact .inl rfl
    · rw [List.concat_eq_append] at split pending
      rw [← List.cons_append, ← List.append_assoc] at split
      obtain ⟨pastEq, lastEq⟩ := List.append_inj' split rfl
      cases lastEq
      refine .inr ⟨pending event (List.mem_append_right _ List.mem_cons_self), front, rest,
        pastEq, ?_⟩
      exact fun other membership => pending other (List.mem_append_left _ membership)
  · rintro (rfl | ⟨notEnded, front, later, rfl, pending⟩)
    · exact ⟨past, [], rfl, List.forall_mem_nil _⟩
    · refine ⟨front, later ++ [event], by simp, fun other membership => ?_⟩
      rcases List.mem_append.mp membership with earlier | last
      · exact pending other earlier
      · cases List.mem_singleton.mp last
        exact notEnded

/-- Where the call is that the loop made last, and what the loop did last. -/
structure Outstanding (past : List WatchEvent) (watch : FileWatch) : Prop where
  consistent : watch.Consistent
  called : watch.armed = true ↔ CallOut past
  timedOut : watch.phase = .timedOut → [.timeout] <:+ past.filter WatchEvent.ofLoop
  ended : watch.phase = .ended → watch.armed = true → LeftUncompleted past

theorem outstanding_start (events : Bool) : Outstanding [] { events } where
  consistent := consistent_start events
  called := by
    refine iff_of_false Bool.false_ne_true ?_
    rintro ⟨front, later, split, -⟩
    simp at split
  timedOut timedOut := by cases timedOut
  ended ended := by cases ended

variable {past : List WatchEvent}

/-- The call is where it was. -/
theorem Outstanding.called_snoc (outstanding : Outstanding past self)
    (same : next.armed = self.armed) (other : event ≠ .arm true ∧ event ≠ .complete ∧
      event ≠ .cancel) : next.armed = true ↔ CallOut (past ++ [event]) := by
  rw [callOut_snoc, same, outstanding.called]
  constructor
  · exact fun out => .inr ⟨other.2, out⟩
  · rintro (armed | ⟨-, out⟩)
    · exact absurd armed other.1
    · exact out

/-- The call has ended. -/
theorem called_of_ended (unarmed : next.armed = false)
    (ended : event = .complete ∨ event = .cancel) :
    next.armed = true ↔ CallOut (past ++ [event]) := by
  rw [callOut_snoc, unarmed]
  refine iff_of_false Bool.false_ne_true ?_
  rcases ended with rfl | rfl
  · rintro (armed | ⟨notEnded, -⟩)
    · cases armed
    · exact notEnded.1 rfl
  · rintro (armed | ⟨notEnded, -⟩)
    · cases armed
    · exact notEnded.2 rfl

/-- A step of the system or of `StopFileWatch` leaves the loop where it is. -/
theorem Outstanding.elsewhere (outstanding : Outstanding past self)
    (consistent : next.Consistent) (other : event.ofLoop = false)
    (phase : next.phase = self.phase) (armed : next.armed = true → self.armed = true)
    (called : next.armed = true ↔ CallOut (past ++ [event])) :
    Outstanding (past ++ [event]) next := by
  have own : (past ++ [event]).filter WatchEvent.ofLoop = past.filter WatchEvent.ofLoop := by
    rw [List.filter_append, List.filter_cons_of_neg (Bool.not_eq_true _ ▸ other),
      List.filter_nil, List.append_nil]
  constructor
  · exact consistent
  · exact called
  · rw [phase, own]
    exact outstanding.timedOut
  · intro ended isArmed
    rw [phase] at ended
    rw [LeftUncompleted, own]
    exact outstanding.ended ended (armed isArmed)

/-- A step of the loop that neither leaves it nor is a wait that times out. -/
theorem Outstanding.goes_on (outstanding : Outstanding past self)
    (consistent : next.Consistent) (phase : next.phase ≠ .timedOut ∧ next.phase ≠ .ended)
    (same : next.armed = self.armed) (other : event ≠ .arm true ∧ event ≠ .complete ∧
      event ≠ .cancel) : Outstanding (past ++ [event]) next where
  consistent := consistent
  called := outstanding.called_snoc same other
  timedOut timedOut := absurd timedOut phase.1
  ended ended := absurd ended phase.2

/-- The loop leaves; a call is out only at its head or after a wait that timed out. -/
theorem Outstanding.leaves (outstanding : Outstanding past self)
    (consistent : next.Consistent) (ended : next.phase = .ended)
    (same : next.armed = self.armed) (other : event ≠ .arm true ∧ event ≠ .complete ∧
      event ≠ .cancel) (left : self.armed = true → LeftUncompleted (past ++ [event])) :
    Outstanding (past ++ [event]) next where
  consistent := consistent
  called := outstanding.called_snoc same other
  timedOut timedOut := by cases ended.symm.trans timedOut
  ended _ armed := left (same ▸ armed)

theorem Outstanding.arm (outstanding : Outstanding past self) (accepted : Bool)
    (ready : self.phase = .starting ∨ self.phase = .arming) :
    Outstanding (past ++ [.arm accepted]) (self.arm accepted) := by
  have consistent := consistent_arm self accepted
  have unarmed : ¬self.armed = true := by
    intro armed
    rcases ready with starting | arming
    · exact outstanding.consistent.waiting_of_armed armed (by decide) starting
    · exact outstanding.consistent.waiting_of_armed armed (by decide) arming
  cases accepted with
  | true =>
      constructor
      · exact consistent
      · exact iff_of_true rfl (callOut_snoc.mpr (.inl rfl))
      · intro timedOut
        cases timedOut
      · intro ended
        cases ended
  | false =>
      exact outstanding.leaves consistent rfl rfl (by simp) fun armed => absurd armed unarmed

/-- The step of the loop is the last of its own. -/
theorem filter_snoc (own : event.ofLoop = true) :
    (past ++ [event]).filter WatchEvent.ofLoop = past.filter WatchEvent.ofLoop ++ [event] := by
  rw [List.filter_append, List.filter_cons_of_pos own, List.filter_nil]

theorem Outstanding.check (outstanding : Outstanding past self)
    (taken : self.step .check = some next) : Outstanding (past ++ [.check]) next := by
  have consistent := outstanding.consistent.step taken
  simp only [FileWatch.step] at taken
  split at taken
  · rename_i timedOut
    cases taken
    by_cases watching : self.watching = true
    · simp only [if_pos watching] at consistent ⊢
      exact outstanding.goes_on consistent (by simp) rfl (by simp)
    · simp only [if_neg watching] at consistent ⊢
      refine outstanding.leaves consistent rfl rfl (by simp) fun _ => .inr ?_
      obtain ⟨front, own⟩ := outstanding.timedOut timedOut
      rw [filter_snoc rfl, ← own]
      exact ⟨front, by simp⟩
  · rename_i woken
    have unarmed : ¬self.armed = true := by
      rw [outstanding.consistent.signalled (outstanding.consistent.processing (.inl woken))]
      exact Bool.false_ne_true
    cases taken
    by_cases watching : self.watching = true
    · simp only [if_pos watching] at consistent ⊢
      exact outstanding.goes_on consistent (by simp) rfl (by simp)
    · simp only [if_neg watching] at consistent ⊢
      exact outstanding.leaves consistent rfl rfl (by simp) fun armed => absurd armed unarmed
  · cases taken

theorem Outstanding.step (outstanding : Outstanding past self)
    (taken : self.step event = some next) : Outstanding (past ++ [event]) next := by
  have consistent := outstanding.consistent.step taken
  cases event with
  | change nameLength =>
      obtain ⟨started, nextEq⟩ := Option.ite_none_left_eq_some.mp taken
      cases nextEq
      exact outstanding.elsewhere consistent rfl rfl id (outstanding.called_snoc rfl (by simp))
  | complete =>
      obtain ⟨due, nextEq⟩ := Option.ite_none_right_eq_some.mp taken
      cases nextEq
      exact outstanding.elsewhere consistent rfl rfl (fun _ => due.1)
        (called_of_ended rfl (.inl rfl))
  | arm accepted =>
      obtain ⟨ready, nextEq⟩ := Option.ite_none_right_eq_some.mp taken
      cases nextEq
      exact outstanding.arm accepted ready
  | test =>
      obtain ⟨testing, nextEq⟩ := Option.ite_none_right_eq_some.mp taken
      cases nextEq
      by_cases watching : self.watching = true
      · simp only [if_pos watching] at consistent ⊢
        exact outstanding.goes_on consistent (by simp) rfl (by simp)
      · simp only [if_neg watching] at consistent ⊢
        refine outstanding.leaves consistent rfl rfl (by simp) fun _ => .inl ?_
        rw [filter_snoc rfl]
        exact List.suffix_append _ _
  | timeout =>
      obtain ⟨due, nextEq⟩ := Option.ite_none_right_eq_some.mp taken
      cases nextEq
      constructor
      · exact consistent
      · exact outstanding.called_snoc rfl (by simp)
      · intro _
        rw [filter_snoc rfl]
        exact List.suffix_append _ _
      · intro ended
        cases ended
  | wake =>
      obtain ⟨due, nextEq⟩ := Option.ite_none_right_eq_some.mp taken
      cases nextEq
      exact outstanding.goes_on consistent (by simp) rfl (by simp)
  | check => exact outstanding.check taken
  | publish =>
      obtain ⟨publishing, nextEq⟩ := Option.ite_none_right_eq_some.mp taken
      cases nextEq
      refine outstanding.goes_on consistent ?_ self.armed_publish (by simp)
      rw [phase_publish]
      simp
  | stop =>
      obtain ⟨watching, nextEq⟩ := Option.ite_none_right_eq_some.mp taken
      cases nextEq
      exact outstanding.elsewhere consistent rfl rfl id (outstanding.called_snoc rfl (by simp))
  | cancel =>
      obtain ⟨due, nextEq⟩ := Option.ite_none_right_eq_some.mp taken
      cases nextEq
      exact outstanding.elsewhere consistent rfl rfl (fun _ => due.2)
        (called_of_ended rfl (.inr rfl))

theorem outstanding_of_run {events : Bool} {taken : List WatchEvent} {watch : FileWatch}
    (executed : run step { events } taken = some watch) : Outstanding taken watch :=
  run_history Outstanding (outstanding_start events)
    (fun _ _ _ _ outstanding => outstanding.step) executed

/-- What follows once `watching_` is cleared after the events `before`. -/
structure ShutdownLaw (before after : List WatchEvent) (stopped last : FileWatch) : Prop where
  steps : after.countP WatchEvent.ofLoop ≤ 3
  unblocked : last.phase ≠ .ended →
    ∃ event : WatchEvent, event.ofLoop = true ∧ (last.step event).isSome = true
  publications : last.publications ≤ stopped.publications + 1
  pending : last.armed = true ↔ CallOut (before ++ after)
  left : last.phase = .ended → last.armed = true → LeftUncompleted (before ++ after)

end FileWatch

/-- Once it is told to stop the loop ends within three of its steps without ever blocking,
publishes at most once more, and leaves a read to its freed buffer exactly where its last call
was out, which it then left at its head or after a wait that timed out. -/
theorem watch_shutdown (events : Bool) (before after : List WatchEvent)
    {stopped last : FileWatch} (reached : run FileWatch.step { events } before = some stopped)
    (cleared : stopped.watching = false)
    (executed : run FileWatch.step stopped after = some last) :
    FileWatch.ShutdownLaw before after stopped last := by
  have whole : run FileWatch.step { events } (before ++ after) = some last := by
    rw [run_append, reached]
    exact executed
  have outstanding := FileWatch.outstanding_of_run whole
  obtain ⟨steps, publications⟩ := FileWatch.winds_run cleared executed
  have few := FileWatch.stepsLeft_le stopped.phase
  have once := FileWatch.publicationsLeft_le stopped.phase
  exact
    { steps := by omega
      unblocked := last.exists_loop_step
      publications := by omega
      pending := outstanding.called
      left := outstanding.ended }

/-- The flag is cleared before the test that follows an `arm`, and the next change is written
where the buffer was. -/
theorem watch_shutdown_freed : ∃ stopped last,
    run FileWatch.step { events := true } [.arm true, .stop] = some stopped ∧
      run FileWatch.step stopped [.test, .change 12] = some last ∧
      last.phase = .ended ∧ last.armed = true ∧ (last.step .complete).isSome = true := by
  refine ⟨_, _, rfl, rfl, rfl, ?_, rfl⟩
  have law := watch_shutdown true [.arm true, .stop] [.test, .change 12] rfl rfl rfl
  exact law.pending.mpr ⟨[], [.stop, .test, .change 12], rfl, by simp⟩

end HWPanel.Config
