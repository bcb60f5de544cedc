import HWPanel.Library.Run
import Mathlib.Algebra.Ring.Nat

/-!
# The watch on the profile directory

`ProfileManager::WatchLoop` beside the directory handle. Between two calls of
`ReadDirectoryChangesW` the system records the changes; a call completes with all of
them, or with zero bytes when they do not fit in its buffer, and then they are lost.
-/

namespace HWPanel.Config

open HWPanel.Library

/-- Where the loop is: before its first `arm`, at the test of `watching_` at its head, in
`WaitForSingleObject`, at the test after a wait that timed out or that a completion ended, at
the result, and before the next `arm`. -/
inductive WatchPhase where
  | starting
  | testing
  | waiting
  | timedOut
  | woken
  | publishing
  | arming
  | ended
  deriving DecidableEq

/-- The loop waits or goes around to wait again. -/
def WatchPhase.idles : WatchPhase → Bool
  | .testing | .waiting | .timedOut => true
  | _ => false

/-- What the history of a watch shows: the changes since the first `arm`, and the calls of
`PublishNow`. -/
inductive WatchRecord where
  | change
  | published (level title message : String)
  deriving DecidableEq

/-- The size of the buffer. -/
def bufferSize : Nat := 4096

/-- The bytes of a `FILE_NOTIFY_INFORMATION`: three `DWORD`s and the name, aligned. -/
def recordSize (nameLength : Nat) : Nat := (12 + 2 * nameLength + 3) / 4 * 4

/-- The bytes of a batch of records, by the lengths of their names. -/
def batchSize (names : List Nat) : Nat := (names.map recordSize).sum

/-- `recorded` are the changes that the system keeps, and `batch` those of the last
completion, by the lengths of their names. -/
structure FileWatch where
  events : Bool
  watching : Bool := true
  phase : WatchPhase := .starting
  recorded : List Nat := []
  armed : Bool := false
  signalled : Bool := false
  batch : List Nat := []
  history : List WatchRecord := []

/-- `change` and `complete` are the system's, `stop` and `cancel` those of `StopFileWatch`,
and the others the loop's. -/
inductive WatchEvent where
  | change (nameLength : Nat)
  | complete
  | arm (accepted : Bool)
  | test
  | timeout
  | wake
  | check
  | publish
  | stop
  | cancel

namespace FileWatch

variable (self : FileWatch)

/-- The bytes that `GetOverlappedResult` gives. -/
def transferred : Nat := if batchSize self.batch ≤ bufferSize then batchSize self.batch else 0

/-- `ResetEvent` and `ReadDirectoryChangesW`. -/
def arm (accepted : Bool) : FileWatch :=
  if accepted then { self with signalled := false, armed := true, phase := .testing }
  else { self with signalled := false, phase := .ended }

/-- `PublishNow`, when bytes came and there is an event bus. -/
def publish : FileWatch :=
  if 0 < self.transferred ∧ self.events then
    { self with
      phase := .arming
      history := self.history ++
        [.published "info" "Profiles changed" "profile directory updated"] }
  else { self with phase := .arming }

def step : WatchEvent → Option FileWatch
  | .change nameLength =>
      if self.phase = .starting then none
      else some { self with
        recorded := self.recorded ++ [nameLength]
        history := self.history ++ [.change] }
  | .complete =>
      if self.armed ∧ self.recorded ≠ [] then
        some { self with
          batch := self.recorded
          recorded := []
          armed := false
          signalled := true }
      else none
  | .arm accepted =>
      if self.phase = .starting ∨ self.phase = .arming then some (self.arm accepted) else none
  | .test =>
      if self.phase = .testing then
        some { self with phase := if self.watching then .waiting else .ended }
      else none
  | .timeout =>
      if self.phase = .waiting ∧ ¬self.signalled then some { self with phase := .timedOut }
      else none
  | .wake =>
      if self.phase = .waiting ∧ self.signalled then some { self with phase := .woken }
      else none
  | .check =>
      match self.phase with
      | .timedOut => some { self with phase := if self.watching then .testing else .ended }
      | .woken => some { self with phase := if self.watching then .publishing else .ended }
      | _ => none
  | .publish => if self.phase = .publishing then some self.publish else none
  | .stop => if self.watching then some { self with watching := false } else none
  | .cancel =>
      if ¬self.watching ∧ self.armed then
        some { self with batch := [], armed := false, signalled := true }
      else none

/-- The latest change was followed by a publication. -/
def Followed : Prop := self.history.getLast? ≠ some .change

instance : Decidable self.Followed := inferInstanceAs (Decidable (_ ≠ _))

/-- While the loop watches and waits with nothing left to complete, the latest change was
announced. -/
def Announced : Prop :=
  self.watching = true → self.phase.idles = true → self.signalled = false →
    self.recorded = [] → self.Followed

/-- The loop arms again after a batch that did not fit, or without an event bus, when
nothing more was recorded and the latest change was not announced. -/
def Forgets (event : WatchEvent) : Prop :=
  event = .arm true ∧ self.watching = true ∧
    (bufferSize < batchSize self.batch ∨ self.events = false) ∧ self.recorded = [] ∧
    ¬self.Followed

end FileWatch

/-! ## What every step keeps -/

namespace FileWatch

/-- What a step does, by the event: the loop goes on, or leaves when `watching_` is
cleared. -/
inductive Transition (self : FileWatch) : WatchEvent → FileWatch → Prop
  | change (nameLength : Nat) (started : self.phase ≠ .starting) :
      Transition self (.change nameLength) { self with
        recorded := self.recorded ++ [nameLength]
        history := self.history ++ [.change] }
  | complete (armed : self.armed = true) (recorded : self.recorded ≠ []) :
      Transition self .complete { self with
        batch := self.recorded
        recorded := []
        armed := false
        signalled := true }
  | arm (accepted : Bool) (ready : self.phase = .starting ∨ self.phase = .arming) :
      Transition self (.arm accepted) (self.arm accepted)
  | test (testing : self.phase = .testing) : Transition self .test { self with phase := .waiting }
  | timeout (waiting : self.phase = .waiting) (unsignalled : ¬self.signalled = true) :
      Transition self .timeout { self with phase := .timedOut }
  | again (timedOut : self.phase = .timedOut) :
      Transition self .check { self with phase := .testing }
  | wake (signalled : self.signalled = true) :
      Transition self .wake { self with phase := .woken }
  | check (woken : self.phase = .woken) :
      Transition self .check { self with phase := .publishing }
  | leave (event : WatchEvent) : Transition self event { self with phase := .ended }
  | publish (publishing : self.phase = .publishing) : Transition self .publish self.publish
  | stop : Transition self .stop { self with watching := false }
  | cancel (stopped : ¬self.watching = true) (armed : self.armed = true) :
      Transition self .cancel { self with batch := [], armed := false, signalled := true }

theorem step_transition {self next : FileWatch} {event : WatchEvent}
    (taken : self.step event = some next) : Transition self event next := by
  cases event with
  | change nameLength =>
      rcases Option.ite_none_left_eq_some.mp taken with ⟨started, nextEq⟩
      cases nextEq
      exact .change nameLength started
  | complete =>
      rcases Option.ite_none_right_eq_some.mp taken with ⟨due, nextEq⟩
      cases nextEq
      exact .complete due.1 due.2
  | arm accepted =>
      rcases Option.ite_none_right_eq_some.mp taken with ⟨ready, nextEq⟩
      cases nextEq
      exact .arm accepted ready
  | test =>
      rcases Option.ite_none_right_eq_some.mp taken with ⟨testing, nextEq⟩
      cases nextEq
      split
      case isTrue => exact .test testing
      case isFalse => exact .leave .test
  | timeout =>
      rcases Option.ite_none_right_eq_some.mp taken with ⟨due, nextEq⟩
      cases nextEq
      exact .timeout due.1 due.2
  | wake =>
      rcases Option.ite_none_right_eq_some.mp taken with ⟨returned, nextEq⟩
      cases nextEq
      exact .wake returned.2
  | check =>
      simp only [step] at taken
      split at taken
      · rename_i timedOut
        cases taken
        split
        case isTrue => exact .again timedOut
        case isFalse => exact .leave .check
      · rename_i woken
        cases taken
        split
        case isTrue => exact .check woken
        case isFalse => exact .leave .check
      · cases taken
  | publish =>
      rcases Option.ite_none_right_eq_some.mp taken with ⟨publishing, nextEq⟩
      cases nextEq
      exact .publish publishing
  | stop =>
      rcases Option.ite_none_right_eq_some.mp taken with ⟨-, nextEq⟩
      cases nextEq
      exact .stop
  | cancel =>
      rcases Option.ite_none_right_eq_some.mp taken with ⟨cancelled, nextEq⟩
      cases nextEq
      exact .cancel cancelled.1 cancelled.2

/-- The call and its event, and what is known before the loop arms again. -/
structure Consistent (watch : FileWatch) : Prop where
  armed : watch.armed = true → watch.phase.idles = true ∨ watch.phase = .ended
  signalled : watch.signalled = true → watch.armed = false
  completed : watch.watching = true → watch.signalled = true → watch.batch ≠ []
  processing : watch.phase = .woken ∨ watch.phase = .publishing ∨ watch.phase = .arming →
    watch.signalled = true
  published : watch.phase = .arming → 0 < watch.transferred → watch.events = true →
    watch.recorded = [] → watch.Followed
  unarmed : watch.phase = .starting → watch.history = []

theorem consistent_start (events : Bool) : Consistent { events } where
  armed armed := absurd armed Bool.false_ne_true
  signalled signalled := absurd signalled Bool.false_ne_true
  completed _ signalled := absurd signalled Bool.false_ne_true
  processing phase := by simp at phase
  published phase := by simp at phase
  unarmed _ := rfl

variable {self next : FileWatch} {event : WatchEvent}

theorem batchSize_pos {names : List Nat} (nonempty : names ≠ []) : 0 < batchSize names := by
  cases names with
  | nil => exact absurd rfl nonempty
  | cons name names =>
      simp only [batchSize, List.map_cons, List.sum_cons, recordSize]
      omega

/-- A call is out only while the loop waits, or after it has ended. -/
theorem Consistent.waiting_of_armed (consistent : self.Consistent) (armed : self.armed = true)
    {phase : WatchPhase} (elsewhere : ¬phase.idles = true ∧ phase ≠ .ended) :
    self.phase ≠ phase := by
  rintro rfl
  rcases consistent.armed armed with idles | ended
  · exact elsewhere.1 idles
  · exact elsewhere.2 ended

theorem Consistent.change (consistent : self.Consistent) (started : self.phase ≠ .starting)
    (nameLength : Nat) :
    Consistent { self with
      recorded := self.recorded ++ [nameLength]
      history := self.history ++ [.change] } where
  armed := consistent.armed
  signalled := consistent.signalled
  completed := consistent.completed
  processing := consistent.processing
  published _ _ _ empty := by simp at empty
  unarmed starting := absurd starting started

theorem Consistent.complete (consistent : self.Consistent) (armed : self.armed = true)
    (recorded : self.recorded ≠ []) :
    Consistent { self with
      batch := self.recorded
      recorded := []
      armed := false
      signalled := true } where
  armed isArmed := absurd isArmed Bool.false_ne_true
  signalled _ := rfl
  completed _ _ := recorded
  processing _ := rfl
  published arming := absurd arming (consistent.waiting_of_armed armed (by decide))
  unarmed starting := absurd starting (consistent.waiting_of_armed armed (by decide))

theorem consistent_arm (self : FileWatch) (accepted : Bool) :
    (self.arm accepted).Consistent := by
  cases accepted with
  | true =>
      exact
        { armed := fun _ => .inl rfl
          signalled := fun signalled => absurd signalled Bool.false_ne_true
          completed := fun _ signalled => absurd signalled Bool.false_ne_true
          processing := fun phase => by simp [FileWatch.arm] at phase
          published := fun phase => by simp [FileWatch.arm] at phase
          unarmed := fun phase => by simp [FileWatch.arm] at phase }
  | false =>
      exact
        { armed := fun _ => .inr rfl
          signalled := fun signalled => absurd signalled Bool.false_ne_true
          completed := fun _ signalled => absurd signalled Bool.false_ne_true
          processing := fun phase => by simp [FileWatch.arm] at phase
          published := fun phase => by simp [FileWatch.arm] at phase
          unarmed := fun phase => by simp [FileWatch.arm] at phase }

/-- The loop ends. -/
theorem Consistent.end (consistent : self.Consistent) :
    Consistent { self with phase := .ended } where
  armed _ := .inr rfl
  signalled := consistent.signalled
  completed := consistent.completed
  processing phase := by simp at phase
  published phase := by simp at phase
  unarmed phase := by simp at phase

/-- The loop goes around without a completion. -/
theorem Consistent.idle (consistent : self.Consistent) {phase : WatchPhase}
    (idles : phase.idles = true) : Consistent { self with phase } where
  armed _ := .inl idles
  signalled := consistent.signalled
  completed := consistent.completed
  processing elsewhere := by
    rcases elsewhere with rfl | rfl | rfl
    · cases idles
    · cases idles
    · cases idles
  published arming := by
    cases arming
    cases idles
  unarmed starting := by
    cases starting
    cases idles

/-- The loop goes on with a completion. -/
theorem Consistent.process (consistent : self.Consistent) (signalled : self.signalled = true)
    {phase : WatchPhase} (processing : phase = .woken ∨ phase = .publishing) :
    Consistent { self with phase } where
  armed armed := by
    rw [consistent.signalled signalled] at armed
    exact absurd armed Bool.false_ne_true
  signalled := consistent.signalled
  completed := consistent.completed
  processing _ := signalled
  published arming := by
    rcases processing with rfl | rfl
    · cases arming
    · cases arming
  unarmed starting := by
    rcases processing with rfl | rfl
    · cases starting
    · cases starting

theorem Consistent.publish (consistent : self.Consistent) (phase : self.phase = .publishing) :
    self.publish.Consistent := by
  have signalled := consistent.processing (.inr (.inl phase))
  have unarmed := consistent.signalled signalled
  rw [FileWatch.publish]
  split
  case isTrue told =>
    exact
      { armed := fun armed => absurd (unarmed.symm.trans armed) Bool.false_ne_true
        signalled := consistent.signalled
        completed := consistent.completed
        processing := fun _ => signalled
        published := fun _ _ _ _ => by simp [Followed]
        unarmed := fun starting => by simp at starting }
  case isFalse silent =>
    exact
      { armed := fun armed => absurd (unarmed.symm.trans armed) Bool.false_ne_true
        signalled := consistent.signalled
        completed := consistent.completed
        processing := fun _ => signalled
        published := fun _ bytes events => absurd ⟨bytes, events⟩ silent
        unarmed := fun starting => by simp at starting }

theorem Consistent.cancel (consistent : self.Consistent) (stopped : ¬self.watching = true)
    (armed : self.armed = true) :
    Consistent { self with batch := [], armed := false, signalled := true } where
  armed armed := absurd armed Bool.false_ne_true
  signalled _ := rfl
  completed watching := absurd watching stopped
  processing _ := rfl
  published arming := absurd arming (consistent.waiting_of_armed armed (by decide))
  unarmed starting := absurd starting (consistent.waiting_of_armed armed (by decide))

theorem Consistent.step (consistent : self.Consistent) (taken : self.step event = some next) :
    next.Consistent := by
  cases step_transition taken with
  | change nameLength started => exact consistent.change started nameLength
  | complete armed recorded => exact consistent.complete armed recorded
  | arm accepted ready => exact consistent_arm self accepted
  | test => exact consistent.idle rfl
  | timeout => exact consistent.idle rfl
  | again => exact consistent.idle rfl
  | wake signalled => exact consistent.process signalled (.inl rfl)
  | check woken => exact consistent.process (consistent.processing (.inl woken)) (.inr rfl)
  | leave => exact consistent.end
  | publish publishing => exact consistent.publish publishing
  | stop =>
      exact { consistent with completed := fun watching => absurd watching Bool.false_ne_true }
  | cancel stopped armed => exact consistent.cancel stopped armed

/-- Arming again leaves a change unannounced exactly when it forgets one. -/
theorem announced_arm_iff (consistent : self.Consistent)
    (ready : self.phase = .starting ∨ self.phase = .arming) :
    (self.arm true).Announced ↔ ¬self.Forgets (.arm true) := by
  constructor
  · intro announced forgets
    obtain ⟨-, watching, -, empty, unfollowed⟩ := forgets
    exact unfollowed (announced watching rfl rfl empty)
  · intro remembers watching _ _ empty
    by_contra unfollowed
    apply remembers
    refine ⟨rfl, watching, ?_, empty, unfollowed⟩
    rcases ready with starting | arming
    · refine absurd ?_ unfollowed
      simp [Followed, FileWatch.arm, consistent.unarmed starting]
    · by_contra fits
      rw [not_or, Nat.not_lt, Bool.not_eq_false] at fits
      have signalled := consistent.processing (.inr (.inr arming))
      have bytes : 0 < self.transferred := by
        rw [transferred, if_pos fits.1]
        exact batchSize_pos (consistent.completed watching signalled)
      exact unfollowed (consistent.published arming bytes fits.2 empty)

/-- No other step leaves a change unannounced. -/
theorem Announced.step (announced : self.Announced) (other : event ≠ .arm true)
    (taken : self.step event = some next) : next.Announced := by
  cases step_transition taken with
  | change nameLength started =>
      intro _ _ _ empty
      simp at empty
  | complete armed recorded =>
      intro _ _ signalled
      exact absurd signalled.symm Bool.false_ne_true
  | arm accepted ready =>
      cases accepted with
      | true => exact absurd rfl other
      | false =>
          intro _ waiting
          cases waiting
  | test testing => exact fun watching _ => announced watching (by rw [testing]; rfl)
  | timeout waiting => exact fun watching _ => announced watching (by rw [waiting]; rfl)
  | again timedOut => exact fun watching _ => announced watching (by rw [timedOut]; rfl)
  | wake signalled =>
      intro _ waiting
      cases waiting
  | check woken =>
      intro _ waiting
      cases waiting
  | leave =>
      intro _ waiting
      cases waiting
  | publish publishing =>
      rw [FileWatch.publish]
      split
      · intro _ waiting
        cases waiting
      · intro _ waiting
        cases waiting
  | stop =>
      intro watching
      exact absurd watching Bool.false_ne_true
  | cancel stopped armed =>
      intro watching
      exact absurd watching stopped

theorem announced_step_iff (consistent : self.Consistent) (announced : self.Announced)
    (taken : self.step event = some next) : next.Announced ↔ ¬self.Forgets event := by
  by_cases armed : event = .arm true
  · subst armed
    simp only [step] at taken
    split at taken
    · rename_i ready
      cases taken
      exact announced_arm_iff consistent ready
    · cases taken
  · exact iff_of_true (announced.step armed taken) fun forgets => armed forgets.1

theorem consistent_of_run {events : Bool} {taken : List WatchEvent} {watch : FileWatch}
    (executed : run step { events } taken = some watch) : watch.Consistent :=
  run_invariant Consistent (consistent_start events)
    (fun _ _ _ consistent => consistent.step) executed

end FileWatch

/-- In every run of the watch each change is announced once the loop waits again, exactly
when no `arm` forgets one. -/
theorem watch_announces_iff (events : Bool) (taken : List WatchEvent) (final : FileWatch)
    (executed : run FileWatch.step { events } taken = some final) :
    (∀ front back, taken = front ++ back → ∀ watch,
        run FileWatch.step { events } front = some watch → watch.Announced) ↔
      AlongHistory (fun past event => ∀ watch,
        run FileWatch.step { events } past = some watch → ¬watch.Forgets event) taken := by
  apply prefixes_iff_alongHistory
  · intro watch started
    cases started
    intro _ waiting
    cases waiting
  · intro past event back split announced
    rw [split] at executed
    obtain ⟨before, after, reached, step, -⟩ := run_split_some executed
    have reachedAfter : run FileWatch.step { events } (past ++ [event]) = some after := by
      rw [run_append, reached]
      simp [step]
    have stepExact := FileWatch.announced_step_iff (FileWatch.consistent_of_run reached)
      (announced before reached) step
    constructor
    · intro announcedAfter watch same
      cases reached.symm.trans same
      exact stepExact.mp (announcedAfter after reachedAfter)
    · intro remembers watch same
      cases reachedAfter.symm.trans same
      exact stepExact.mpr (remembers before reached)

/-- After a first change is announced, eight changes of files with names of 255 characters
come before the next `arm`: they do not fit, and nothing is published. -/
theorem watch_announces_overflow :
    ∃ watch, run FileWatch.step { events := true }
        ([.arm true, .change 12, .test, .complete, .wake, .check, .publish] ++
          List.replicate 8 (.change 255) ++
          [.arm true, .test, .complete, .wake, .check, .publish, .arm true, .test]) =
            some watch ∧
      watch.phase = .waiting ∧ watch.signalled = false ∧ watch.recorded = [] ∧
      ¬watch.Announced := by
  refine ⟨_, rfl, rfl, rfl, rfl, fun announced => ?_⟩
  exact announced rfl rfl rfl rfl rfl

/-- A single change is announced. -/
theorem watch_announces_iff_single :
    ∃ watch, run FileWatch.step { events := true }
        [.arm true, .change 12, .test, .complete, .wake, .check, .publish, .arm true, .test] =
          some watch ∧
      watch.phase = .waiting ∧ watch.Announced := by
  have executed : run FileWatch.step { events := true }
      [.arm true, .change 12, .test, .complete, .wake, .check, .publish, .arm true, .test] =
          some _ := rfl
  refine ⟨_, executed, rfl, ?_⟩
  refine (watch_announces_iff true _ _ executed).mpr ?_ _ [] (List.append_nil _).symm _ executed
  have other {event : WatchEvent} (isOther : event ≠ .arm true) (watch : FileWatch) :
      ¬watch.Forgets event := fun forgets => isOther forgets.1
  have first : ∀ watch, run FileWatch.step { events := true } [] = some watch →
      ¬watch.Forgets (.arm true) := by
    intro watch reached forgets
    cases reached
    exact forgets.2.2.2.2 (by decide)
  have again : ∀ watch, run FileWatch.step { events := true }
      [.arm true, .change 12, .test, .complete, .wake, .check, .publish] = some watch →
        ¬watch.Forgets (.arm true) := by
    intro watch reached forgets
    cases reached
    exact forgets.2.2.2.2 (by decide)
  rw [← List.nil_append [WatchEvent.arm true, _, _, _, _, _, _, _, _]]
  iterate 8 rw [List.append_cons]
  simp only [alongHistory_snoc, alongHistory_nil, true_and]
  exact ⟨⟨⟨⟨⟨⟨⟨⟨first, fun _ _ => other (by simp) _⟩, fun _ _ => other (by simp) _⟩,
    fun _ _ => other (by simp) _⟩, fun _ _ => other (by simp) _⟩,
    fun _ _ => other (by simp) _⟩, fun _ _ => other (by simp) _⟩, again⟩,
    fun _ _ => other (by simp) _⟩

end HWPanel.Config
