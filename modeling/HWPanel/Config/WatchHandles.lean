import HWPanel.Config.WatchShutdown
import HWPanel.Library.Handles

/-!
# The handles of the watch

`StartFileWatch` and `StopFileWatch` statement by statement, beside the thread of the loop.
The directory and the event are opened by the one and closed by the other, and the thread
uses both: it finds them open, and each is closed once.
-/

namespace HWPanel.Config

open HWPanel.Library

inductive WatchHandle where
  | directory (handle : Nat)
  | signal (handle : Nat)
  deriving DecidableEq

/-- Where the calling thread is: between calls, in `StartFileWatch` before `CreateFileW`,
`CreateEventW` and the assignment to `watch_thread_`, or in `StopFileWatch` before
`CancelIoEx`, the `join` and the two calls of `CloseHandle`. -/
inductive WatchCaller where
  | idle
  | opening
  | creating
  | spawning
  | cancelling
  | joining
  | closing
  | closingSignal
  | terminated

/-- `directory` is `watch_dir_` unless that is invalid, `signal` is `overlapped_.hEvent`
unless that is null (`CreateEventW` does not fail), and `thread` the loop of `watch_thread_`
while that is joinable. -/
structure WatchLife where
  watching : Bool := false
  caller : WatchCaller := .idle
  directory : Option Nat := none
  signal : Option Nat := none
  thread : Option FileWatch := none
  calls : List (HandleCall WatchHandle) := []

/-- The statements of the two functions, and the steps of the loop and of the system. -/
inductive WatchLifeEvent where
  | start
  | createFile (handle : Option Nat)
  | createEvent (handle : Nat)
  | spawn
  | stop
  | cancel
  | join
  | close
  | closeSignal
  | act (event : WatchEvent)

namespace WatchLife

variable (events : Bool) (self : WatchLife)

/-- The handles of the two members. -/
def handles : Multiset WatchHandle :=
  ((self.signal.map .signal).toList ++ (self.directory.map .directory).toList :
    List WatchHandle)

/-- A call on the directory, if it is open. -/
def onDirectory (call : WatchHandle → HandleCall WatchHandle) : List (HandleCall WatchHandle) :=
  (self.directory.map fun handle => call (.directory handle)).toList

/-- A call on the event, if there is one. -/
def onSignal (call : WatchHandle → HandleCall WatchHandle) : List (HandleCall WatchHandle) :=
  (self.signal.map fun handle => call (.signal handle)).toList

/-- The handles that a step of the loop uses: `ResetEvent` and `ReadDirectoryChangesW`, the
wait, and `GetOverlappedResult`. -/
def uses : WatchEvent → List (HandleCall WatchHandle)
  | .arm _ => self.onSignal .use ++ self.onDirectory .use ++ self.onSignal .use
  | .timeout | .wake => self.onSignal .use
  | .publish => self.onDirectory .use ++ self.onSignal .use
  | .change _ | .complete | .test | .check | .stop | .cancel => []

/-- A step of the loop or of the system. -/
def ofThread : WatchEvent → Bool
  | .stop | .cancel => false
  | _ => true

def step (event : WatchLifeEvent) : Option WatchLife :=
  match event, self.caller with
  | _, .terminated => none
  | .start, .idle =>
      if self.watching then some self
      else some { self with watching := true, caller := .opening }
  | .createFile (some handle), .opening => some
      { self with
        caller := .creating
        directory := some handle
        calls := self.calls ++ [.acquire (.directory handle)] }
  | .createFile none, .opening =>
      some { self with watching := false, caller := .idle, directory := none }
  | .createEvent handle, .creating => some
      { self with
        caller := .spawning
        signal := some handle
        calls := self.calls ++ [.acquire (.signal handle)] }
  | .spawn, .spawning =>
      if self.thread.isSome then some { self with caller := .terminated }
      else some { self with caller := .idle, thread := some { events } }
  | .stop, .idle =>
      if self.watching then some { self with watching := false, caller := .cancelling }
      else some self
  | .cancel, .cancelling =>
      if self.signal.isSome then some
        { self with
          caller := .joining
          -- `CancelIoEx` finds nothing when no call is out.
          thread := self.thread.map fun watch =>
            ({ watch with watching := self.watching }.step .cancel).getD watch
          calls := self.calls ++ self.onDirectory .use ++ self.onSignal .use }
      else some { self with caller := .joining }
  | .join, .joining =>
      if self.thread.all (·.phase = .ended) then
        some { self with caller := .closing, thread := none }
      else none
  | .close, .closing => some
      { self with
        caller := .closingSignal
        directory := none
        calls := self.calls ++ self.onDirectory .release }
  | .closeSignal, .closingSignal => some
      { self with
        caller := .idle
        signal := none
        calls := self.calls ++ self.onSignal .release }
  | .act event, _ =>
      if ofThread event then
        self.thread.bind fun watch =>
          ({ watch with watching := self.watching }.step event).map fun watch =>
            { self with thread := some watch, calls := self.calls ++ self.uses event }
      else none
  | _, _ => none

variable {events : Bool} {self next : WatchLife}

inductive Transition (events : Bool) (self : WatchLife) : WatchLifeEvent → WatchLife → Prop
  | unchanged (event : WatchLifeEvent) : Transition events self event self
  | start (idle : self.caller = .idle) (unwatched : self.watching = false) :
      Transition events self .start { self with watching := true, caller := .opening }
  | opened (handle : Nat) (opening : self.caller = .opening) :
      Transition events self (.createFile (some handle))
        { self with
          caller := .creating
          directory := some handle
          calls := self.calls ++ [.acquire (.directory handle)] }
  | refused (opening : self.caller = .opening) :
      Transition events self (.createFile none)
        { self with watching := false, caller := .idle, directory := none }
  | created (handle : Nat) (creating : self.caller = .creating) :
      Transition events self (.createEvent handle)
        { self with
          caller := .spawning
          signal := some handle
          calls := self.calls ++ [.acquire (.signal handle)] }
  | terminate (spawning : self.caller = .spawning) (joinable : self.thread.isSome = true) :
      Transition events self .spawn { self with caller := .terminated }
  | spawn (spawning : self.caller = .spawning) (joined : self.thread.isSome = false) :
      Transition events self .spawn { self with caller := .idle, thread := some { events } }
  | stop (idle : self.caller = .idle) (watching : self.watching = true) :
      Transition events self .stop { self with watching := false, caller := .cancelling }
  | cancel (cancelling : self.caller = .cancelling) (signal : self.signal.isSome = true) :
      Transition events self .cancel
        { self with
          caller := .joining
          thread := self.thread.map fun watch =>
            ({ watch with watching := self.watching }.step .cancel).getD watch
          calls := self.calls ++ self.onDirectory .use ++ self.onSignal .use }
  | uncancelled (cancelling : self.caller = .cancelling) (signal : self.signal.isSome = false) :
      Transition events self .cancel { self with caller := .joining }
  | join (joining : self.caller = .joining) (ended : self.thread.all (·.phase = .ended) = true) :
      Transition events self .join { self with caller := .closing, thread := none }
  | close (closing : self.caller = .closing) :
      Transition events self .close
        { self with
          caller := .closingSignal
          directory := none
          calls := self.calls ++ self.onDirectory .release }
  | closeSignal (closing : self.caller = .closingSignal) :
      Transition events self .closeSignal
        { self with
          caller := .idle
          signal := none
          calls := self.calls ++ self.onSignal .release }
  | act (event : WatchEvent) (watch last : FileWatch) (thread : self.thread = some watch)
      (acted : { watch with watching := self.watching }.step event = some last)
      (own : ofThread event = true) :
      Transition events self (.act event)
        { self with thread := some last, calls := self.calls ++ self.uses event }

theorem step_transition {event : WatchLifeEvent} (taken : self.step events event = some next) :
    Transition events self event next := by
  unfold step at taken
  split at taken
  · cases taken
  · rename_i idle
    split at taken
    · cases taken
      exact .unchanged _
    · rename_i unwatched
      cases taken
      exact .start idle (Bool.eq_false_iff.mpr unwatched)
  · rename_i handle opening
    cases taken
    exact .opened handle opening
  · rename_i opening
    cases taken
    exact .refused opening
  · rename_i handle creating
    cases taken
    exact .created handle creating
  · rename_i spawning
    split at taken
    · rename_i joinable
      cases taken
      exact .terminate spawning joinable
    · rename_i joined
      cases taken
      exact .spawn spawning (Bool.eq_false_iff.mpr joined)
  · rename_i idle
    split at taken
    · rename_i watching
      cases taken
      exact .stop idle watching
    · cases taken
      exact .unchanged _
  · rename_i cancelling
    split at taken
    · rename_i signal
      cases taken
      exact .cancel cancelling signal
    · rename_i absent
      cases taken
      exact .uncancelled cancelling (Bool.eq_false_iff.mpr absent)
  · rename_i joining
    obtain ⟨ended, nextEq⟩ := Option.ite_none_right_eq_some.mp taken
    cases nextEq
    exact .join joining ended
  · rename_i closing
    cases taken
    exact .close closing
  · rename_i closing
    cases taken
    exact .closeSignal closing
  · rename_i event live
    obtain ⟨own, acts⟩ := Option.ite_none_right_eq_some.mp taken
    obtain ⟨watch, thread, acted⟩ := Option.bind_eq_some_iff.mp acts
    obtain ⟨last, lastEq, rfl⟩ := Option.map_eq_some_iff.mp acted
    exact .act event watch last thread lastEq own
  · cases taken

/-! ## What every step keeps -/

theorem moves_onDirectory (self : WatchLife) :
    Moves self.handles (self.onDirectory .use) self.handles := by
  rw [onDirectory, handles]
  cases self.directory with
  | none => exact moves_nil
  | some handle => exact moves_use (Multiset.mem_coe.mpr (List.mem_append_right _ (by simp)))

theorem moves_onSignal (self : WatchLife) :
    Moves self.handles (self.onSignal .use) self.handles := by
  rw [onSignal, handles]
  cases self.signal with
  | none => exact moves_nil
  | some handle => exact moves_use (Multiset.mem_coe.mpr (List.mem_append_left _ (by simp)))

/-- A step of the loop uses what is open. -/
theorem moves_uses (self : WatchLife) (event : WatchEvent) :
    Moves self.handles (self.uses event) self.handles := by
  cases event with
  | arm accepted =>
      exact (self.moves_onSignal.append self.moves_onDirectory).append self.moves_onSignal
  | timeout => exact self.moves_onSignal
  | wake => exact self.moves_onSignal
  | publish => exact self.moves_onDirectory.append self.moves_onSignal
  | _ => exact moves_nil

/-- What is open at each statement. -/
def Open (caller : WatchCaller) (watching directory signal thread : Bool) : Prop :=
  match caller with
  | .idle => thread = watching ∧ directory = watching ∧ signal = watching
  | .opening => watching = true ∧ thread = false ∧ directory = false ∧ signal = false
  | .creating => watching = true ∧ thread = false ∧ directory = true ∧ signal = false
  | .spawning => watching = true ∧ thread = false ∧ directory = true ∧ signal = true
  | .cancelling | .joining => watching = false ∧ thread = true ∧ directory = true ∧ signal = true
  | .closing => watching = false ∧ thread = false ∧ directory = true ∧ signal = true
  | .closingSignal => watching = false ∧ thread = false ∧ directory = false ∧ signal = true
  | .terminated => False

/-- The handles held are those of the two members, and the thread is a run of the loop. -/
structure Sound (events : Bool) (life : WatchLife) : Prop where
  opened : Open life.caller life.watching life.directory.isSome life.signal.isSome
    life.thread.isSome
  held : Moves 0 life.calls life.handles
  loop : ∀ watch ∈ life.thread, ∃ taken, run FileWatch.step { events } taken =
    some { watch with watching := life.watching }

theorem watching_of_step {watch last : FileWatch} {event : WatchEvent}
    (own : ofThread event = true) (acted : watch.step event = some last) :
    last.watching = watch.watching := by
  cases FileWatch.step_transition acted with
  | arm accepted ready => cases accepted <;> rfl
  | publish publishing =>
      rw [FileWatch.publish]
      split <;> rfl
  | stop => cases own
  | cancel stopped armed => cases own
  | _ => rfl

theorem sound_initial : Sound events {} where
  opened := ⟨rfl, rfl, rfl⟩
  held := moves_nil
  loop := by simp

theorem Sound.start (sound : Sound events self) (idle : self.caller = .idle)
    (unwatched : self.watching = false) :
    Sound events { self with watching := true, caller := .opening } := by
  have opened := sound.opened
  rw [idle, unwatched] at opened
  obtain ⟨thread, directory, signal⟩ := opened
  refine ⟨⟨rfl, thread, directory, signal⟩, sound.held, ?_⟩
  rw [Option.isSome_eq_false_iff, Option.isNone_iff_eq_none] at thread
  simp [thread]

theorem Sound.createFile (sound : Sound events self) (opening : self.caller = .opening)
    (handle : Nat) :
    Sound events
      { self with
        caller := .creating
        directory := some handle
        calls := self.calls ++ [.acquire (.directory handle)] } := by
  obtain ⟨opened, held, loop⟩ := sound
  rw [opening] at opened
  obtain ⟨watching, thread, directory, signal⟩ := opened
  rw [Option.isSome_eq_false_iff, Option.isNone_iff_eq_none] at directory signal
  refine ⟨⟨watching, thread, rfl, ?_⟩, ?_, loop⟩
  · rw [signal]
    rfl
  · rw [handles, directory, signal] at held
    rw [handles, signal]
    exact held.append moves_acquire

theorem Sound.refuse (sound : Sound events self) (opening : self.caller = .opening) :
    Sound events { self with watching := false, caller := .idle, directory := none } := by
  obtain ⟨opened, held, loop⟩ := sound
  rw [opening] at opened
  obtain ⟨watching, thread, directory, signal⟩ := opened
  rw [Option.isSome_eq_false_iff, Option.isNone_iff_eq_none] at thread directory
  refine ⟨⟨?_, rfl, signal⟩, ?_, ?_⟩
  · rw [thread]
    rfl
  · rw [handles, directory] at held
    exact held
  · simp [thread]

theorem Sound.createEvent (sound : Sound events self) (creating : self.caller = .creating)
    (handle : Nat) :
    Sound events
      { self with
        caller := .spawning
        signal := some handle
        calls := self.calls ++ [.acquire (.signal handle)] } := by
  obtain ⟨opened, held, loop⟩ := sound
  rw [creating] at opened
  obtain ⟨watching, thread, directory, signal⟩ := opened
  rw [Option.isSome_eq_false_iff, Option.isNone_iff_eq_none] at signal
  refine ⟨⟨watching, thread, directory, rfl⟩, ?_, loop⟩
  rw [handles, signal] at held
  exact held.append moves_acquire

theorem Sound.spawn (sound : Sound events self) (spawning : self.caller = .spawning) :
    Sound events { self with caller := .idle, thread := some { events } } := by
  have opened := sound.opened
  rw [spawning] at opened
  obtain ⟨watching, -, directory, signal⟩ := opened
  refine ⟨⟨watching.symm, directory.trans watching.symm, signal.trans watching.symm⟩,
    sound.held, ?_⟩
  rintro _ ⟨⟩
  refine ⟨[], ?_⟩
  rw [run_nil, show self.watching = true from watching]

theorem Sound.stop (sound : Sound events self) (idle : self.caller = .idle)
    (watching : self.watching = true) :
    Sound events { self with watching := false, caller := .cancelling } := by
  have opened := sound.opened
  rw [idle, watching] at opened
  refine ⟨⟨rfl, opened⟩, sound.held, fun watch isThread => ?_⟩
  obtain ⟨taken, executed⟩ := sound.loop watch isThread
  refine ⟨taken ++ [.stop], ?_⟩
  rw [run_append, executed, Option.bind_some, run_cons, FileWatch.step, if_pos watching]
  rfl

/-- The loop goes on after `CancelIoEx`, whether a call was out or not. -/
theorem exists_run_cancel {watching : Bool} {watch : FileWatch} {taken : List WatchEvent}
    (executed : run FileWatch.step { events } taken = some { watch with watching }) :
    ∃ taken, run FileWatch.step { events } taken =
      some { ({ watch with watching }.step .cancel).getD watch with watching } := by
  cases cancelled : { watch with watching }.step .cancel with
  | none => exact ⟨taken, executed⟩
  | some next =>
      have cleared : next.watching = watching := by
        obtain ⟨-, nextEq⟩ := Option.ite_none_right_eq_some.mp cancelled
        cases nextEq
        rfl
      refine ⟨taken ++ [.cancel], ?_⟩
      rw [run_append, executed, Option.bind_some, run_cons, cancelled]
      show some next = some { next with watching }
      rw [← cleared]

theorem Sound.cancel (sound : Sound events self) (cancelling : self.caller = .cancelling) :
    Sound events
      { self with
        caller := .joining
        thread := self.thread.map fun watch =>
          ({ watch with watching := self.watching }.step .cancel).getD watch
        calls := self.calls ++ self.onDirectory .use ++ self.onSignal .use } := by
  have opened := sound.opened
  rw [cancelling] at opened
  obtain ⟨watching, thread, directory, signal⟩ := opened
  refine ⟨⟨watching, ?_, directory, signal⟩, ?_, ?_⟩
  · rw [Option.isSome_map]
    exact thread
  · exact (sound.held.append self.moves_onDirectory).append self.moves_onSignal
  · intro last isThread
    obtain ⟨watch, isBefore, rfl⟩ := Option.map_eq_some_iff.mp isThread
    obtain ⟨taken, executed⟩ := sound.loop watch isBefore
    exact exists_run_cancel executed

theorem Sound.close (sound : Sound events self) (closing : self.caller = .closing) :
    Sound events
      { self with
        caller := .closingSignal
        directory := none
        calls := self.calls ++ self.onDirectory .release } := by
  obtain ⟨opened, held, loop⟩ := sound
  rw [closing] at opened
  obtain ⟨watching, thread, directory, signal⟩ := opened
  obtain ⟨handle, isDirectory⟩ := Option.isSome_iff_exists.mp directory
  obtain ⟨other, isSignal⟩ := Option.isSome_iff_exists.mp signal
  refine ⟨⟨watching, thread, rfl, signal⟩, ?_, loop⟩
  have both : self.handles = .directory handle ::ₘ {.signal other} := by
    rw [handles, isDirectory, isSignal]
    exact Multiset.coe_eq_coe.mpr (List.Perm.swap _ _ _)
  rw [both] at held
  rw [onDirectory, handles, isDirectory, isSignal]
  exact held.append moves_release

theorem Sound.closeSignal (sound : Sound events self)
    (closing : self.caller = .closingSignal) :
    Sound events
      { self with
        caller := .idle
        signal := none
        calls := self.calls ++ self.onSignal .release } := by
  obtain ⟨opened, held, loop⟩ := sound
  rw [closing] at opened
  obtain ⟨watching, thread, directory, signal⟩ := opened
  obtain ⟨handle, isSignal⟩ := Option.isSome_iff_exists.mp signal
  rw [Option.isSome_eq_false_iff, Option.isNone_iff_eq_none] at directory
  refine ⟨⟨?_, ?_, ?_⟩, ?_, loop⟩
  · rw [thread, watching]
  · rw [directory, watching]
    rfl
  · rw [watching]
    rfl
  · have one : self.handles = .signal handle ::ₘ 0 := by
      rw [handles, directory, isSignal]
      rfl
    rw [one] at held
    rw [onSignal, handles, isSignal, directory]
    exact held.append moves_release

theorem Sound.act (sound : Sound events self) {event : WatchEvent} {watch last : FileWatch}
    (thread : self.thread = some watch)
    (acted : { watch with watching := self.watching }.step event = some last)
    (own : ofThread event = true) :
    Sound events { self with thread := some last, calls := self.calls ++ self.uses event } := by
  have opened := sound.opened
  rw [thread] at opened
  refine ⟨opened, sound.held.append (self.moves_uses event), ?_⟩
  rintro _ ⟨⟩
  obtain ⟨taken, executed⟩ := sound.loop watch thread
  have same : last.watching = self.watching := watching_of_step own acted
  refine ⟨taken ++ [event], ?_⟩
  rw [run_append, executed, Option.bind_some, run_cons, acted]
  show some last = some { last with watching := self.watching }
  rw [← same]

theorem Sound.step {event : WatchLifeEvent} (sound : Sound events self)
    (taken : self.step events event = some next) : Sound events next := by
  have opened := sound.opened
  cases step_transition taken with
  | unchanged event => exact sound
  | start idle unwatched => exact sound.start idle unwatched
  | opened handle opening => exact sound.createFile opening handle
  | refused opening => exact sound.refuse opening
  | created handle creating => exact sound.createEvent creating handle
  | terminate spawning joinable =>
      rw [spawning] at opened
      cases opened.2.1.symm.trans joinable
  | spawn spawning joined => exact sound.spawn spawning
  | stop idle watching => exact sound.stop idle watching
  | cancel cancelling signal => exact sound.cancel cancelling
  | uncancelled cancelling signal =>
      rw [cancelling] at opened
      cases opened.2.2.2.symm.trans signal
  | join joining ended =>
      rw [joining] at opened
      exact ⟨⟨opened.1, rfl, opened.2.2⟩, sound.held, by simp⟩
  | close closing => exact sound.close closing
  | closeSignal closing => exact sound.closeSignal closing
  | act event watch last thread acted own => exact sound.act thread acted own

theorem sound_of_run {taken : List WatchLifeEvent}
    (executed : run (step events) {} taken = some self) : Sound events self :=
  run_invariant (Sound events) sound_initial (fun _ _ _ sound taken => sound.step taken) executed

/-- The `join` of `StopFileWatch` returns when the loop has ended. -/
theorem join_of_ended (joining : self.caller = .joining) {watch : FileWatch}
    (thread : self.thread = some watch) (ended : watch.phase = .ended) :
    self.step events .join = some { self with caller := .closing, thread := none } := by
  simp only [step, joining, thread, Option.all_some, ended, decide_true, if_true]

/-- It does so once the loop has taken the steps that it has left. -/
theorem Sound.returns (left : Nat) (sound : Sound events self) (joining : self.caller = .joining)
    {watch : FileWatch} (thread : self.thread = some watch)
    (bounded : FileWatch.stepsLeft watch.phase ≤ left) :
    ∃ steps : List WatchEvent, steps.length ≤ left ∧ ∃ next,
      run (WatchLife.step events) self (steps.map .act ++ [.join]) = some next ∧
        next.caller = .closing := by
  induction left generalizing self watch with
  | zero =>
      have ended : watch.phase = .ended := by
        cases phase : watch.phase with
        | ended => rfl
        | _ =>
            rw [phase] at bounded
            cases bounded
      refine ⟨[], Nat.le_refl _, { self with caller := .closing, thread := none }, ?_, rfl⟩
      rw [List.map_nil, List.nil_append, run_cons, join_of_ended joining thread ended]
      rfl
  | succ left ih =>
      by_cases ended : watch.phase = .ended
      · refine ⟨[], Nat.zero_le _, { self with caller := .closing, thread := none }, ?_, rfl⟩
        rw [List.map_nil, List.nil_append, run_cons, join_of_ended joining thread ended]
        rfl
      · have opened := sound.opened
        rw [joining] at opened
        obtain ⟨event, ofLoop, isSome⟩ :=
          FileWatch.exists_loop_step { watch with watching := self.watching } ended
        obtain ⟨last, acted⟩ := Option.isSome_iff_exists.mp isSome
        have own : ofThread event = true := by
          cases event with
          | stop => cases ofLoop
          | cancel => cases ofLoop
          | _ => rfl
        have winds := FileWatch.winds_step opened.1 acted
        have fewer : FileWatch.stepsLeft last.phase ≤ left := by
          have steps := winds.steps
          rw [if_pos ofLoop] at steps
          exact Nat.le_of_succ_le_succ (steps.trans bounded)
        have taken : self.step events (.act event) =
            some { self with thread := some last, calls := self.calls ++ self.uses event } := by
          simp only [WatchLife.step, joining, if_pos own, thread, Option.bind_some, acted,
            Option.map_some]
        obtain ⟨steps, short, next, executed, closing⟩ :=
          ih (sound.step taken) joining rfl fewer
        refine ⟨event :: steps, Nat.succ_le_succ short, next, ?_, closing⟩
        rw [List.map_cons, List.cons_append, run_cons, taken]
        exact executed

end WatchLife

/-- What every run keeps to. -/
structure WatchLifeLaw (events : Bool) (life : WatchLife) : Prop where
  alive : life.caller ≠ .terminated
  /-- Nothing is used or closed that is not open, and nothing is open once it has stopped. -/
  held : ∃ held, Moves 0 life.calls held ∧
    (life.caller = .idle → life.watching = false → held = 0)
  /-- Between calls there is a thread exactly while it watches. -/
  thread : life.caller = .idle → life.thread.isSome = life.watching
  loop : ∀ watch ∈ life.thread, ∃ taken, run FileWatch.step { events } taken =
    some { watch with watching := life.watching }
  /-- The `join` returns after three steps of the loop at most. -/
  returns : life.caller = .joining → ∃ steps : List WatchEvent, steps.length ≤ 3 ∧ ∃ next,
    run (WatchLife.step events) life (steps.map .act ++ [.join]) = some next ∧
      next.caller = .closing

/-- However the statements of the calls and the steps of the loop interleave, the thread of
the watch finds its handles open, and each of them is closed once. -/
theorem watch_keeps_handles {events : Bool} {taken : List WatchLifeEvent} {life : WatchLife}
    (executed : run (WatchLife.step events) {} taken = some life) : WatchLifeLaw events life := by
  have sound := WatchLife.sound_of_run executed
  have opened := sound.opened
  constructor
  · intro terminated
    rw [terminated] at opened
    exact opened
  · refine ⟨life.handles, sound.held, fun idle unwatched => ?_⟩
    rw [idle, unwatched] at opened
    obtain ⟨-, directory, signal⟩ := opened
    rw [Option.isSome_eq_false_iff, Option.isNone_iff_eq_none] at directory signal
    rw [WatchLife.handles, directory, signal]
    rfl
  · intro idle
    rw [idle] at opened
    exact opened.1
  · exact sound.loop
  · intro joining
    rw [joining] at opened
    obtain ⟨watch, thread⟩ := Option.isSome_iff_exists.mp opened.2.1
    exact sound.returns 3 joining thread (FileWatch.stepsLeft_le watch.phase)

/-- A start that cannot open the directory, a watch that announces a change, and its stop
during a wait. -/
theorem watch_keeps_handles_restarted : ∃ life,
    run (WatchLife.step true) {}
      [.start, .createFile none, .start, .createFile (some 4), .createEvent 8, .spawn,
        .act (.arm true), .act (.change 12), .act .test, .act .complete, .act .wake, .act .check,
        .act .publish, .act (.arm true), .act .test, .stop, .cancel, .act .wake, .act .check,
        .join, .close, .closeSignal] = some life ∧
    life.caller = .idle ∧ life.calls.length = 16 ∧ WatchLifeLaw true life := by
  have executed : run (WatchLife.step true) {}
      [.start, .createFile none, .start, .createFile (some 4), .createEvent 8, .spawn,
        .act (.arm true), .act (.change 12), .act .test, .act .complete, .act .wake, .act .check,
        .act .publish, .act (.arm true), .act .test, .stop, .cancel, .act .wake, .act .check,
        .join, .close, .closeSignal] = some _ := rfl
  exact ⟨_, executed, rfl, rfl, watch_keeps_handles executed⟩

end HWPanel.Config
