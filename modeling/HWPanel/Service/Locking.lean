import HWPanel.Library.LockOrder
import Mathlib.Data.Fintype.Sum
import Mathlib.Tactic.DeriveFintype

/-!
# The locks of the service

Every mutex of the service process, and the functions that lock them or join a thread:
`ServiceController` and its callbacks, the gRPC handlers, the tick thread and the profile
watch. A function is its nesting of scopes and joins; what it branches on is an argument,
so that every course it can take is one.

A wait on a condition variable gives its mutex back and ends by its timeout: it is as many
scopes as it wakes up. The wait on `exit_event_` holds nothing and is meant to last until
the stop; `ServiceMain` goes on from there as a thread of its own.
-/

namespace HWPanel.Service

open HWPanel.Library

inductive Mutex where
  | state                          -- `ServiceController::state_mutex_`
  | profiles                       -- `ProfileManager::mutex_`
  | pipeline                       -- `CollectorPipeline::mutex_`
  | history                        -- `RingBuffer::mutex_`
  | hub                            -- `TelemetryHub::mutex_`
  | bus                            -- `EventBus::mutex_`
  | sampleQueue (subscriber : Nat) -- `TelemetryHub::Subscriber::mutex_`
  | eventQueue (subscriber : Nat)  -- `EventBus::Subscriber::mutex_`
  | sink (index : Nat)             -- `spdlog::sinks::base_sink::mutex_`
  deriving DecidableEq, Repr

/-- How many threads the process starts over its life, of each kind that can be several. -/
structure ThreadCounts where
  handlers : Nat
  ticks : Nat
  watches : Nat

inductive ServiceThread (counts : ThreadCounts) where
  | serviceMain
  | serviceExit
  | dispatcher
  | handler (index : Fin counts.handlers)
  | tick (index : Fin counts.ticks)
  | watch (index : Fin counts.watches)
  deriving DecidableEq, Fintype

variable {counts : ThreadCounts}

abbrev ServiceCode (counts : ThreadCounts) := LockCode Mutex (ServiceThread counts)

namespace ServiceCode

/-- Messages to a logger with this many sinks; a flush is a pass over the sinks too. -/
def log (sinks messages : Nat) : ServiceCode counts :=
  .sequence ((List.replicate messages ((List.range sinks).map fun index =>
    .scope (.sink index))).flatten)

/-- `EventBus::Publish`, with the subscribers it finds live. -/
def publishEvent (live : List Nat) : ServiceCode counts :=
  .append (.scope .bus) (.sequence (live.map fun subscriber => .scope (.eventQueue subscriber)))

/-- `TelemetryHub::Publish`. -/
def publishSample (live : List Nat) : ServiceCode counts :=
  .append (.scope .history) (.append (.scope .hub)
    (.sequence (live.map fun subscriber => .scope (.sampleQueue subscriber))))

/-- What `SwitchTo` does besides the files and devices: its messages, those of reading the
profile included, and the announcement of a profile it found. -/
structure SwitchCourse where
  messages : Nat
  announced : Option (List Nat)

def switchTo (sinks : Nat) (course : SwitchCourse) : ServiceCode counts :=
  .locked .profiles ((log sinks course.messages).append
    (course.announced.elim .done publishEvent)) .done

/-- The requests a handler thread can serve. A stream polls its queue until it is cancelled,
and closes it. -/
inductive Request where
  | listProfiles (messages : Nat) (listed : Bool)
  | switchProfile (course : SwitchCourse)
  | getStatus
  | getHistory
  | watchEvents (subscriber wakeups : Nat)
  | subscribe (subscriber wakeups : Nat)

def handle (sinks : Nat) : Request → ServiceCode counts
  -- A file of the wrong shape makes `List` throw, and the request ends there.
  | .listProfiles messages listed =>
      .locked .profiles (log sinks messages) (if listed then .scope .profiles else .done)
  | .switchProfile course => switchTo sinks course
  -- The status reads atomics only.
  | .getStatus => .done
  | .getHistory => .scope .history
  | .watchEvents subscriber wakeups =>
      .append (.scope .bus)
        (.sequence (List.replicate (wakeups + 1) (.scope (.eventQueue subscriber))))
  | .subscribe subscriber wakeups =>
      .append (.scope .hub)
        (.sequence (List.replicate (wakeups + 1) (.scope (.sampleQueue subscriber))))

/-- One pass of `CollectorPipeline::Loop`: collectors log while they are polled. -/
structure Pass where
  messages : Nat
  live : List Nat

def loopPass (sinks : Nat) (pass : Pass) : ServiceCode counts :=
  .locked .pipeline (log sinks pass.messages) (publishSample pass.live)

/-- The callbacks a control or `FinalizeStart` makes under `state_mutex_`. `idle` is a
callback that finds its flag already set, or none; a thread that is not joinable is `none`. -/
inductive HostCall (counts : ThreadCounts) where
  | idle
  | stop (tick : Option (Fin counts.ticks)) (watch : Option (Fin counts.watches))
  | pauseCollectors (tick : Option (Fin counts.ticks))
  | resumeCollectors

def joinAll (threads : List (ServiceThread counts)) : ServiceCode counts :=
  .sequence (threads.map fun thread => .join thread .done)

/-- `Shutdown` returns once every handler has. -/
def hostCall (sinks : Nat) : HostCall counts → ServiceCode counts
  | .idle => .done
  | .stop tick watch =>
      .sequence [joinAll ((List.finRange counts.handlers).map .handler),
        joinAll (tick.toList.map .tick), joinAll (watch.toList.map .watch), log sinks 1]
  | .pauseCollectors tick => (joinAll (tick.toList.map .tick)).append (log sinks 1)
  | .resumeCollectors => log sinks 1

/-- `HandlerThunk`; a control that only returns a code is `none`. -/
def handlerThunk (sinks : Nat) (control : Option (HostCall counts)) : ServiceCode counts :=
  control.elim .done fun call => .locked .state (hostCall sinks call) .done

/-- What `ServiceHost::Start` does: the messages of each collector it makes before it is
registered, its own messages, and the announcement of a server that listens. -/
structure StartCourse where
  collectors : List Nat
  messages : Nat
  announced : Option (List Nat)

def start (sinks : Nat) (course : StartCourse) : ServiceCode counts :=
  .sequence [.sequence (course.collectors.map fun messages =>
      (log sinks messages).append (.scope .pipeline)),
    log sinks course.messages, course.announced.elim .done publishEvent]

/-- `ServiceMainThunk` up to the wait on `exit_event_`. -/
def serviceMain (sinks : Nat) (course : StartCourse) (final : HostCall counts) :
    ServiceCode counts :=
  .sequence [.scope .state, start sinks course, .locked .state (hostCall sinks final) .done]

end ServiceCode

/-- What happens over the life of the process: a thread that never starts does nothing. -/
structure Activity (counts : ThreadCounts) where
  sinks : Nat
  started : ServiceCode.StartCourse
  finalized : ServiceCode.HostCall counts
  controls : List (Option (ServiceCode.HostCall counts))
  exits : Bool
  requests : Fin counts.handlers → Option ServiceCode.Request
  passes : Fin counts.ticks → List ServiceCode.Pass
  publications : Fin counts.watches → List (List Nat)

namespace Activity

open ServiceCode

def code (self : Activity counts) : ServiceThread counts → ServiceCode counts
  | .serviceMain => serviceMain self.sinks self.started self.finalized
  | .serviceExit => if self.exits then .scope .state else .done
  | .dispatcher => .sequence (self.controls.map (handlerThunk self.sinks))
  | .handler index => (self.requests index).elim .done (handle self.sinks)
  | .tick index => .sequence ((self.passes index).map (loopPass self.sinks))
  | .watch index => .sequence ((self.publications index).map publishEvent)

end Activity

/-! ## The order of the locks -/

/-- The threads that take `state_mutex_`, that mutex, the threads joined under it, the
mutexes these hold while they publish or log, and the mutexes held alone. -/
def lockRank : Resource Mutex (ServiceThread counts) → Nat
  | .thread .serviceMain | .thread .serviceExit | .thread .dispatcher => 0
  | .mutex .state => 1
  | .thread (.handler _) | .thread (.tick _) | .thread (.watch _) => 2
  | .mutex .profiles | .mutex .pipeline => 3
  | .mutex .history | .mutex .hub | .mutex .bus => 4
  | .mutex (.sampleQueue _) | .mutex (.eventQueue _) | .mutex (.sink _) => 4

theorem lockRank_le (resource : Resource Mutex (ServiceThread counts)) :
    lockRank resource ≤ 4 := by
  cases resource with
  | mutex mutex => cases mutex <;> simp [lockRank]
  | thread thread => cases thread <;> simp [lockRank]

namespace ServiceCode

variable {low sinks : Nat}

theorem inOrder_scope {mutex : Mutex}
    (above : low ≤ @lockRank counts (.mutex mutex)) :
    (LockCode.scope mutex : ServiceCode counts).InOrder lockRank low :=
  ⟨above, True.intro, True.intro⟩

theorem inOrder_log (below : low ≤ 4) (messages : Nat) :
    (log sinks messages : ServiceCode counts).InOrder lockRank low := by
  refine LockCode.inOrder_sequence fun code member => ?_
  obtain ⟨pass, passes, inPass⟩ := List.mem_flatten.mp member
  rw [List.eq_of_mem_replicate passes] at inPass
  obtain ⟨index, -, rfl⟩ := List.mem_map.mp inPass
  exact inOrder_scope below

theorem inOrder_publishEvent (below : low ≤ 4) (live : List Nat) :
    (publishEvent live : ServiceCode counts).InOrder lockRank low := by
  refine (inOrder_scope below).append (LockCode.inOrder_sequence fun code member => ?_)
  obtain ⟨subscriber, -, rfl⟩ := List.mem_map.mp member
  exact inOrder_scope below

theorem inOrder_publishSample (below : low ≤ 4) (live : List Nat) :
    (publishSample live : ServiceCode counts).InOrder lockRank low := by
  refine (inOrder_scope below).append
    ((inOrder_scope below).append (LockCode.inOrder_sequence fun code member => ?_))
  obtain ⟨subscriber, -, rfl⟩ := List.mem_map.mp member
  exact inOrder_scope below

theorem inOrder_announce (below : low ≤ 4) (announced : Option (List Nat)) :
    (announced.elim .done publishEvent : ServiceCode counts).InOrder lockRank low := by
  cases announced with
  | none => exact True.intro
  | some live => exact inOrder_publishEvent below live

theorem inOrder_polls {mutex : Mutex}
    (above : low ≤ @lockRank counts (.mutex mutex)) (polls : Nat) :
    (LockCode.sequence (List.replicate polls (.scope mutex)) : ServiceCode counts).InOrder
      lockRank low := by
  refine LockCode.inOrder_sequence fun code member => ?_
  rw [List.eq_of_mem_replicate member]
  exact inOrder_scope above

theorem inOrder_handle (request : Request) :
    (handle sinks request : ServiceCode counts).InOrder lockRank 3 := by
  have alone : 3 ≤ 4 := by decide
  cases request with
  | listProfiles messages listed =>
      refine ⟨le_refl 3, inOrder_log (le_refl 4) messages, ?_⟩
      cases listed with
      | false => exact True.intro
      | true => exact inOrder_scope (le_refl 3)
  | switchProfile course =>
      exact ⟨le_refl 3, (inOrder_log (le_refl 4) _).append (inOrder_announce (le_refl 4) _),
        True.intro⟩
  | getStatus => exact True.intro
  | getHistory => exact inOrder_scope alone
  | watchEvents subscriber wakeups =>
      exact (inOrder_scope alone).append (inOrder_polls alone _)
  | subscribe subscriber wakeups =>
      exact (inOrder_scope alone).append (inOrder_polls alone _)

theorem inOrder_loopPass (pass : Pass) :
    (loopPass sinks pass : ServiceCode counts).InOrder lockRank 3 :=
  ⟨le_refl 3, inOrder_log (le_refl 4) _, inOrder_publishSample (by decide) _⟩

/-- Joins are in order where the threads are not those that take `state_mutex_`. -/
theorem inOrder_joinAll {Index : Type} {indexes : List Index}
    {thread : Index → ServiceThread counts}
    (joined : ∀ index, lockRank (.thread (thread index)) = 2) :
    (joinAll (indexes.map thread)).InOrder lockRank 2 := by
  refine LockCode.inOrder_sequence fun code member => ?_
  obtain ⟨other, mapped, rfl⟩ := List.mem_map.mp member
  obtain ⟨index, -, rfl⟩ := List.mem_map.mp mapped
  exact ⟨(joined index).ge, True.intro⟩

theorem inOrder_hostCall (call : HostCall counts) :
    (hostCall sinks call).InOrder lockRank 2 := by
  have logged : (log sinks 1 : ServiceCode counts).InOrder lockRank 2 := inOrder_log (by decide) 1
  cases call with
  | idle => exact True.intro
  | stop tick watch =>
      exact (inOrder_joinAll fun _ => rfl).append
        ((inOrder_joinAll fun _ => rfl).append ((inOrder_joinAll fun _ => rfl).append
          (logged.append True.intro)))
  | pauseCollectors tick => exact (inOrder_joinAll fun _ => rfl).append logged
  | resumeCollectors => exact logged

theorem inOrder_handlerThunk (control : Option (HostCall counts)) :
    (handlerThunk sinks control).InOrder lockRank 1 := by
  cases control with
  | none => exact True.intro
  | some call => exact ⟨le_refl 1, inOrder_hostCall call, True.intro⟩

theorem inOrder_start (course : StartCourse) :
    (start sinks course : ServiceCode counts).InOrder lockRank 1 := by
  have alone : 1 ≤ 4 := by decide
  refine (LockCode.inOrder_sequence fun code member => ?_).append
    ((inOrder_log alone _).append ((inOrder_announce alone _).append True.intro))
  obtain ⟨messages, -, rfl⟩ := List.mem_map.mp member
  exact (inOrder_log alone messages).append (inOrder_scope (show 1 ≤ 3 by decide))

theorem inOrder_serviceMain (course : StartCourse) (final : HostCall counts) :
    (serviceMain sinks course final).InOrder lockRank 1 :=
  (inOrder_scope (le_refl 1)).append
    ((inOrder_start course).append ⟨le_refl 1, inOrder_hostCall final, True.intro⟩)

end ServiceCode

namespace Activity

open ServiceCode

theorem inOrder_code (self : Activity counts) (thread : ServiceThread counts) :
    (self.code thread).InOrder lockRank (lockRank (.thread thread) + 1) := by
  cases thread with
  | serviceMain => exact inOrder_serviceMain self.started self.finalized
  | serviceExit =>
      rw [code]
      cases self.exits with
      | false => exact True.intro
      | true => exact inOrder_scope (le_refl 1)
  | dispatcher =>
      refine LockCode.inOrder_sequence fun code member => ?_
      obtain ⟨control, -, rfl⟩ := List.mem_map.mp member
      exact inOrder_handlerThunk control
  | handler index =>
      rw [code]
      cases self.requests index with
      | none => exact True.intro
      | some request => exact inOrder_handle request
  | tick index =>
      refine LockCode.inOrder_sequence fun code member => ?_
      obtain ⟨pass, -, rfl⟩ := List.mem_map.mp member
      exact inOrder_loopPass pass
  | watch index =>
      refine LockCode.inOrder_sequence fun code member => ?_
      obtain ⟨live, -, rfl⟩ := List.mem_map.mp member
      exact inOrder_publishEvent (show 3 ≤ 4 by decide) live

/-- No thread of the service waits for another for ever: wherever an interleaving of locks,
unlocks and joins has come to, it ends only when every thread has ended, some continuation
ends so, and none is longer than what was left to do. -/
theorem locks_never_deadlock (activity : Activity counts) {schedule : List (ServiceThread counts)}
    {reached : Locking Mutex (ServiceThread counts)}
    (executed : run Locking.step (.start activity.code) schedule = some reached) :
    ((∀ thread, reached.step thread = none) → ∀ thread, reached.todo thread = []) ∧
    (∃ more finish, run Locking.step reached more = some finish ∧
      ∀ thread, finish.todo thread = []) ∧
    ∀ more next, run Locking.step reached more = some next →
      more.length + next.left ≤ reached.left := by
  obtain ⟨held, disciplined⟩ :=
    (Locking.disciplined_start activity.inOrder_code).run executed
  refine ⟨disciplined.finished lockRank_le, disciplined.completes lockRank_le, ?_⟩
  intro more next continued
  exact Locking.left_run continued

/-- A stop that arrives while a handler switches the profile. -/
def stopDuringSwitch : Activity ⟨1, 1, 0⟩ where
  sinks := 1
  started := ⟨[0, 0, 0], 0, none⟩
  finalized := .idle
  controls := [some (.stop (some ⟨0, Nat.one_pos⟩) none)]
  exits := true
  requests _ := some (.switchProfile ⟨1, some []⟩)
  passes _ := [⟨0, []⟩]
  publications index := index.elim0

theorem locks_never_deadlock_stopping : ∃ reached,
    run Locking.step (.start stopDuringSwitch.code) [.handler 0, .dispatcher] = some reached ∧
    reached.step .dispatcher = none ∧
    ∃ more finish, run Locking.step reached more = some finish ∧
      ∀ thread, finish.todo thread = [] := by
  refine ⟨_, rfl, rfl, ?_⟩
  have executed : run Locking.step (.start stopDuringSwitch.code) [.handler 0, .dispatcher] =
      some _ := rfl
  exact (locks_never_deadlock stopDuringSwitch executed).2.1

end Activity

end HWPanel.Service
