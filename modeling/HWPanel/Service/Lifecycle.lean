import HWPanel.Service.ServiceController

/-!
# Histories of a service run

The controller's flags and the callback log as functions of the events executed
so far. `Tracks` is the invariant every lifecycle result starts from; it holds of
every run, whatever the outcome of `on_start_` and the order of the controls.
-/

namespace HWPanel.Service

open HWPanel.Library

namespace ServiceController

variable {World : Type} (callbacks : Callbacks World) (self : ServiceController World)

@[simp] theorem handlerThunk_startDone (control : Control) :
    (self.handlerThunk callbacks control).2.startDone = self.startDone := by
  cases control <;> simp only [handlerThunk] <;> split <;> rfl

@[simp] theorem handlerThunk_stopRequested (control : Control) :
    (self.handlerThunk callbacks control).2.stopRequested =
      (control.isStop || self.stopRequested) := by
  cases control <;> cases done : self.startDone <;>
    simp [handlerThunk, Control.isStop, invoke, reportStateLocked, done]

@[simp] theorem handlerThunk_exitEvent (control : Control) :
    (self.handlerThunk callbacks control).2.exitEvent =
      (control.isStop || self.exitEvent) := by
  cases control <;> cases done : self.startDone <;>
    simp [handlerThunk, Control.isStop, invoke, reportStateLocked, done]

/-- The pause request after a control. -/
def pauseAfter (control : Control) (requested : Bool) : Bool :=
  match control with
  | .pause => true
  | .continue_ => false
  | _ => requested

@[simp] theorem handlerThunk_pauseRequested (control : Control) :
    (self.handlerThunk callbacks control).2.pauseRequested =
      pauseAfter control self.pauseRequested := by
  cases control <;> simp only [handlerThunk, pauseAfter] <;> split <;> rfl

/-- The callback a control runs once startup is done. -/
def controlCallback (control : Control) : Option (World → World) :=
  match control with
  | .stop | .preshutdown => callbacks.onStop
  | .pause => callbacks.onPause
  | .continue_ => callbacks.onContinue
  | .interrogate | .other _ => none

@[simp] theorem handlerThunk_world (control : Control) :
    (self.handlerThunk callbacks control).2.world =
      if self.startDone then (controlCallback callbacks control).getD id self.world
      else self.world := by
  cases control <;> cases done : self.startDone <;>
    simp [handlerThunk, controlCallback, invoke, reportStateLocked, done]

/-- The reports a control makes once startup is done. -/
def controlReports (control : Control) (world : World) : List (Report World) :=
  match control with
  | .stop | .preshutdown => [⟨⟨.stopPending, 5000⟩, world⟩]
  | .pause =>
      [⟨⟨.pausePending, 5000⟩, world⟩, ⟨⟨.paused, 0⟩, callbacks.onPause.getD id world⟩]
  | .continue_ =>
      [⟨⟨.continuePending, 5000⟩, world⟩,
        ⟨⟨.running, 0⟩, callbacks.onContinue.getD id world⟩]
  | .interrogate | .other _ => []

@[simp] theorem handlerThunk_reports (control : Control) :
    (self.handlerThunk callbacks control).2.reports =
      self.reports ++
        if self.startDone then controlReports callbacks control self.world else [] := by
  cases control <;> cases done : self.startDone <;>
    simp [handlerThunk, controlReports, invoke, reportStateLocked, done]

@[simp] theorem finalizeStart_startDone :
    (self.finalizeStart callbacks).startDone = true := by
  rw [finalizeStart]
  split
  · rfl
  · split <;> rfl

@[simp] theorem finalizeStart_stopRequested :
    (self.finalizeStart callbacks).stopRequested = self.stopRequested := by
  rw [finalizeStart]
  split
  · rfl
  · split <;> rfl

@[simp] theorem finalizeStart_pauseRequested :
    (self.finalizeStart callbacks).pauseRequested = self.pauseRequested := by
  rw [finalizeStart]
  split
  · rfl
  · split <;> rfl

@[simp] theorem finalizeStart_exitEvent :
    (self.finalizeStart callbacks).exitEvent = self.exitEvent := by
  rw [finalizeStart]
  split
  · rfl
  · split <;> rfl

/-- `FinalizeStart` acts as the pending control would: a stop first, else a pause. -/
@[simp] theorem finalizeStart_world :
    (self.finalizeStart callbacks).world =
      if self.stopRequested then callbacks.onStop.getD id self.world
      else if self.pauseRequested then callbacks.onPause.getD id self.world
      else self.world := by
  cases stop : self.stopRequested <;> cases pause : self.pauseRequested <;>
    simp [finalizeStart, invoke, reportStateLocked, stop, pause]

/-- The reports of `FinalizeStart`. -/
def finalReports : List (Report World) :=
  if self.stopRequested then controlReports callbacks .stop self.world
  else if self.pauseRequested then controlReports callbacks .pause self.world
  else [⟨⟨.running, 0⟩, self.world⟩]

@[simp] theorem finalizeStart_reports :
    (self.finalizeStart callbacks).reports =
      self.reports ++ self.finalReports callbacks := by
  cases stop : self.stopRequested <;> cases pause : self.pauseRequested <;>
    simp [finalizeStart, finalReports, controlReports, invoke, reportStateLocked,
      stop, pause]

end ServiceController

namespace ServiceProcess

variable {World : Type}

/-- What a step leads to, and the phase `ServiceMain` was in before one of its own. -/
inductive Transition (callbacks : Callbacks World) (process : ServiceProcess World) :
    ServiceEvent → ServiceProcess World → Prop
  | reportStartPending (registered : process.phase = .registered) :
      Transition callbacks process .reportStartPending
        ⟨process.controller.reportStateLocked .startPending 10000, .reported⟩
  | callOnStart (reported : process.phase = .reported) :
      Transition callbacks process .callOnStart ⟨process.controller, .starting⟩
  | onStartReturns (bind : Binding) (starting : process.phase = .starting) :
      Transition callbacks process (.onStartReturns bind)
        ⟨process.controller.invoke (callbacks.onStart.map (· bind)), .started⟩
  | finalizeStart (started : process.phase = .started) :
      Transition callbacks process .finalizeStart
        ⟨process.controller.finalizeStart callbacks, .waiting⟩
  | exitWait (waiting : process.phase = .waiting)
      (signaled : process.controller.exitEvent = true) :
      Transition callbacks process .exitWait ⟨process.controller, .released⟩
  | reportStopped (released : process.phase = .released) :
      Transition callbacks process .reportStopped
        ⟨process.controller.reportStateLocked .stopped 0, .returned⟩
  | control (control : Control) :
      Transition callbacks process (.control control)
        ⟨(process.controller.handlerThunk callbacks control).2, process.phase⟩

theorem step_transition {callbacks : Callbacks World} {process next : ServiceProcess World}
    {event : ServiceEvent} (taken : process.step callbacks event = some next) :
    Transition callbacks process event next := by
  cases event with
  | reportStartPending =>
      rcases Option.ite_none_right_eq_some.mp taken with ⟨registered, nextEq⟩
      cases nextEq
      exact .reportStartPending registered
  | callOnStart =>
      rcases Option.ite_none_right_eq_some.mp taken with ⟨reported, nextEq⟩
      cases nextEq
      exact .callOnStart reported
  | onStartReturns bind =>
      rcases Option.ite_none_right_eq_some.mp taken with ⟨starting, nextEq⟩
      cases nextEq
      exact .onStartReturns bind starting
  | finalizeStart =>
      rcases Option.ite_none_right_eq_some.mp taken with ⟨started, nextEq⟩
      cases nextEq
      exact .finalizeStart started
  | exitWait =>
      rcases Option.ite_none_right_eq_some.mp taken with ⟨⟨waiting, signaled⟩, nextEq⟩
      cases nextEq
      exact .exitWait waiting signaled
  | reportStopped =>
      rcases Option.ite_none_right_eq_some.mp taken with ⟨released, nextEq⟩
      cases nextEq
      exact .reportStopped released
  | control control =>
      cases taken
      exact .control control

end ServiceProcess

/-- `FinalizeStart` has run. -/
def Finalized (past : List ServiceEvent) : Prop := .finalizeStart ∈ past

/-- A STOP or PRESHUTDOWN control has been delivered. -/
def StopDelivered (past : List ServiceEvent) : Prop :=
  ∃ control, .control control ∈ past ∧ control.isStop = true

/-- The PAUSE and CONTINUE controls delivered so far. -/
def pauseSwitches (past : List ServiceEvent) : List Control :=
  past.filterMap fun
    | .control .pause => some .pause
    | .control .continue_ => some .continue_
    | _ => none

/-- The most recent of the PAUSE and CONTINUE controls was PAUSE. -/
def PauseWanted (past : List ServiceEvent) : Prop :=
  (pauseSwitches past).getLast? = some .pause

/-- `on_start_` has returned and `ServiceHost::Start` returned true in it. -/
def Started (endpoint : String) (past : List ServiceEvent) : Prop :=
  ∃ bind, .onStartReturns bind ∈ past ∧
    (ServiceHost.bindServer bind endpoint).isSome = true

/-- Every `Start` of the history binds the endpoint or its fallback. -/
def StartSucceeds (endpoint : String) (past : List ServiceEvent) : Prop :=
  ∀ bind, .onStartReturns bind ∈ past →
    (ServiceHost.bindServer bind endpoint).isSome = true

variable {past : List ServiceEvent} {event : ServiceEvent} {endpoint : String}

theorem finalized_snoc :
    Finalized (past ++ [event]) ↔ Finalized past ∨ event = .finalizeStart := by
  simp [Finalized, eq_comm]

/-- A labelled event of an extended history is an earlier one or the last. -/
private theorem exists_label_snoc {α : Type} (label : α → ServiceEvent) (holds : α → Prop) :
    (∃ value, label value ∈ past ++ [event] ∧ holds value) ↔
      (∃ value, label value ∈ past ∧ holds value) ∨
        ∃ value, event = label value ∧ holds value := by
  constructor
  · rintro ⟨value, member, valid⟩
    rcases List.mem_append.mp member with earlier | last
    · exact Or.inl ⟨value, earlier, valid⟩
    · exact Or.inr ⟨value, (List.mem_singleton.mp last).symm, valid⟩
  · rintro (⟨value, member, valid⟩ | ⟨value, rfl, valid⟩)
    · exact ⟨value, List.mem_append_left _ member, valid⟩
    · exact ⟨value, by simp, valid⟩

theorem stopDelivered_snoc :
    StopDelivered (past ++ [event]) ↔
      StopDelivered past ∨ ∃ control, event = .control control ∧ control.isStop = true :=
  exists_label_snoc .control _

theorem started_snoc :
    Started endpoint (past ++ [event]) ↔
      Started endpoint past ∨ ∃ bind, event = .onStartReturns bind ∧
        (ServiceHost.bindServer bind endpoint).isSome = true :=
  exists_label_snoc .onStartReturns _

theorem pauseWanted_control (control : Control) :
    PauseWanted (past ++ [.control control]) ↔
      match control with
      | .pause => True
      | .continue_ => False
      | _ => PauseWanted past := by
  cases control <;> simp [PauseWanted, pauseSwitches]

theorem pauseWanted_other (notControl : ∀ control, event ≠ .control control) :
    PauseWanted (past ++ [event]) ↔ PauseWanted past := by
  cases event with
  | control control => exact absurd rfl (notControl control)
  | _ => simp [PauseWanted, pauseSwitches]

theorem StartSucceeds.of_append {front back : List ServiceEvent}
    (succeeds : StartSucceeds endpoint (front ++ back)) : StartSucceeds endpoint front :=
  fun bind member => succeeds bind (List.mem_append_left _ member)

/-! ## The invariant of every run -/

/-- The phases before `on_start_` returns. -/
def MainPhase.idle : MainPhase → Bool
  | .registered | .reported | .starting => true
  | _ => false

/-- The phases after `FinalizeStart`. -/
def MainPhase.finalized : MainPhase → Bool
  | .waiting | .released | .returned => true
  | _ => false

/-- The phases after the wait for the exit event. -/
def MainPhase.exited : MainPhase → Bool
  | .released | .returned => true
  | _ => false

/-- The controller's flags, the host's `running_` and the callback log, read off
the history. A stop takes effect once both it and `FinalizeStart` are past. -/
structure Tracks (endpoint : String) (past : List ServiceEvent)
    (process : ServiceProcess HostWorld) : Prop where
  startDone : process.controller.startDone = true ↔ Finalized past
  phase : process.phase.finalized = process.controller.startDone
  stopRequested : process.controller.stopRequested = true ↔ StopDelivered past
  pauseRequested : process.controller.pauseRequested = true ↔ PauseWanted past
  exitEvent : process.controller.exitEvent = process.controller.stopRequested
  idle : process.phase.idle = true → process.controller.world = {}
  started : .start true ∈ process.controller.world.calls ↔ Started endpoint past
  running : process.controller.world.host.running = true ↔
    Started endpoint past ∧ ¬(Finalized past ∧ StopDelivered past)
  stopped : .stop ∈ process.controller.world.calls ↔
    Finalized past ∧ StopDelivered past
  notStarted : process.phase.idle = true → ¬Started endpoint past
  startedFirst : process.phase.idle = false →
    ∃ returned later, process.controller.world.calls = .start returned :: later
  exited : process.phase.exited = true → process.controller.stopRequested = true

theorem tracks_initial (endpoint : String) :
    Tracks endpoint [] ServiceProcess.initial := by
  constructor <;>
    simp [ServiceProcess.initial, Finalized, StopDelivered, PauseWanted, pauseSwitches,
      Started, MainPhase.finalized, MainPhase.idle, MainPhase.exited]

/-- The steps of `ServiceMain` that no fact of the history depends on. -/
def ServiceEvent.Quiet : ServiceEvent → Prop
  | .reportStartPending | .callOnStart | .exitWait | .reportStopped => True
  | .onStartReturns _ | .finalizeStart | .control _ => False

theorem Tracks.quiet {process next : ServiceProcess HostWorld}
    (tracks : Tracks endpoint past process) (quiet : event.Quiet)
    (fields : next.controller =
      { process.controller with reports := next.controller.reports })
    (idle : next.phase.idle = process.phase.idle)
    (finalized : next.phase.finalized = process.phase.finalized)
    (exited : next.phase.exited = true → process.controller.stopRequested = true) :
    Tracks endpoint (past ++ [event]) next := by
  have sameFinalized : Finalized (past ++ [event]) ↔ Finalized past := by
    cases event <;> simp [finalized_snoc, ServiceEvent.Quiet] at quiet ⊢
  have sameStop : StopDelivered (past ++ [event]) ↔ StopDelivered past := by
    cases event <;> simp [stopDelivered_snoc, ServiceEvent.Quiet] at quiet ⊢
  have samePause : PauseWanted (past ++ [event]) ↔ PauseWanted past := by
    cases event <;> simp [PauseWanted, pauseSwitches, ServiceEvent.Quiet] at quiet ⊢
  have sameStarted : Started endpoint (past ++ [event]) ↔ Started endpoint past := by
    cases event <;> simp [started_snoc, ServiceEvent.Quiet] at quiet ⊢
  constructor
  · rw [fields, sameFinalized]; exact tracks.startDone
  · rw [fields, finalized]; exact tracks.phase
  · rw [fields, sameStop]; exact tracks.stopRequested
  · rw [fields, samePause]; exact tracks.pauseRequested
  · rw [fields]; exact tracks.exitEvent
  · rw [fields, idle]; exact tracks.idle
  · rw [fields, sameStarted]; exact tracks.started
  · rw [fields, sameStarted, sameFinalized, sameStop]; exact tracks.running
  · rw [fields, sameFinalized, sameStop]; exact tracks.stopped
  · rw [idle, sameStarted]; exact tracks.notStarted
  · rw [fields, idle]; exact tracks.startedFirst
  · rw [fields]; exact exited

theorem Tracks.control {process : ServiceProcess HostWorld}
    (tracks : Tracks endpoint past process) (control : Control) :
    Tracks endpoint (past ++ [.control control])
      ⟨(process.controller.handlerThunk (runService endpoint) control).2,
        process.phase⟩ := by
  have sameFinalized : Finalized (past ++ [.control control]) ↔ Finalized past := by
    simp [finalized_snoc]
  have sameStarted :
      Started endpoint (past ++ [.control control]) ↔ Started endpoint past := by
    simp [started_snoc]
  have stopAdded : StopDelivered (past ++ [.control control]) ↔
      StopDelivered past ∨ control.isStop = true := by
    simp [stopDelivered_snoc]
  constructor
  · simpa [sameFinalized] using tracks.startDone
  · simpa using tracks.phase
  · simp [stopAdded, tracks.stopRequested, or_comm]
  · rw [pauseWanted_control]
    cases control <;>
      simp [ServiceController.pauseAfter, tracks.pauseRequested]
  · simp [tracks.exitEvent]
  · intro idle
    have before : process.controller.startDone = false := by
      rw [← tracks.phase]
      cases phase : process.phase <;> simp [phase, MainPhase.idle] at idle ⊢ <;> rfl
    simpa [before] using tracks.idle idle
  · rw [sameStarted, ← tracks.started]
    cases done : process.controller.startDone
    · simp [done]
    · cases control <;>
        simp [done, ServiceController.controlCallback, runService]
  · rw [sameStarted, sameFinalized, stopAdded]
    have running := tracks.running
    rw [← tracks.startDone] at running ⊢
    cases done : process.controller.startDone
    · simpa [done] using running
    · cases control <;>
        simp [done, ServiceController.controlCallback, runService,
          Control.isStop] at running ⊢ <;>
        exact running
  · rw [sameFinalized, stopAdded]
    have stopped := tracks.stopped
    rw [← tracks.startDone] at stopped ⊢
    cases done : process.controller.startDone
    · simpa [done] using stopped
    · cases control <;>
        simp [done, ServiceController.controlCallback, runService,
          Control.isStop] at stopped ⊢ <;>
        exact stopped
  · rw [sameStarted]
    exact tracks.notStarted
  · intro active
    obtain ⟨returned, later, calls⟩ := tracks.startedFirst active
    cases done : process.controller.startDone
    · exact ⟨returned, later, by simp [done, calls]⟩
    · cases control <;>
        simp [done, ServiceController.controlCallback, runService, calls]
  · intro exited
    simp [tracks.exited exited]

theorem Tracks.onStartReturns {process : ServiceProcess HostWorld}
    (tracks : Tracks endpoint past process) (starting : process.phase = .starting)
    (bind : Binding) :
    Tracks endpoint (past ++ [.onStartReturns bind])
      ⟨process.controller.invoke ((runService endpoint).onStart.map (· bind)),
        .started⟩ := by
  have idle : process.phase.idle = true := by rw [starting]; rfl
  have fresh : process.controller.world = {} := tracks.idle idle
  have notStarted := tracks.notStarted idle
  have before : process.controller.startDone = false := by
    rw [← tracks.phase, starting]; rfl
  have notFinalized : ¬Finalized past := by
    rw [← tracks.startDone, before]; simp
  have sameFinalized : ¬Finalized (past ++ [.onStartReturns bind]) := by
    simp [finalized_snoc, notFinalized]
  have stoppedHost : ({} : ServiceHost).running = false := rfl
  have sameStop : StopDelivered (past ++ [.onStartReturns bind]) ↔
      StopDelivered past := by
    simp [stopDelivered_snoc]
  have outcome : Started endpoint (past ++ [.onStartReturns bind]) ↔
      (ServiceHost.bindServer bind endpoint).isSome = true := by
    simp [started_snoc, notStarted]
  constructor
  · simp [ServiceController.invoke, before, sameFinalized]
  · simp [ServiceController.invoke, before, MainPhase.finalized]
  · rw [sameStop]; exact tracks.stopRequested
  · rw [pauseWanted_other (by simp)]; exact tracks.pauseRequested
  · exact tracks.exitEvent
  · simp [MainPhase.idle]
  · rw [outcome, ← ServiceHost.start_fst bind endpoint stoppedHost]
    cases result : (ServiceHost.start bind endpoint {}).1 <;>
      simp [ServiceController.invoke, runService, fresh, result]
  · rw [outcome, ← ServiceHost.start_running bind endpoint stoppedHost]
    simp [sameFinalized, ServiceController.invoke, runService, fresh]
  · simp [sameFinalized, ServiceController.invoke, runService, fresh]
  · simp [MainPhase.idle]
  · simp [ServiceController.invoke, runService, fresh]
  · simp [MainPhase.exited]

theorem Tracks.finalizeStart {process : ServiceProcess HostWorld}
    (tracks : Tracks endpoint past process) (started : process.phase = .started) :
    Tracks endpoint (past ++ [.finalizeStart])
      ⟨process.controller.finalizeStart (runService endpoint), .waiting⟩ := by
  have nowFinalized : Finalized (past ++ [.finalizeStart]) := by
    simp [finalized_snoc]
  have notFinalized : ¬Finalized past := by
    rw [← tracks.startDone, ← tracks.phase, started]; simp [MainPhase.finalized]
  have sameStop : StopDelivered (past ++ [.finalizeStart]) ↔ StopDelivered past := by
    simp [stopDelivered_snoc]
  have sameStarted :
      Started endpoint (past ++ [.finalizeStart]) ↔ Started endpoint past := by
    simp [started_snoc]
  have running : process.controller.world.host.running = true ↔ Started endpoint past := by
    rw [tracks.running]; simp [notFinalized]
  have notStopped : .stop ∉ process.controller.world.calls := by
    rw [tracks.stopped]; simp [notFinalized]
  constructor
  · simp [nowFinalized]
  · simp [MainPhase.finalized]
  · rw [sameStop]; simpa using tracks.stopRequested
  · rw [pauseWanted_other (by simp)]; simpa using tracks.pauseRequested
  · simpa using tracks.exitEvent
  · simp [MainPhase.idle]
  · rw [sameStarted, ← tracks.started]
    cases stop : process.controller.stopRequested <;>
      cases pause : process.controller.pauseRequested <;>
      simp [runService, stop, pause]
  · rw [sameStarted, sameStop, ← tracks.stopRequested, ← running]
    cases stop : process.controller.stopRequested <;>
      cases pause : process.controller.pauseRequested <;>
      simp [runService, nowFinalized, stop, pause]
  · rw [sameStop, ← tracks.stopRequested]
    cases stop : process.controller.stopRequested <;>
      cases pause : process.controller.pauseRequested <;>
      simp [runService, nowFinalized, notStopped, stop, pause]
  · simp [MainPhase.idle]
  · intro _
    obtain ⟨returned, later, calls⟩ := tracks.startedFirst (by rw [started]; rfl)
    cases stop : process.controller.stopRequested <;>
      cases pause : process.controller.pauseRequested <;>
      simp [runService, stop, pause, calls]
  · simp [MainPhase.exited]

/-- The step lemma: one case for each event. -/
theorem Tracks.step {process next : ServiceProcess HostWorld}
    (tracks : Tracks endpoint past process)
    (taken : process.step (runService endpoint) event = some next) :
    Tracks endpoint (past ++ [event]) next := by
  cases ServiceProcess.step_transition taken with
  | control control =>
      exact tracks.control control
  | finalizeStart started =>
      exact tracks.finalizeStart started
  | onStartReturns bind starting =>
      exact tracks.onStartReturns starting bind
  | reportStartPending enabled | callOnStart enabled =>
      refine tracks.quiet trivial rfl ?_ ?_ ?_ <;>
        simp [enabled, MainPhase.idle, MainPhase.finalized, MainPhase.exited]
  | exitWait waiting signaled =>
      refine tracks.quiet trivial rfl ?_ ?_ ?_
      · simp [waiting, MainPhase.idle]
      · simp [waiting, MainPhase.finalized]
      · intro _
        rw [← tracks.exitEvent]
        exact signaled
  | reportStopped released =>
      refine tracks.quiet trivial rfl ?_ ?_ ?_
      · simp [released, MainPhase.idle]
      · simp [released, MainPhase.finalized]
      · intro _
        exact tracks.exited (by rw [released]; rfl)

/-- The run rule: a relation between history and process that each step keeps
while the process tracks its history holds of every run. -/
theorem run_tracked {events : List ServiceEvent} {final : ServiceProcess HostWorld}
    (holds : List ServiceEvent → ServiceProcess HostWorld → Prop)
    (initial : holds [] ServiceProcess.initial)
    (preserved : ∀ past before event after, Tracks endpoint past before →
      holds past before → before.step (runService endpoint) event = some after →
      holds (past ++ [event]) after)
    (executed : serviceRun endpoint events = some final) :
    Tracks endpoint events final ∧ holds events final := by
  refine run_history (fun past process => Tracks endpoint past process ∧ holds past process)
    ⟨tracks_initial endpoint, initial⟩ ?_ executed
  intro past before event after invariant taken
  exact ⟨invariant.1.step taken,
    preserved past before event after invariant.1 invariant.2 taken⟩

/-- In every run the controller tracks its history. -/
theorem tracks_of_run {events : List ServiceEvent} {final : ServiceProcess HostWorld}
    (executed : serviceRun endpoint events = some final) :
    Tracks endpoint events final :=
  (run_tracked (fun _ _ => True) trivial (fun _ _ _ _ _ _ _ => trivial) executed).1

end HWPanel.Service
