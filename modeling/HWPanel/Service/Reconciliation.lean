import HWPanel.Service.Lifecycle

/-!
# Startup reconciliation

The requested state, the reported state, the host's `paused_` flag and the tick
thread agree whenever startup is over and no stop has been delivered, and no stop
delivered during startup is lost. `Serves` is the invariant behind the first
half: it needs `Start` to succeed, and says that a host nobody has stopped is
serving with the requested pause state reported.
-/

namespace HWPanel.Service

open HWPanel.Library

variable {past : List ServiceEvent} {event : ServiceEvent} {endpoint : String}

/-- The state of the latest `SetServiceStatus` call. -/
def ServiceController.lastState {World : Type} (self : ServiceController World) :
    Option ScmState :=
  self.reports.getLast?.map (·.status.currentState)

/-- The state `ServiceHost::StateName` spells. -/
def ScmState.name : ScmState → String
  | .running => "RUNNING"
  | .paused => "PAUSED"
  | _ => "STOPPED"

/-- The state a pause request stands for. -/
def requestedState (paused : Bool) : ScmState := if paused then .paused else .running

instance (past : List ServiceEvent) : Decidable (PauseWanted past) :=
  inferInstanceAs (Decidable (_ = _))

/-- The state the controls delivered so far ask for. -/
def wantedState (past : List ServiceEvent) : ScmState :=
  requestedState (decide (PauseWanted past))

/-- Between `on_start_` and a stop the host serves, and once `FinalizeStart` has
run it is paused as requested, with that state reported last. -/
structure Serves (process : ServiceProcess HostWorld) : Prop where
  started : process.phase = .started →
    process.controller.world.host.Serving ∧
      process.controller.world.host.paused = false
  finalized : process.controller.startDone = true →
    process.controller.stopRequested = false →
    process.controller.world.host.Serving ∧
      process.controller.world.host.paused = process.controller.pauseRequested ∧
      process.controller.lastState =
        some (requestedState process.controller.pauseRequested)

theorem Serves.control {process : ServiceProcess HostWorld} (serves : Serves process)
    (tracks : Tracks endpoint past process) (control : Control) :
    Serves ⟨(process.controller.handlerThunk (runService endpoint) control).2,
      process.phase⟩ := by
  constructor
  · intro started
    have before : process.controller.startDone = false := by
      rw [← tracks.phase, started]; rfl
    simpa [before] using serves.started started
  · intro done notStopped
    simp only [ServiceController.handlerThunk_startDone] at done
    simp only [ServiceController.handlerThunk_stopRequested, Bool.or_eq_false_iff]
      at notStopped
    obtain ⟨serving, paused, reported⟩ := serves.finalized done notStopped.2
    cases control with
    | stop | preshutdown => simp [Control.isStop] at notStopped
    | pause =>
        simp [done, ServiceController.controlCallback, ServiceController.pauseAfter,
          ServiceController.lastState, ServiceController.controlReports, runService,
          requestedState, serving.pauseCollectors]
    | continue_ =>
        simp [done, ServiceController.controlCallback, ServiceController.pauseAfter,
          ServiceController.lastState, ServiceController.controlReports, runService,
          requestedState, serving.resumeCollectors]
    | interrogate | other code =>
        exact ⟨serving, paused, reported⟩

theorem Serves.finalizeStart {process : ServiceProcess HostWorld}
    (serves : Serves process) (started : process.phase = .started) :
    Serves ⟨process.controller.finalizeStart (runService endpoint), .waiting⟩ := by
  obtain ⟨serving, unpaused⟩ := serves.started started
  constructor
  · intro impossible
    cases impossible
  · intro _ notStopped
    simp only [ServiceController.finalizeStart_stopRequested] at notStopped
    cases pause : process.controller.pauseRequested
    · simp [notStopped, pause, serving, unpaused, ServiceController.lastState,
        ServiceController.finalReports, requestedState]
    · simp [notStopped, pause, serving.pauseCollectors, runService,
        ServiceController.lastState, ServiceController.finalReports,
        ServiceController.controlReports, requestedState]

theorem Serves.step {process next : ServiceProcess HostWorld} (serves : Serves process)
    (tracks : Tracks endpoint past process)
    (succeeds : StartSucceeds endpoint (past ++ [event]))
    (taken : process.step (runService endpoint) event = some next) : Serves next := by
  cases ServiceProcess.step_transition taken with
  | control control =>
      exact serves.control tracks control
  | finalizeStart started =>
      exact serves.finalizeStart started
  | onStartReturns bind starting =>
      have fresh : process.controller.world = {} :=
        tracks.idle (by rw [starting]; rfl)
      have before : process.controller.startDone = false := by
        rw [← tracks.phase, starting]; rfl
      constructor
      · intro _
        simp only [ServiceController.invoke, runService, fresh]
        exact ⟨ServiceHost.serving_start (succeeds bind (by simp)),
          ServiceHost.start_paused bind endpoint {}⟩
      · intro done
        simp [ServiceController.invoke, before] at done
  | reportStartPending enabled | callOnStart enabled =>
      have before : process.controller.startDone = false := by
        rw [← tracks.phase, enabled]; rfl
      constructor
      · intro impossible
        cases impossible
      · intro done
        simp [ServiceController.reportStateLocked, before] at done
  | exitWait waiting signaled =>
      constructor
      · intro impossible
        cases impossible
      · exact serves.finalized
  | reportStopped released =>
      constructor
      · intro impossible
        cases impossible
      · intro _ notStopped
        have requested := tracks.exited (by rw [released]; rfl)
        simp [ServiceController.reportStateLocked, requested] at notStopped

theorem serves_initial : Serves ServiceProcess.initial := by
  constructor
  · intro impossible
    cases impossible
  · intro impossible
    cases impossible

theorem serves_of_run {events : List ServiceEvent} {final : ServiceProcess HostWorld}
    (executed : serviceRun endpoint events = some final)
    (succeeds : StartSucceeds endpoint events) : Serves final := by
  have served := run_tracked
    (fun past process => StartSucceeds endpoint past → Serves process) ?_ ?_ executed
  · exact served.2 succeeds
  · intro _
    exact serves_initial
  · intro past before event after tracks serves taken succeeds
    exact (serves succeeds.of_append).step tracks succeeds taken

/-- `Stop` was called on the host after its `Start` returned. -/
def StoppedAfterStart (calls : List HostCall) : Prop :=
  ∃ front returned later, calls = front ++ .start returned :: later ∧ .stop ∈ later

/-- At every report of STOPPED a stop control has been delivered and the host has
been stopped after its start. -/
def StopsHonoured (past : List ServiceEvent) (process : ServiceProcess HostWorld) : Prop :=
  ∀ report ∈ process.controller.reports, report.status.currentState = .stopped →
    StopDelivered past ∧ StoppedAfterStart report.world.calls

theorem stoppedAfterStart_of_first {calls : List HostCall} {returned : Bool}
    {later : List HostCall} (startedFirst : calls = .start returned :: later)
    (stopped : .stop ∈ calls) : StoppedAfterStart calls := by
  refine ⟨[], returned, later, startedFirst, ?_⟩
  rw [startedFirst] at stopped
  simpa using stopped

theorem controlReports_ne_stopped {World : Type} (callbacks : Callbacks World)
    (control : Control) (world : World) :
    ∀ report ∈ ServiceController.controlReports callbacks control world,
      report.status.currentState ≠ .stopped := by
  cases control <;> simp [ServiceController.controlReports]

theorem finalReports_ne_stopped {World : Type} (callbacks : Callbacks World)
    (self : ServiceController World) :
    ∀ report ∈ self.finalReports callbacks, report.status.currentState ≠ .stopped := by
  rw [ServiceController.finalReports]
  split
  · exact controlReports_ne_stopped callbacks .stop self.world
  · split
    · exact controlReports_ne_stopped callbacks .pause self.world
    · simp

/-- Only the last step of `ServiceMain` adds a STOPPED report. -/
theorem StopsHonoured.extend {process next : ServiceProcess HostWorld}
    {added : List (Report HostWorld)} (honoured : StopsHonoured past process)
    (reports : next.controller.reports = process.controller.reports ++ added)
    (fresh : ∀ report ∈ added, report.status.currentState = .stopped →
      StopDelivered past ∧ StoppedAfterStart report.world.calls) :
    StopsHonoured (past ++ [event]) next := by
  intro report member stopped
  rw [reports] at member
  have valid : StopDelivered past ∧ StoppedAfterStart report.world.calls := by
    rcases List.mem_append.mp member with earlier | last
    · exact honoured report earlier stopped
    · exact fresh report last stopped
  exact ⟨stopDelivered_snoc.mpr (Or.inl valid.1), valid.2⟩

theorem StopsHonoured.step {process next : ServiceProcess HostWorld}
    (honoured : StopsHonoured past process) (tracks : Tracks endpoint past process)
    (taken : process.step (runService endpoint) event = some next) :
    StopsHonoured (past ++ [event]) next := by
  cases ServiceProcess.step_transition taken with
  | control control =>
      refine honoured.extend
        (ServiceController.handlerThunk_reports (runService endpoint) _ control) ?_
      intro report member stopped
      split at member
      · exact absurd stopped (controlReports_ne_stopped _ control _ report member)
      · simp at member
  | finalizeStart started =>
      refine honoured.extend
        (ServiceController.finalizeStart_reports (runService endpoint) _) ?_
      intro report member stopped
      exact absurd stopped (finalReports_ne_stopped _ _ report member)
  | reportStopped released =>
      refine honoured.extend rfl ?_
      intro report member _
      rw [List.mem_singleton.mp member]
      have done : process.controller.startDone = true := by
        rw [← tracks.phase, released]; rfl
      have requested := tracks.exited (by rw [released]; rfl)
      have delivered := tracks.stopRequested.mp requested
      obtain ⟨returned, later, calls⟩ := tracks.startedFirst (by rw [released]; rfl)
      refine ⟨delivered, stoppedAfterStart_of_first calls ?_⟩
      exact tracks.stopped.mpr ⟨tracks.startDone.mp done, delivered⟩
  | reportStartPending registered =>
      refine honoured.extend rfl ?_
      intro report member stopped
      rw [List.mem_singleton.mp member] at stopped
      cases stopped
  | callOnStart | onStartReturns | exitWait =>
      exact honoured.extend (List.append_nil _).symm (by simp)

theorem stopsHonoured_of_run {events : List ServiceEvent}
    {final : ServiceProcess HostWorld}
    (executed : serviceRun endpoint events = some final) :
    StopsHonoured events final := by
  refine (run_tracked StopsHonoured ?_ ?_ executed).2
  · simp [StopsHonoured, ServiceProcess.initial]
  · intro past before event after tracks honoured taken
    exact honoured.step tracks taken

/-! ## The reconciled states -/

/-- The reported state, `StateName()` and the tick thread all show what the
PAUSE and CONTINUE controls ask for. -/
structure Reconciled (past : List ServiceEvent) (process : ServiceProcess HostWorld) :
    Prop where
  reported : process.controller.lastState = some (wantedState past)
  named : process.controller.world.host.stateName = (wantedState past).name
  ticking : process.controller.world.host.pipeline.thread.isSome = true ↔
    wantedState past = .running

/-- Startup reconciliation, for every interleaving of `ServiceMain` with any
controls: after `FinalizeStart` and before any stop the four copies of the state
agree, and STOPPED is reported only once a stop was delivered and carried out. -/
theorem startup_reconciled {events : List ServiceEvent}
    {final : ServiceProcess HostWorld}
    (executed : serviceRun endpoint events = some final)
    (succeeds : StartSucceeds endpoint events) :
    (Finalized events → ¬StopDelivered events → Reconciled events final) ∧
      StopsHonoured events final := by
  refine ⟨fun finalized notStopped => ?_, stopsHonoured_of_run executed⟩
  have tracks := tracks_of_run executed
  have done : final.controller.startDone = true := tracks.startDone.mpr finalized
  have running : final.controller.stopRequested = false := by
    rw [← Bool.not_eq_true, tracks.stopRequested]
    exact notStopped
  obtain ⟨serving, paused, reported⟩ :=
    (serves_of_run executed succeeds).finalized done running
  have requested : final.controller.pauseRequested = decide (PauseWanted events) := by
    rw [Bool.eq_iff_iff, decide_eq_true_iff]
    exact tracks.pauseRequested
  have ticking : final.controller.world.host.pipeline.thread.isSome =
      !final.controller.world.host.paused := by
    rw [← serving.ticking]
    exact serving.consistent
  rw [requested] at paused reported
  constructor
  · exact reported
  · rw [serving.stateName, paused, wantedState]
    cases decide (PauseWanted events) <;> rfl
  · rw [ticking, paused, wantedState]
    cases decide (PauseWanted events) <;> simp [requestedState]

/-- A pause delivered while `on_start_` runs is in force after a slow start. -/
theorem startup_reconciled_pause_during_start :
    ∃ final, serviceRun "127.0.0.1:50051"
        [.reportStartPending, .callOnStart, .control .pause,
          .onStartReturns fun _ => true, .finalizeStart] = some final ∧
      Reconciled [.reportStartPending, .callOnStart, .control .pause,
        .onStartReturns fun _ => true, .finalizeStart] final := by
  have executed : serviceRun "127.0.0.1:50051"
      [.reportStartPending, .callOnStart, .control .pause,
        .onStartReturns fun _ => true, .finalizeStart] = some _ := rfl
  refine ⟨_, executed, (startup_reconciled executed ?_).1 ?_ ?_⟩
  · intro bind member
    simp at member
    simp [ServiceHost.bindServer, member]
  · simp [Finalized]
  · simp [StopDelivered, Control.isStop]

end HWPanel.Service
