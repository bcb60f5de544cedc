import HWPanel.Service.Reconciliation

/-!
# Whether a stop is final

The PAUSE and CONTINUE handlers look at `start_done_` only, so a control that
arrives after the host was stopped reports a live state again, and CONTINUE may
restart the tick thread. This module determines the runs in which a stop is final.
-/

namespace HWPanel.Service

open HWPanel.Library

variable {past : List ServiceEvent} {event : ServiceEvent} {endpoint : String}

/-- The states a stopped service may still report. -/
def ScmState.Stopping (state : ScmState) : Prop :=
  state = .stopPending ∨ state = .stopped

/-- Every report made after the host was stopped names a stopping state, and a
stopped host has no tick thread. -/
structure StayedStopped (process : ServiceProcess HostWorld) : Prop where
  reports : ∀ report ∈ process.controller.reports, .stop ∈ report.world.calls →
    report.status.currentState.Stopping
  idle : .stop ∈ process.controller.world.calls →
    process.controller.world.host.pipeline.thread = none

/-- The stop is final throughout the run: in every state it passes. -/
def StopFinal (endpoint : String) (events : List ServiceEvent) : Prop :=
  ∀ front back middle, events = front ++ back →
    serviceRun endpoint front = some middle → StayedStopped middle

/-- A PAUSE or CONTINUE delivered once both `FinalizeStart` and a stop control
are past. -/
def LateSwitch (past : List ServiceEvent) : ServiceEvent → Prop
  | .control .pause | .control .continue_ => Finalized past ∧ StopDelivered past
  | _ => False

def NoLateSwitch : List ServiceEvent → Prop :=
  AlongHistory fun past event => ¬LateSwitch past event

theorem StayedStopped.extend {process next : ServiceProcess HostWorld}
    {added : List (Report HostWorld)} (stayed : StayedStopped process)
    (reports : next.controller.reports = process.controller.reports ++ added)
    (fresh : ∀ report ∈ added, .stop ∈ report.world.calls →
      report.status.currentState.Stopping)
    (idle : .stop ∈ next.controller.world.calls →
      next.controller.world.host.pipeline.thread = none) : StayedStopped next where
  reports := by
    rw [reports]
    exact List.forall_mem_append.mpr ⟨stayed.reports, fresh⟩
  idle := idle

/-- Before a stop is effective the log has no `Stop` call. -/
theorem Tracks.stop_not_mem {process : ServiceProcess HostWorld}
    (tracks : Tracks endpoint past process)
    (ineffective : process.controller.startDone = false ∨
      process.controller.stopRequested = false) :
    .stop ∉ process.controller.world.calls := by
  rw [tracks.stopped, ← tracks.startDone, ← tracks.stopRequested]
  rcases ineffective with before | running
  · simp [before]
  · simp [running]

theorem Tracks.effective {process : ServiceProcess HostWorld}
    (tracks : Tracks endpoint past process)
    (done : process.controller.startDone = true)
    (requested : process.controller.stopRequested = true) :
    Finalized past ∧ StopDelivered past :=
  ⟨tracks.startDone.mp done, tracks.stopRequested.mp requested⟩

theorem StayedStopped.control {process : ServiceProcess HostWorld}
    (stayed : StayedStopped process) (tracks : Tracks endpoint past process)
    (serves : Serves process) {control : Control}
    (timely : ¬LateSwitch past (.control control)) :
    StayedStopped
      ⟨(process.controller.handlerThunk (runService endpoint) control).2,
        process.phase⟩ := by
  refine stayed.extend
    (ServiceController.handlerThunk_reports (runService endpoint) _ control) ?_ ?_
  all_goals cases done : process.controller.startDone
  · simp
  · cases requested : process.controller.stopRequested
    · have noStop := tracks.stop_not_mem (Or.inr requested)
      cases control <;>
        simp [ServiceController.controlReports, runService, noStop]
    · have effective := tracks.effective done requested
      cases control <;>
        simp [ServiceController.controlReports, ScmState.Stopping, LateSwitch,
          effective] at timely ⊢
  · simpa [done] using stayed.idle
  · cases requested : process.controller.stopRequested
    · have noStop := tracks.stop_not_mem (Or.inr requested)
      have serving := (serves.finalized done requested).1
      cases control <;>
        simp [done, ServiceController.controlCallback, runService, noStop,
          serving.stop_thread]
    · have effective := tracks.effective done requested
      have halted : process.controller.world.host.running = false := by
        rw [← Bool.not_eq_true, tracks.running]
        simp [effective]
      have idle := stayed.idle (tracks.stopped.mpr effective)
      cases control <;>
        simp [done, ServiceController.controlCallback, runService,
          ServiceHost.stop_of_stopped halted, idle, LateSwitch, effective] at timely ⊢

theorem StayedStopped.finalizeStart {process : ServiceProcess HostWorld}
    (stayed : StayedStopped process) (tracks : Tracks endpoint past process)
    (serves : Serves process) (started : process.phase = .started) :
    StayedStopped
      ⟨process.controller.finalizeStart (runService endpoint), .waiting⟩ := by
  have before : process.controller.startDone = false := by
    rw [← tracks.phase, started]; rfl
  have noStop := tracks.stop_not_mem (Or.inl before)
  have serving := (serves.started started).1
  refine stayed.extend
    (ServiceController.finalizeStart_reports (runService endpoint) _) ?_ ?_
  all_goals
    cases stop : process.controller.stopRequested <;>
      cases pause : process.controller.pauseRequested <;>
      simp [ServiceController.finalReports, ServiceController.controlReports, runService,
        stop, pause, noStop, serving.stop_thread]

/-- The step lemma, for a start that succeeds and no late PAUSE or CONTINUE. -/
theorem StayedStopped.step {process next : ServiceProcess HostWorld}
    (stayed : StayedStopped process) (tracks : Tracks endpoint past process)
    (serves : Serves process) (timely : ¬LateSwitch past event)
    (taken : process.step (runService endpoint) event = some next) :
    StayedStopped next := by
  cases ServiceProcess.step_transition taken with
  | control control =>
      exact stayed.control tracks serves timely
  | finalizeStart started =>
      exact stayed.finalizeStart tracks serves started
  | onStartReturns bind starting =>
      have fresh : process.controller.world = {} :=
        tracks.idle (by rw [starting]; rfl)
      refine stayed.extend (List.append_nil _).symm (by simp) ?_
      simp [ServiceController.invoke, runService, fresh]
  | reportStartPending registered =>
      have fresh : process.controller.world = {} :=
        tracks.idle (by rw [registered]; rfl)
      refine stayed.extend rfl ?_ stayed.idle
      simp [fresh]
  | reportStopped released =>
      refine stayed.extend rfl ?_ stayed.idle
      simp [ScmState.Stopping]
  | callOnStart | exitWait =>
      exact stayed.extend (List.append_nil _).symm (by simp) stayed.idle

theorem stayedStopped_of_run {events : List ServiceEvent}
    {final : ServiceProcess HostWorld}
    (executed : serviceRun endpoint events = some final)
    (succeeds : StartSucceeds endpoint events) (noLate : NoLateSwitch events) :
    StayedStopped final := by
  have both := run_tracked
    (fun past process => StartSucceeds endpoint past →
      Serves process ∧ (NoLateSwitch past → StayedStopped process)) ?_ ?_ executed
  · exact (both.2 succeeds).2 noLate
  · intro _
    refine ⟨serves_initial, fun _ => ⟨?_, fun _ => rfl⟩⟩
    simp [ServiceProcess.initial]
  · intro past before event after tracks invariant taken succeeds
    obtain ⟨serves, stayed⟩ := invariant succeeds.of_append
    refine ⟨serves.step tracks succeeds taken, fun noLate => ?_⟩
    obtain ⟨earlier, timely⟩ := alongHistory_snoc.mp noLate
    exact (stayed earlier).step tracks serves timely taken

/-- A late PAUSE or CONTINUE reports a state that is not a stopping one. -/
theorem LateSwitch.not_stayedStopped {process next : ServiceProcess HostWorld}
    (late : LateSwitch past event) (tracks : Tracks endpoint past process)
    (taken : process.step (runService endpoint) event = some next) :
    ¬StayedStopped next := by
  intro stayed
  cases event with
  | control control =>
      cases taken
      cases control with
      | pause =>
          have done := tracks.startDone.mpr late.1
          have stopping := stayed.reports
            ⟨⟨.pausePending, 5000⟩, process.controller.world⟩
            (by simp [done, ServiceController.controlReports]) (tracks.stopped.mpr late)
          simp [ScmState.Stopping] at stopping
      | continue_ =>
          have done := tracks.startDone.mpr late.1
          have stopping := stayed.reports
            ⟨⟨.continuePending, 5000⟩, process.controller.world⟩
            (by simp [done, ServiceController.controlReports]) (tracks.stopped.mpr late)
          simp [ScmState.Stopping] at stopping
      | _ => exact late
  | _ => exact late

/-- A stop is final throughout a run exactly when no PAUSE or CONTINUE follows
it. -/
theorem stop_final_iff {events : List ServiceEvent} {final : ServiceProcess HostWorld}
    (executed : serviceRun endpoint events = some final)
    (succeeds : StartSucceeds endpoint events) :
    StopFinal endpoint events ↔ NoLateSwitch events := by
  constructor
  · intro finality front event back split late
    rw [split] at executed
    obtain ⟨before, after, reached, taken, _⟩ := run_split_some executed
    have passed : serviceRun endpoint (front ++ [event]) = some after := by
      rw [serviceRun, run_append, reached]
      simpa using taken
    have stayed := finality (front ++ [event]) back after (by simp [split]) passed
    exact late.not_stayedStopped (tracks_of_run reached) taken stayed
  · intro noLate front back middle split reached
    subst split
    exact stayedStopped_of_run reached succeeds.of_append noLate.of_append

/-- A pause before the stop, and no control after it. -/
theorem stop_final_iff_after_pause :
    StopFinal "127.0.0.1:50051"
      [.reportStartPending, .callOnStart, .onStartReturns fun _ => true,
        .finalizeStart, .control .pause, .control .stop, .exitWait, .reportStopped] := by
  have executed : serviceRun "127.0.0.1:50051"
      [.reportStartPending, .callOnStart, .onStartReturns fun _ => true,
        .finalizeStart, .control .pause, .control .stop, .exitWait, .reportStopped] =
      some _ := rfl
  refine (stop_final_iff executed ?_).mpr ?_
  · intro bind member
    simp at member
    simp [ServiceHost.bindServer, member]
  · rw [← List.nil_append [_, _, _, _, _, _, _, _]]
    iterate 7 rw [List.append_cons]
    simp only [NoLateSwitch, alongHistory_snoc, alongHistory_nil]
    simp [LateSwitch, StopDelivered]

/-- Pause, stop, continue: the stopped service reports RUNNING and ticks again. -/
theorem continue_after_stop_revives :
    ¬StopFinal "127.0.0.1:50051"
      [.reportStartPending, .callOnStart, .onStartReturns fun _ => true,
        .finalizeStart, .control .pause, .control .stop, .control .continue_] := by
  intro finality
  have stayed := finality _ [] _ (List.append_nil _).symm rfl
  have idle := stayed.idle (by decide)
  exact absurd idle (by decide)

end HWPanel.Service
