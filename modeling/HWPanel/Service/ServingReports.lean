import HWPanel.Service.Lifecycle

/-!
# When RUNNING is reported

`RunService` drops the result of `ServiceHost::Start`, so `FinalizeStart` and the
CONTINUE handler report SERVICE_RUNNING whether or not the host serves. This
module determines the runs in which every such report is true.
-/

namespace HWPanel.Service

open HWPanel.Library

variable {past : List ServiceEvent} {event : ServiceEvent} {endpoint : String}

/-- A report of RUNNING is true: `Start` has returned true and `running()` holds. -/
def Report.Truthful (report : Report HostWorld) : Prop :=
  report.status.currentState = .running →
    .start true ∈ report.world.calls ∧ report.world.host.running = true

/-- Every report of RUNNING so far was true. -/
def RunningTruthful (process : ServiceProcess HostWorld) : Prop :=
  ∀ report ∈ process.controller.reports, report.Truthful

/-- A step at which a service that does not serve claims to: `FinalizeStart`
after a failed start that no stop or pause overrides, or a CONTINUE after
startup when the start failed or a stop has been delivered. -/
def FalseClaim (endpoint : String) (past : List ServiceEvent) : ServiceEvent → Prop
  | .finalizeStart => ¬Started endpoint past ∧ ¬StopDelivered past ∧ ¬PauseWanted past
  | .control .continue_ =>
      Finalized past ∧ (¬Started endpoint past ∨ StopDelivered past)
  | _ => False

/-- No step of the history is a false claim. -/
def NoFalseClaim (endpoint : String) : List ServiceEvent → Prop :=
  AlongHistory fun past event => ¬FalseClaim endpoint past event

/-- Reports are only added, so their truth splits into old and new. -/
theorem runningTruthful_extend {process next : ServiceProcess HostWorld}
    {added : List (Report HostWorld)}
    (reports : next.controller.reports = process.controller.reports ++ added) :
    RunningTruthful next ↔
      RunningTruthful process ∧ ∀ report ∈ added, report.Truthful := by
  rw [RunningTruthful, reports]
  exact List.forall_mem_append

/-- A RUNNING report is true exactly when the history has the start and no
effective stop. -/
theorem Tracks.truthful_running {process : ServiceProcess HostWorld}
    (tracks : Tracks endpoint past process) :
    (.start true ∈ process.controller.world.calls ∧
        process.controller.world.host.running = true) ↔
      Started endpoint past ∧ ¬(Finalized past ∧ StopDelivered past) := by
  rw [tracks.started, tracks.running]
  tauto

/-- The step lemma: the reports stay true exactly when the step is no false
claim. -/
theorem runningTruthful_step {process next : ServiceProcess HostWorld}
    (tracks : Tracks endpoint past process)
    (taken : process.step (runService endpoint) event = some next) :
    RunningTruthful next ↔
      RunningTruthful process ∧ ¬FalseClaim endpoint past event := by
  cases ServiceProcess.step_transition taken with
  | control control =>
      rw [runningTruthful_extend
        (ServiceController.handlerThunk_reports (runService endpoint) _ control)]
      apply and_congr_right
      intro _
      have finalized := tracks.startDone
      cases done : process.controller.startDone
      · rw [done] at finalized
        cases control <;> simp [FalseClaim, ← finalized]
      · rw [done] at finalized
        cases control with
        | continue_ =>
            have serving := tracks.truthful_running
            simp [FalseClaim, ServiceController.controlReports, Report.Truthful,
              runService, ← finalized] at serving ⊢
            tauto
        | _ =>
            simp [FalseClaim, ServiceController.controlReports, Report.Truthful]
  | finalizeStart started =>
      rw [runningTruthful_extend
        (ServiceController.finalizeStart_reports (runService endpoint) _)]
      apply and_congr_right
      intro _
      have notFinalized : ¬Finalized past := by
        rw [← tracks.startDone, ← tracks.phase, started]; simp [MainPhase.finalized]
      have serving := tracks.truthful_running
      rw [FalseClaim, ← tracks.stopRequested, ← tracks.pauseRequested]
      cases stop : process.controller.stopRequested <;>
        cases pause : process.controller.pauseRequested <;>
        simp [ServiceController.finalReports, ServiceController.controlReports,
          Report.Truthful, stop, pause, notFinalized] at serving ⊢
      exact serving
  | reportStartPending | reportStopped =>
      rw [runningTruthful_extend rfl]
      simp [FalseClaim, Report.Truthful]
  | callOnStart | onStartReturns | exitWait =>
      simp [FalseClaim, RunningTruthful, ServiceController.invoke]

/-- In every run, every report of RUNNING comes from a serving host exactly when
no step was a false claim. -/
theorem running_truthful_iff {events : List ServiceEvent}
    {final : ServiceProcess HostWorld}
    (executed : serviceRun endpoint events = some final) :
    RunningTruthful final ↔ NoFalseClaim endpoint events := by
  have both := run_tracked
    (fun past process => RunningTruthful process ↔ NoFalseClaim endpoint past)
    ?_ ?_ executed
  · exact both.2
  · simp [RunningTruthful, ServiceProcess.initial, NoFalseClaim, alongHistory_nil]
  · intro past before event after tracks equivalent taken
    rw [runningTruthful_step tracks taken, equivalent]
    exact alongHistory_snoc.symm

/-- A start that binds its endpoint, with a pause and a continue after it. -/
theorem running_truthful_iff_bound :
    ∃ final, serviceRun "127.0.0.1:50051"
        [.reportStartPending, .callOnStart, .onStartReturns fun _ => true,
          .finalizeStart, .control .pause, .control .continue_] = some final ∧
      RunningTruthful final := by
  have executed : serviceRun "127.0.0.1:50051"
      [.reportStartPending, .callOnStart, .onStartReturns fun _ => true,
        .finalizeStart, .control .pause, .control .continue_] = some _ := rfl
  refine ⟨_, executed, (running_truthful_iff executed).mpr ?_⟩
  rw [← List.nil_append [_, _, _, _, _, _]]
  iterate 5 rw [List.append_cons]
  simp only [NoFalseClaim, alongHistory_snoc, alongHistory_nil]
  simp [FalseClaim, Started, StopDelivered, Control.isStop, ServiceHost.bindServer]

/-- When neither endpoint can be bound, the SCM is still told RUNNING. -/
theorem failed_start_reports_running :
    ¬∀ final, serviceRun "127.0.0.1:50051"
        [.reportStartPending, .callOnStart, .onStartReturns fun _ => false,
          .finalizeStart] = some final → RunningTruthful final := by
  intro truthful
  have report := truthful _ rfl _ (List.mem_append_right _ (List.mem_singleton_self _)) rfl
  simp [runService, ServiceController.invoke, ServiceController.reportStateLocked,
    ServiceProcess.initial, ServiceHost.start, ServiceHost.bindServer] at report

end HWPanel.Service
