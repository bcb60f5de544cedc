import HWPanel.Library.Run
import HWPanel.Service.ServiceHost

/-!
# The states of the host

`running_`, `paused_` and the tick thread under any sequence of `Start`, `Stop`,
`PauseCollectors` and `ResumeCollectors`. The three agree exactly as long as
`Start` neither fails nor finds the host paused, and the collectors are not resumed
on a host that does not serve.
-/

namespace HWPanel.Service

open HWPanel.Collectors HWPanel.Library

inductive HostOp where
  | start (bind : Binding) (endpoint : String)
  | stop
  | pauseCollectors
  | resumeCollectors

namespace ServiceHost

/-- `Start` can bind its endpoint, or the loopback address in place of a named
pipe. -/
def Bindable (bind : Binding) (endpoint : String) : Prop :=
  bind endpoint = true ∨
    isNamedPipeAddress endpoint = true ∧ bind (tcpAddress kDefaultTcpPort) = true

theorem bindServer_isSome_iff (bind : Binding) (endpoint : String) :
    (bindServer bind endpoint).isSome = true ↔ Bindable bind endpoint := by
  unfold bindServer Bindable
  split
  next bound => simp [bound]
  next unbound =>
    split
    next fallback => simpa [unbound] using fallback
    next noFallback => simpa [unbound] using noFallback

def apply (host : ServiceHost) : HostOp → ServiceHost
  | .start bind endpoint => (host.start bind endpoint).2
  | .stop => host.stop
  | .pauseCollectors => host.pauseCollectors
  | .resumeCollectors => host.resumeCollectors

/-- The host after a sequence of calls on a new one. -/
def after (ops : List HostOp) : ServiceHost := ops.foldl apply {}

@[simp] theorem after_snoc (past : List HostOp) (next : HostOp) :
    after (past ++ [next]) = (after past).apply next := by
  simp [after]

theorem stateName_eq_running_iff (host : ServiceHost) :
    host.stateName = "RUNNING" ↔ host.running = true ∧ host.paused = false := by
  unfold stateName
  cases host.running with
  | false => simp
  | true =>
      cases host.paused with
      | false => simp
      | true => simp

/-- The tick thread runs exactly while the host serves unpaused, which is exactly
when `StateName` says so. -/
structure Represented (host : ServiceHost) : Prop where
  flags : host.pipeline.thread.isSome = true ↔ host.running = true ∧ host.paused = false
  reported : host.pipeline.thread.isSome = true ↔ host.stateName = "RUNNING"

theorem represented_iff_flags (host : ServiceHost) :
    host.Represented ↔
      (host.pipeline.thread.isSome = true ↔ host.running = true ∧ host.paused = false) := by
  constructor
  · intro represented
    exact represented.flags
  · intro flags
    exact ⟨flags, flags.trans (stateName_eq_running_iff host).symm⟩

/-- The state in which a call restores the invariant: a `Start` that is not ignored
needs an unpaused host and an address to bind, a resumption that is not ignored a
host that serves. -/
def Restores (host : ServiceHost) : HostOp → Prop
  | .start bind endpoint =>
      host.running = false → host.paused = false ∧ Bindable bind endpoint
  | .resumeCollectors => host.paused = true → host.running = true
  | .stop => True
  | .pauseCollectors => True

theorem consistent_start {host : ServiceHost} (consistent : host.pipeline.Consistent)
    (bind : Binding) (endpoint : String) :
    (host.start bind endpoint).2.pipeline.Consistent := by
  cases running : host.running with
  | true =>
      rw [start, if_pos running]
      exact consistent
  | false =>
      rw [start_pipeline bind endpoint running]
      exact (((consistent.register .pdh).register .wmi).register .nvml).start _

theorem consistent_stop {host : ServiceHost} (consistent : host.pipeline.Consistent) :
    host.stop.pipeline.Consistent := by
  unfold stop
  split
  · exact consistent
  · exact consistent.stop

theorem consistent_pauseCollectors {host : ServiceHost}
    (consistent : host.pipeline.Consistent) :
    host.pauseCollectors.pipeline.Consistent := by
  unfold pauseCollectors
  split
  · exact consistent
  · exact consistent.stop

theorem consistent_resumeCollectors {host : ServiceHost}
    (consistent : host.pipeline.Consistent) :
    host.resumeCollectors.pipeline.Consistent := by
  unfold resumeCollectors
  split
  · exact consistent
  · exact consistent.start _

theorem consistent_after (ops : List HostOp) : (after ops).pipeline.Consistent := by
  induction ops using List.reverseRecOn with
  | nil => exact rfl
  | append_singleton past next ih =>
      rw [after_snoc]
      cases next with
      | start bind endpoint => exact consistent_start ih bind endpoint
      | stop => exact consistent_stop ih
      | pauseCollectors => exact consistent_pauseCollectors ih
      | resumeCollectors => exact consistent_resumeCollectors ih

/-- `Start` of a host that does not serve leaves the tick thread running, whether it
succeeds or not. -/
theorem start_thread {host : ServiceHost} (consistent : host.pipeline.Consistent)
    (stopped : host.running = false) (bind : Binding) (endpoint : String) :
    (host.start bind endpoint).2.pipeline.thread.isSome = true := by
  rw [start_pipeline bind endpoint stopped]
  exact (((consistent.register .pdh).register .wmi).register .nvml).start_thread _

variable {host : ServiceHost}

theorem represented_start_iff (consistent : host.pipeline.Consistent)
    (represented : host.Represented) (bind : Binding) (endpoint : String) :
    (host.start bind endpoint).2.Represented ↔ host.Restores (.start bind endpoint) := by
  cases running : host.running with
  | true =>
      rw [start, if_pos running]
      exact iff_of_true represented fun stopped => by simp [running] at stopped
  | false =>
      have thread := start_thread consistent running bind endpoint
      rw [represented_iff_flags, start_running bind endpoint running, start_paused,
        bindServer_isSome_iff]
      simp only [thread, true_iff, Restores, running, forall_const]
      exact and_comm

theorem represented_stop (consistent : host.pipeline.Consistent)
    (represented : host.Represented) : host.stop.Represented := by
  cases running : host.running with
  | false =>
      rw [stop_of_stopped running]
      exact represented
  | true =>
      rw [represented_iff_flags, stop_pipeline running, consistent.stop_thread]
      simp

theorem represented_pauseCollectors (consistent : host.pipeline.Consistent)
    (represented : host.Represented) : host.pauseCollectors.Represented := by
  cases paused : host.paused with
  | true =>
      rw [pauseCollectors, if_pos paused]
      exact represented
  | false =>
      have ended : host.pauseCollectors.pipeline = host.pipeline.stop := by
        simp [pauseCollectors, paused]
      rw [represented_iff_flags, ended, consistent.stop_thread]
      simp

theorem represented_resumeCollectors_iff (consistent : host.pipeline.Consistent)
    (represented : host.Represented) :
    host.resumeCollectors.Represented ↔ host.Restores .resumeCollectors := by
  cases paused : host.paused with
  | false =>
      rw [resumeCollectors, paused]
      exact iff_of_true represented fun isPaused => by simp [paused] at isPaused
  | true =>
      have started : host.resumeCollectors.pipeline =
          host.pipeline.start host.tickCallback := by
        simp [resumeCollectors, paused]
      rw [represented_iff_flags, started, consistent.start_thread]
      simp [Restores, paused]

theorem represented_apply_iff (consistent : host.pipeline.Consistent)
    (represented : host.Represented) (next : HostOp) :
    (host.apply next).Represented ↔ host.Restores next := by
  cases next with
  | start bind endpoint => exact represented_start_iff consistent represented bind endpoint
  | stop => exact iff_of_true (represented_stop consistent represented) trivial
  | pauseCollectors =>
      exact iff_of_true (represented_pauseCollectors consistent represented) trivial
  | resumeCollectors => exact represented_resumeCollectors_iff consistent represented

end ServiceHost

/-- Over any sequence of calls on a new host the tick thread agrees with the flags and
with `StateName` after each call exactly when each call finds the host in a state it
restores. -/
theorem represented_after_iff (ops : List HostOp) :
    (∀ front back, ops = front ++ back → (ServiceHost.after front).Represented) ↔
      AlongHistory (fun past next => (ServiceHost.after past).Restores next) ops := by
  apply prefixes_iff_alongHistory
  · exact (ServiceHost.represented_iff_flags _).mpr (by simp [ServiceHost.after])
  · intro past next _ _ represented
    rw [ServiceHost.after_snoc]
    exact ServiceHost.represented_apply_iff (ServiceHost.consistent_after past) represented next

/-- A `Start` that cannot bind its endpoint leaves a tick thread in a host that reports
"STOPPED". -/
theorem failed_start_not_represented :
    ¬(ServiceHost.after [.start (fun _ => false) "127.0.0.1:50051"]).Represented ∧
      (ServiceHost.after [.start (fun _ => false) "127.0.0.1:50051"]).stateName =
        "STOPPED" := by
  constructor
  · intro represented
    have flags := represented.flags
    revert flags
    decide
  · rfl

end HWPanel.Service
