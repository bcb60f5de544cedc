import HWPanel.Collectors.Pipeline

/-!
# The service host

`ServiceHost` of `apps/hwpanel-service/service_host.cpp`, the composition root
that binds the gRPC server and owns the collector pipeline, with the endpoint
addresses of `libs/core/src/endpoint.cpp`. Whether gRPC can bind an address is
the environment's choice.
-/

namespace HWPanel.Service

open HWPanel.Collectors

def kDefaultTcpPort : Nat := 50051

def tcpAddress (port : Nat) : String := "127.0.0.1:" ++ toString port

/-- `address.rfind("np:", 0) == 0`. -/
def isNamedPipeAddress (address : String) : Bool :=
  "np:".toList.isPrefixOf address.toList

/-- Which addresses `BuildAndStart` can bind. -/
abbrev Binding := String → Bool

/-- `watching` is the profile manager's directory watch, `server` the address of
the running gRPC server. -/
structure ServiceHost where
  pipeline : CollectorPipeline := {}
  tickCallback : TickCallback := .empty
  watching : Bool := false
  server : Option String := none
  endpoint : String := ""
  running : Bool := false
  paused : Bool := false
  deriving DecidableEq, Repr

namespace ServiceHost

/-- `BuildServer` on the requested endpoint, with the loopback fallback that
`Start` allows for a named pipe. -/
def bindServer (bind : Binding) (endpoint : String) : Option String :=
  if bind endpoint then some endpoint
  else if isNamedPipeAddress endpoint && bind (tcpAddress kDefaultTcpPort) then
    some (tcpAddress kDefaultTcpPort)
  else none

def start (bind : Binding) (endpoint : String) (host : ServiceHost) :
    Bool × ServiceHost :=
  if host.running then (true, host)
  else
    let registered := ((host.pipeline.register .pdh).register .wmi).register .nvml
    -- Collectors, tick thread and watch are set up before the only step that can fail.
    let host := { host with
      tickCallback := .publishToHub
      pipeline := registered.start .publishToHub
      watching := true
      server := bindServer bind endpoint }
    match bindServer bind endpoint with
    | none => (false, host)
    | some actual => (true, { host with endpoint := actual, running := true })

def stop (host : ServiceHost) : ServiceHost :=
  if !host.running then host
  else { host with running := false, pipeline := host.pipeline.stop, watching := false }

def pauseCollectors (host : ServiceHost) : ServiceHost :=
  if host.paused then host
  else { host with paused := true, pipeline := host.pipeline.stop }

def resumeCollectors (host : ServiceHost) : ServiceHost :=
  if !host.paused then host
  else { host with paused := false, pipeline := host.pipeline.start host.tickCallback }

def stateName (host : ServiceHost) : String :=
  if !host.running then "STOPPED"
  else if host.paused then "PAUSED" else "RUNNING"

theorem start_fst (bind : Binding) (endpoint : String) {host : ServiceHost}
    (stopped : host.running = false) :
    (host.start bind endpoint).1 = (bindServer bind endpoint).isSome := by
  unfold start
  cases bound : bindServer bind endpoint <;> simp [stopped]

theorem start_running (bind : Binding) (endpoint : String) {host : ServiceHost}
    (stopped : host.running = false) :
    (host.start bind endpoint).2.running = (bindServer bind endpoint).isSome := by
  unfold start
  cases bound : bindServer bind endpoint <;> simp [stopped]

@[simp] theorem start_paused (bind : Binding) (endpoint : String) (host : ServiceHost) :
    (host.start bind endpoint).2.paused = host.paused := by
  unfold start
  cases bound : bindServer bind endpoint <;> cases host.running <;> simp

theorem start_pipeline (bind : Binding) (endpoint : String) {host : ServiceHost}
    (stopped : host.running = false) :
    (host.start bind endpoint).2.pipeline =
      (((host.pipeline.register .pdh).register .wmi).register .nvml).start
        .publishToHub := by
  unfold start
  cases bound : bindServer bind endpoint <;> simp [stopped]

@[simp] theorem stop_running (host : ServiceHost) : host.stop.running = false := by
  unfold stop
  split
  next stopped => simpa using stopped
  · rfl

@[simp] theorem stop_paused (host : ServiceHost) : host.stop.paused = host.paused := by
  unfold stop
  split <;> rfl

@[simp] theorem stop_pipeline {host : ServiceHost} (running : host.running = true) :
    host.stop.pipeline = host.pipeline.stop := by
  simp [stop, running]

theorem stop_of_stopped {host : ServiceHost} (stopped : host.running = false) :
    host.stop = host := by
  simp [stop, stopped]

@[simp] theorem pauseCollectors_running (host : ServiceHost) :
    host.pauseCollectors.running = host.running := by
  unfold pauseCollectors
  split <;> rfl

@[simp] theorem pauseCollectors_paused (host : ServiceHost) :
    host.pauseCollectors.paused = true := by
  unfold pauseCollectors
  split
  · assumption
  · rfl

@[simp] theorem resumeCollectors_running (host : ServiceHost) :
    host.resumeCollectors.running = host.running := by
  unfold resumeCollectors
  split <;> rfl

@[simp] theorem resumeCollectors_paused (host : ServiceHost) :
    host.resumeCollectors.paused = false := by
  unfold resumeCollectors
  split
  next unpaused => simpa using unpaused
  · rfl

/-- The host as `Start` and the pause handlers leave it while it serves: the
tick thread runs exactly when the collectors are not paused. -/
structure Serving (host : ServiceHost) : Prop where
  running : host.running = true
  consistent : host.pipeline.Consistent
  ticking : host.pipeline.running = !host.paused

theorem Serving.pauseCollectors {host : ServiceHost} (serving : host.Serving) :
    host.pauseCollectors.Serving := by
  unfold ServiceHost.pauseCollectors
  split
  · exact serving
  · exact ⟨serving.running, serving.consistent.stop, by simp⟩

theorem Serving.resumeCollectors {host : ServiceHost} (serving : host.Serving) :
    host.resumeCollectors.Serving := by
  unfold ServiceHost.resumeCollectors
  split
  · exact serving
  · exact ⟨serving.running, serving.consistent.start _, by simp⟩

/-- A successful first `Start` leaves the host serving. -/
theorem serving_start {bind : Binding} {endpoint : String}
    (bound : (bindServer bind endpoint).isSome) :
    (start bind endpoint {}).2.Serving where
  running := by rw [start_running bind endpoint rfl]; exact bound
  consistent := by
    rw [start_pipeline bind endpoint rfl]
    have initial : CollectorPipeline.Consistent {} := rfl
    exact (((initial.register .pdh).register .wmi).register .nvml).start _
  ticking := by
    rw [start_pipeline bind endpoint rfl, start_paused]
    simp

theorem Serving.stateName {host : ServiceHost} (serving : host.Serving) :
    host.stateName = if host.paused then "PAUSED" else "RUNNING" := by
  simp [ServiceHost.stateName, serving.running]

/-- `Stop` of a serving host ends its tick thread. -/
theorem Serving.stop_thread {host : ServiceHost} (serving : host.Serving) :
    host.stop.pipeline.thread = none := by
  have consistent := serving.consistent.stop
  rw [stop_pipeline serving.running]
  rw [CollectorPipeline.Consistent, CollectorPipeline.stop_running] at consistent
  simpa using consistent

end ServiceHost

end HWPanel.Service
