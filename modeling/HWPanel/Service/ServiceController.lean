import HWPanel.Library.Run
import HWPanel.Service.ServiceHost

/-!
# The service controller

`ServiceController` of `apps/hwpanel-service/service_controller.cpp`: the control
handler, `FinalizeStart` and `ServiceMain`, over the callbacks the constructor
receives, and their wiring to a `ServiceHost` in `RunService`. Each control is
one step, since the handler holds `state_mutex_` throughout; `ServiceMain` takes
its own steps in between.

The status fields that never vary (service type, accepted controls, exit codes)
are left out.
-/

namespace HWPanel.Service

open HWPanel.Library

inductive ScmState where
  | stopped
  | startPending
  | stopPending
  | running
  | continuePending
  | pausePending
  | paused
  deriving DecidableEq, Repr

/-- The control codes `HandlerThunk` distinguishes. -/
inductive Control where
  | stop
  | preshutdown
  | pause
  | continue_
  | interrogate
  | other (code : Nat)
  deriving DecidableEq, Repr

def Control.isStop : Control → Bool
  | .stop | .preshutdown => true
  | _ => false

inductive ReturnCode where
  | noError
  | callNotImplemented
  deriving DecidableEq, Repr

structure ServiceStatus where
  currentState : ScmState
  waitHint : Nat
  deriving DecidableEq, Repr

/-- One `SetServiceStatus` call, with the world at that moment. -/
structure Report (World : Type) where
  status : ServiceStatus
  world : World
  deriving DecidableEq, Repr

/-- The constructor's callbacks; `none` is an empty `std::function`. `onStart`
depends on what the environment lets the host bind. -/
structure Callbacks (World : Type) where
  onStart : Option (Binding → World → World)
  onStop : Option (World → World)
  onPause : Option (World → World)
  onContinue : Option (World → World)

/-- The controller's fields together with the world its callbacks act on.
`reports` lists every `SetServiceStatus` call so far, oldest first. -/
structure ServiceController (World : Type) where
  world : World
  startDone : Bool := false
  pauseRequested : Bool := false
  stopRequested : Bool := false
  exitEvent : Bool := false
  reports : List (Report World) := []

namespace ServiceController

variable {World : Type}

def reportStateLocked (state : ScmState) (waitHint : Nat)
    (self : ServiceController World) : ServiceController World :=
  { self with reports := self.reports ++ [⟨⟨state, waitHint⟩, self.world⟩] }

/-- `if (handler) handler();` -/
def invoke (handler : Option (World → World)) (self : ServiceController World) :
    ServiceController World :=
  { self with world := (handler.getD id) self.world }

def handlerThunk (callbacks : Callbacks World) (control : Control)
    (self : ServiceController World) : ReturnCode × ServiceController World :=
  match control with
  | .stop | .preshutdown =>
      let self := { self with stopRequested := true }
      let self :=
        if self.startDone then
          (self.reportStateLocked .stopPending 5000).invoke callbacks.onStop
        else self
      (.noError, { self with exitEvent := true })
  | .pause =>
      let self := { self with pauseRequested := true }
      if !self.startDone then (.noError, self)
      else
        (.noError, ((self.reportStateLocked .pausePending 5000).invoke
          callbacks.onPause).reportStateLocked .paused 0)
  | .continue_ =>
      let self := { self with pauseRequested := false }
      if !self.startDone then (.noError, self)
      else
        (.noError, ((self.reportStateLocked .continuePending 5000).invoke
          callbacks.onContinue).reportStateLocked .running 0)
  | .interrogate => (.noError, self)
  | .other _ => (.callNotImplemented, self)

def finalizeStart (callbacks : Callbacks World) (self : ServiceController World) :
    ServiceController World :=
  let self := { self with startDone := true }
  if self.stopRequested then
    (self.reportStateLocked .stopPending 5000).invoke callbacks.onStop
  else if self.pauseRequested then
    ((self.reportStateLocked .pausePending 5000).invoke
      callbacks.onPause).reportStateLocked .paused 0
  else self.reportStateLocked .running 0

end ServiceController

/-- How far `ServiceMainThunk` has come: the next step it takes is to report
START_PENDING (`registered`), to call `on_start_` (`reported`), to return from it
(`starting`), to finalize (`started`), to return from the wait (`waiting`), to
report STOPPED (`released`), or nothing (`returned`). -/
inductive MainPhase where
  | registered
  | reported
  | starting
  | started
  | waiting
  | released
  | returned
  deriving DecidableEq, Repr

structure ServiceProcess (World : Type) where
  controller : ServiceController World
  phase : MainPhase := .registered

/-- The steps of `ServiceMain`, and the delivery of a control. -/
inductive ServiceEvent where
  | reportStartPending
  | callOnStart
  | onStartReturns (bind : Binding)
  | finalizeStart
  | exitWait
  | reportStopped
  | control (control : Control)

namespace ServiceProcess

variable {World : Type}

def step (callbacks : Callbacks World) (process : ServiceProcess World) :
    ServiceEvent → Option (ServiceProcess World)
  | .reportStartPending =>
      if process.phase = .registered then
        some ⟨process.controller.reportStateLocked .startPending 10000, .reported⟩
      else none
  | .callOnStart =>
      if process.phase = .reported then some ⟨process.controller, .starting⟩ else none
  | .onStartReturns bind =>
      if process.phase = .starting then
        some ⟨process.controller.invoke (callbacks.onStart.map (· bind)), .started⟩
      else none
  | .finalizeStart =>
      if process.phase = .started then
        some ⟨process.controller.finalizeStart callbacks, .waiting⟩
      else none
  | .exitWait =>
      -- WaitForSingleObject on the manual-reset exit event.
      if process.phase = .waiting ∧ process.controller.exitEvent = true then
        some ⟨process.controller, .released⟩
      else none
  | .reportStopped =>
      if process.phase = .released then
        some ⟨process.controller.reportStateLocked .stopped 0, .returned⟩
      else none
  | .control control =>
      some ⟨(process.controller.handlerThunk callbacks control).2, process.phase⟩

end ServiceProcess

/-- The callback runs a host has seen; `start` carries what `Start` returned,
which `RunService` only logs. -/
inductive HostCall where
  | start (returned : Bool)
  | stop
  | pause
  | resume
  deriving DecidableEq, Repr

structure HostWorld where
  host : ServiceHost := {}
  calls : List HostCall := []
  deriving DecidableEq, Repr

def runService (endpoint : String) : Callbacks HostWorld where
  onStart := some fun bind world =>
    let result := world.host.start bind endpoint
    ⟨result.2, world.calls ++ [.start result.1]⟩
  onStop := some fun world => ⟨world.host.stop, world.calls ++ [.stop]⟩
  onPause := some fun world => ⟨world.host.pauseCollectors, world.calls ++ [.pause]⟩
  onContinue := some fun world => ⟨world.host.resumeCollectors, world.calls ++ [.resume]⟩

/-- The process once `RegisterServiceCtrlHandlerExW` has succeeded. -/
def ServiceProcess.initial : ServiceProcess HostWorld := ⟨{ world := {} }, .registered⟩

/-- Every service run: the controller over the host, wired as in `RunService`. -/
abbrev serviceRun (endpoint : String) :
    List ServiceEvent → Option (ServiceProcess HostWorld) :=
  run (ServiceProcess.step (runService endpoint)) ServiceProcess.initial

end HWPanel.Service
