import HWPanel.Core.Bus
import HWPanel.Service.HostStates

/-!
# Failed starts

`Start` registers the collectors, starts the tick thread and the file watch before it
binds the endpoint, and its failure exit undoes none of it. The ticks that the thread
completes before `Start` returns go to the history of the hub.
-/

namespace HWPanel.Service

open HWPanel.Collectors HWPanel.Core

/-- One call of `Start`: the endpoint, which addresses can be bound, and the samples
of the ticks completed before it returns. -/
structure StartAttempt where
  bind : Binding
  endpoint : String
  ticks : List TelemetrySample

def StartAttempt.Bindable (attempt : StartAttempt) : Prop :=
  ServiceHost.Bindable attempt.bind attempt.endpoint

/-- The host with the telemetry history of its hub. -/
structure PublishingHost where
  host : ServiceHost := {}
  history : RingBuffer TelemetrySample := .ofCapacity TelemetryHub.kDefaultHistoryCapacity

/-- The history after ticks of a thread: only one that publishes to the hub adds to it. -/
def publishTicks (thread : Option TickCallback) (ticks : List TelemetrySample)
    (history : RingBuffer TelemetrySample) : RingBuffer TelemetrySample :=
  match thread with
  | some .publishToHub => ticks.foldl RingBuffer.push history
  | some .empty => history
  | none => history

namespace PublishingHost

def start (self : PublishingHost) (attempt : StartAttempt) : Bool × PublishingHost :=
  let (started, host) := self.host.start attempt.bind attempt.endpoint
  (started,
    { host, history := publishTicks host.pipeline.thread attempt.ticks self.history })

/-- The host after several calls of `Start`. -/
def startAll (self : PublishingHost) (attempts : List StartAttempt) : PublishingHost :=
  attempts.foldl (fun host attempt => (host.start attempt).2) self

/-- What a failed `Start` must leave as it was. -/
structure Untouched (before after : PublishingHost) : Prop where
  collectors : after.host.pipeline.collectors = before.host.pipeline.collectors
  thread : after.host.pipeline.thread = before.host.pipeline.thread
  watching : after.host.watching = before.host.watching
  history : after.history = before.history

/-- One tick asks each built-in collector once. -/
def PollsEachOnce (self : PublishingHost) : Prop :=
  ∀ collector, self.host.pipeline.polled.count collector = 1

variable {self : PublishingHost}

theorem start_fst (stopped : self.host.running = false) (attempt : StartAttempt) :
    (self.start attempt).1 = true ↔ attempt.Bindable := by
  rw [start, ServiceHost.start_fst _ _ stopped]
  exact ServiceHost.bindServer_isSome_iff _ _

theorem start_running (stopped : self.host.running = false) (attempt : StartAttempt) :
    (self.start attempt).2.host.running = true ↔ attempt.Bindable := by
  rw [start, ServiceHost.start_running _ _ stopped]
  exact ServiceHost.bindServer_isSome_iff _ _

/-- `Start` registers the three collectors once more, whether it succeeds or not. -/
@[simp] theorem start_collectors (stopped : self.host.running = false) (attempt : StartAttempt) :
    (self.start attempt).2.host.pipeline.collectors =
      self.host.pipeline.collectors ++ [.pdh, .wmi, .nvml] := by
  rw [start, ServiceHost.start_pipeline _ _ stopped, CollectorPipeline.start_collectors]
  simp [CollectorPipeline.register]

/-- Each `Start` of a stopped host adds one poll of every built-in collector. -/
theorem count_start (stopped : self.host.running = false) (attempt : StartAttempt)
    (collector : Collector) :
    (self.start attempt).2.host.pipeline.collectors.count collector =
      self.host.pipeline.collectors.count collector + 1 := by
  rw [start_collectors stopped, List.count_append]
  cases collector with
  | pdh => rfl
  | wmi => rfl
  | nvml => rfl

/-- Failed starts accumulate their collectors and leave the host stopped. -/
theorem startAll_failures (stopped : self.host.running = false)
    (failures : List StartAttempt) (unbindable : ∀ failure ∈ failures, ¬failure.Bindable)
    (consistent : self.host.pipeline.Consistent) :
    (self.startAll failures).host.running = false ∧
      (self.startAll failures).host.pipeline.Consistent ∧
      ∀ collector, (self.startAll failures).host.pipeline.collectors.count collector =
        self.host.pipeline.collectors.count collector + failures.length := by
  induction failures generalizing self with
  | nil => exact ⟨stopped, consistent, fun _ => rfl⟩
  | cons failure rest ih =>
      have stillStopped : (self.start failure).2.host.running = false := by
        rw [Bool.eq_false_iff]
        intro running
        exact unbindable failure List.mem_cons_self ((start_running stopped failure).mp running)
      have stillConsistent : (self.start failure).2.host.pipeline.Consistent :=
        ServiceHost.consistent_start consistent _ _
      obtain ⟨finallyStopped, finallyConsistent, counts⟩ := ih stillStopped
        (fun other member => unbindable other (List.mem_cons_of_mem _ member)) stillConsistent
      refine ⟨finallyStopped, finallyConsistent, ?_⟩
      intro collector
      calc ((self.start failure).2.startAll rest).host.pipeline.collectors.count collector
        _ = (self.start failure).2.host.pipeline.collectors.count collector + rest.length :=
            counts collector
        _ = self.host.pipeline.collectors.count collector + (rest.length + 1) := by
            rw [count_start stopped, Nat.add_assoc, Nat.add_comm 1]

/-- A successful `Start` after failed ones polls every collector once for each. -/
theorem polled_after_failures (failures : List StartAttempt)
    (unbindable : ∀ failure ∈ failures, ¬failure.Bindable) (last : StartAttempt)
    (history : RingBuffer TelemetrySample) (collector : Collector) :
    ((startAll { history } failures).start last).2.host.pipeline.polled.count collector =
      failures.length + 1 := by
  have fresh : ({ history } : PublishingHost).host.running = false := rfl
  obtain ⟨stopped, consistent, counts⟩ := startAll_failures fresh failures unbindable rfl
  have ticking : ((startAll { history } failures).start last).2.host.pipeline.thread.isSome =
      true :=
    ServiceHost.start_thread consistent stopped _ _
  obtain ⟨callback, threadEq⟩ := Option.isSome_iff_exists.mp ticking
  rw [CollectorPipeline.polled, threadEq]
  exact (count_start stopped last collector).trans
    (congrArg (· + 1) ((counts collector).trans (Nat.zero_add _)))

end PublishingHost

/-- `Start` of a stopped host leaves no trace on failure exactly when it does not fail,
and after failed starts a successful one polls each collector once exactly when there
were none. -/
theorem start_leaves_no_trace_iff (before : PublishingHost)
    (stopped : before.host.running = false) (attempt : StartAttempt)
    (failures : List StartAttempt) (unbindable : ∀ failure ∈ failures, ¬failure.Bindable)
    (last : StartAttempt) (bindable : last.Bindable) (history : RingBuffer TelemetrySample) :
    (((before.start attempt).1 = false → before.Untouched (before.start attempt).2) ↔
        attempt.Bindable) ∧
      ((((PublishingHost.startAll { history } failures).start last).1 = true ∧
          ((PublishingHost.startAll { history } failures).start last).2.PollsEachOnce) ↔
        failures = []) := by
  constructor
  · constructor
    · intro untouched
      apply (PublishingHost.start_fst stopped attempt).mp
      rw [← Bool.not_eq_false]
      intro failed
      -- The collectors are registered before the endpoint is bound.
      have collectors := (untouched failed).collectors
      rw [PublishingHost.start_collectors stopped] at collectors
      simp at collectors
    · intro isBindable failed
      have succeeded := (PublishingHost.start_fst stopped attempt).mpr isBindable
      rw [failed] at succeeded
      cases succeeded
  · have polled := PublishingHost.polled_after_failures failures unbindable last history
    constructor
    · intro once
      have count := (polled .pdh).symm.trans (once.2 .pdh)
      exact List.length_eq_zero_iff.mp (Nat.succ.inj count)
    · intro none
      subst none
      exact ⟨(PublishingHost.start_fst rfl last).mpr bindable, polled⟩

def loopbackRefused : StartAttempt :=
  { bind := fun _ => false, endpoint := tcpAddress kDefaultTcpPort, ticks := [⟨1000, []⟩] }

def loopbackBound : StartAttempt :=
  { bind := fun _ => true, endpoint := tcpAddress kDefaultTcpPort, ticks := [] }

theorem not_bindable_loopbackRefused : ¬loopbackRefused.Bindable := by
  intro bindable
  rcases bindable with bound | ⟨_, bound⟩
  · cases bound
  · cases bound

/-- One refused `Start` before a successful one: every collector is polled twice. -/
theorem start_leaves_no_trace_iff_refused :
    ¬((({} : PublishingHost).start loopbackRefused).1 = false →
        ({} : PublishingHost).Untouched (({} : PublishingHost).start loopbackRefused).2) ∧
      ¬((PublishingHost.startAll {} [loopbackRefused]).start loopbackBound).2.PollsEachOnce := by
  have refused : ∀ failure ∈ [loopbackRefused], ¬failure.Bindable := by
    intro failure member
    rw [List.mem_singleton.mp member]
    exact not_bindable_loopbackRefused
  have law := start_leaves_no_trace_iff {} rfl loopbackRefused [loopbackRefused] refused
    loopbackBound (.inl rfl) (.ofCapacity TelemetryHub.kDefaultHistoryCapacity)
  constructor
  · intro untouched
    exact not_bindable_loopbackRefused (law.1.mp untouched)
  · intro once
    have none := law.2.mp ⟨rfl, once⟩
    cases none

/-- A refused `Start` publishes a sample, and its tick thread keeps running although
the host does not. -/
theorem failed_start_leaves_trace :
    ∃ after, ({} : PublishingHost).start loopbackRefused = (false, after) ∧
      after.host.pipeline.collectors = [.pdh, .wmi, .nvml] ∧
      after.host.pipeline.thread = some .publishToHub ∧ after.host.watching = true ∧
      after.history.size = 1 ∧ ¬({} : PublishingHost).Untouched after := by
  refine ⟨_, rfl, rfl, rfl, rfl, rfl, ?_⟩
  intro untouched
  cases untouched.collectors

end HWPanel.Service
