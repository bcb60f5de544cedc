import Mathlib.Data.List.Basic

/-!
# The collector pipeline

`CollectorPipeline` of `plugins/collectors/pipeline.cpp`: the registered
collectors and the tick thread with its own `running_` flag.
-/

namespace HWPanel.Collectors

/-- The collectors of `plugins/collectors/factory.cpp`. -/
inductive Collector where
  | pdh
  | wmi
  | nvml
  deriving DecidableEq, Repr

/-- What the tick thread does with a sample. `empty` is a default-constructed
`std::function`, which `Loop` skips. -/
inductive TickCallback where
  | empty
  | publishToHub
  deriving DecidableEq, Repr

/-- `thread` is the callback of the executing `Loop`, `none` when no tick thread
exists or it has been joined. -/
structure CollectorPipeline where
  collectors : List Collector := []
  running : Bool := false
  thread : Option TickCallback := none
  deriving DecidableEq, Repr

namespace CollectorPipeline

def register (pipeline : CollectorPipeline) (collector : Collector) :
    CollectorPipeline :=
  { pipeline with collectors := pipeline.collectors ++ [collector] }

def start (pipeline : CollectorPipeline) (callback : TickCallback) :
    CollectorPipeline :=
  if pipeline.running then pipeline
  else { pipeline with running := true, thread := some callback }

/-- `Loop` ends once `running_` is cleared, so the join returns. -/
def stop (pipeline : CollectorPipeline) : CollectorPipeline :=
  if !pipeline.running then pipeline
  else { pipeline with running := false, thread := none }

/-- The collectors that one iteration of `Loop` asks, in order. -/
def polled (pipeline : CollectorPipeline) : List Collector :=
  match pipeline.thread with
  | none => []
  | some _ => pipeline.collectors

/-- The tick thread executes exactly while `running_` is set. -/
def Consistent (pipeline : CollectorPipeline) : Prop :=
  pipeline.thread.isSome = pipeline.running

theorem Consistent.register {pipeline : CollectorPipeline}
    (consistent : pipeline.Consistent) (collector : Collector) :
    (pipeline.register collector).Consistent := consistent

theorem Consistent.start {pipeline : CollectorPipeline}
    (consistent : pipeline.Consistent) (callback : TickCallback) :
    (pipeline.start callback).Consistent := by
  unfold CollectorPipeline.start
  split
  · exact consistent
  · rfl

theorem Consistent.stop {pipeline : CollectorPipeline}
    (consistent : pipeline.Consistent) : pipeline.stop.Consistent := by
  unfold CollectorPipeline.stop
  split
  · exact consistent
  · rfl

@[simp] theorem start_running (pipeline : CollectorPipeline) (callback : TickCallback) :
    (pipeline.start callback).running = true := by
  unfold start
  split
  · assumption
  · rfl

@[simp] theorem stop_running (pipeline : CollectorPipeline) :
    pipeline.stop.running = false := by
  unfold stop
  split
  next stopped => simpa using stopped
  · rfl

theorem Consistent.start_thread {pipeline : CollectorPipeline}
    (consistent : pipeline.Consistent) (callback : TickCallback) :
    (pipeline.start callback).thread.isSome = true := by
  rw [consistent.start callback, start_running]

theorem Consistent.stop_thread {pipeline : CollectorPipeline}
    (consistent : pipeline.Consistent) : pipeline.stop.thread.isSome = false := by
  rw [consistent.stop, stop_running]

@[simp] theorem start_collectors (pipeline : CollectorPipeline) (callback : TickCallback) :
    (pipeline.start callback).collectors = pipeline.collectors := by
  unfold start
  split
  · rfl
  · rfl

end CollectorPipeline

end HWPanel.Collectors
