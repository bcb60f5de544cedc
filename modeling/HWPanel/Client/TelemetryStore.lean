import HWPanel.Core.Bus
import HWPanel.Library.Circular

/-!
# The client's chart series

`TelemetryStore` of `apps/hwpanel-client/backend/telemetry_store.cpp` routes the metrics
of a sample into six series of 60 points. `points` says which values one sample
appends to a series, whatever metrics it carries.
-/

namespace HWPanel.Client

open HWPanel.Core

/-- `changes` counts the `valuesChanged` signals. -/
structure MetricSeries where
  id : String
  unit : String
  capacity : Nat
  values : List Float := []
  latest : Float := 0.0
  changes : Nat := 0

namespace MetricSeries

def append (series : MetricSeries) (value : Float) : MetricSeries :=
  let values := if series.capacity ≤ series.values.length then series.values.tail
    else series.values
  { series with
    values := values ++ [value]
    latest := value
    changes := series.changes + 1 }

def appendAll (series : MetricSeries) (values : List Float) : MetricSeries :=
  values.foldl append series

@[simp] theorem appendAll_nil (series : MetricSeries) : series.appendAll [] = series := rfl

@[simp] theorem appendAll_append (series : MetricSeries) (front back : List Float) :
    series.appendAll (front ++ back) = (series.appendAll front).appendAll back :=
  List.foldl_append

@[simp] theorem changes_appendAll (series : MetricSeries) (values : List Float) :
    (series.appendAll values).changes = series.changes + values.length := by
  induction values generalizing series with
  | nil => rfl
  | cons value rest ih =>
      rw [appendAll, List.foldl_cons]
      refine (ih (series.append value)).trans ?_
      rw [append, List.length_cons, Nat.add_assoc, Nat.add_comm 1]

/-- A series holds the newest of the values appended to it. -/
theorem values_appendAll (series : MetricSeries) (positive : 0 < series.capacity)
    (earlier values : List Float) (window : series.values = earlier.rtake series.capacity) :
    (series.appendAll values).values = (earlier ++ values).rtake series.capacity := by
  induction values generalizing series earlier with
  | nil => simpa using window
  | cons value rest ih =>
      have appended : (series.append value).values =
          (earlier ++ [value]).rtake series.capacity := by
        rw [Library.rtake_append_singleton earlier value positive, append, window]
        simp only
        congr 1
        split
        next full =>
          rw [Library.rtake_length] at full
          exact Library.tail_rtake earlier (Nat.le_trans full (Nat.min_le_right _ _))
        next room =>
          rw [Library.rtake_length] at room
          simp only [List.rtake]
          congr 1
          omega
      have later := ih (series.append value) positive (earlier ++ [value]) appended
      rw [List.append_assoc, List.singleton_append] at later
      exact later

end MetricSeries

structure TelemetryStore where
  cpuUsage : MetricSeries := { id := "cpu.usage_pct", unit := "%", capacity := 60 }
  gpuUsage : MetricSeries := { id := "gpu.util_pct", unit := "%", capacity := 60 }
  memUsedMb : MetricSeries := { id := "mem.used_mb", unit := "MB", capacity := 60 }
  diskIoBps : MetricSeries := { id := "disk.io_bps", unit := "B/s", capacity := 60 }
  cpuTempC : MetricSeries := { id := "cpu.temp_c", unit := "°C", capacity := 60 }
  gpuTempC : MetricSeries := { id := "gpu.temp_c", unit := "°C", capacity := 60 }

namespace TelemetryStore

/-- The loop over the metrics of a sample; `diskIo` is `none` while `have_disk` is
false. -/
structure Routing where
  store : TelemetryStore
  diskIo : Option Float := none

/-- The if-chain for one metric. -/
def route (self : Routing) (metric : MetricSample) : Routing :=
  if metric.metricId = "cpu.usage_pct" then
    { self with store := { self.store with
        cpuUsage := self.store.cpuUsage.append metric.value } }
  else if metric.metricId = "gpu.util_pct" then
    { self with store := { self.store with
        gpuUsage := self.store.gpuUsage.append metric.value } }
  else if metric.metricId = "mem.used_mb" then
    { self with store := { self.store with
        memUsedMb := self.store.memUsedMb.append metric.value } }
  else if metric.metricId = "cpu.temp_c" then
    { self with store := { self.store with
        cpuTempC := self.store.cpuTempC.append metric.value } }
  else if metric.metricId = "gpu.temp_c" then
    { self with store := { self.store with
        gpuTempC := self.store.gpuTempC.append metric.value } }
  else if metric.metricId = "disk.read_bps" ∨ metric.metricId = "disk.write_bps" then
    { self with diskIo := some (self.diskIo.getD 0.0 + metric.value) }
  else self

def handleSample (self : TelemetryStore) (sample : TelemetrySample) : TelemetryStore :=
  let routed := sample.metrics.foldl route { store := self }
  match routed.diskIo with
  | none => routed.store
  | some diskIo =>
      { routed.store with diskIoBps := routed.store.diskIoBps.append diskIo }

end TelemetryStore

inductive Series where
  | cpuUsage
  | gpuUsage
  | memUsedMb
  | diskIoBps
  | cpuTempC
  | gpuTempC
  deriving DecidableEq

def TelemetryStore.series (self : TelemetryStore) : Series → MetricSeries
  | .cpuUsage => self.cpuUsage
  | .gpuUsage => self.gpuUsage
  | .memUsedMb => self.memUsedMb
  | .diskIoBps => self.diskIoBps
  | .cpuTempC => self.cpuTempC
  | .gpuTempC => self.gpuTempC

/-- The metrics that go into a series. -/
def Series.takes : Series → String → Bool
  | .cpuUsage, id => id == "cpu.usage_pct"
  | .gpuUsage, id => id == "gpu.util_pct"
  | .memUsedMb, id => id == "mem.used_mb"
  | .diskIoBps, id => id == "disk.read_bps" || id == "disk.write_bps"
  | .cpuTempC, id => id == "cpu.temp_c"
  | .gpuTempC, id => id == "gpu.temp_c"

/-- The values of the metrics that go into a series. -/
def Series.taken (series : Series) (metrics : List MetricSample) : List Float :=
  (metrics.filter fun metric => series.takes metric.metricId).map (·.value)

/-- The points that a sample appends to a series: each value taken, but the sum of the
two disk metrics. -/
def Series.points (series : Series) (metrics : List MetricSample) : List Float :=
  match series, series.taken metrics with
  | .diskIoBps, [] => []
  | .diskIoBps, first :: rest => [(first :: rest).foldl (· + ·) 0.0]
  | _, values => values

theorem Series.taken_cons (series : Series) (metric : MetricSample) (rest : List MetricSample) :
    series.taken (metric :: rest) =
      (if series.takes metric.metricId then [metric.value] else []) ++ series.taken rest := by
  rw [taken, List.filter_cons]
  split
  · rfl
  · rfl

namespace TelemetryStore

/-- One metric goes into the series that takes it, except for the disk's. -/
theorem series_route (routing : Routing) (metric : MetricSample) {series : Series}
    (notDisk : series ≠ .diskIoBps) :
    (route routing metric).store.series series =
      (routing.store.series series).appendAll
        (if series.takes metric.metricId then [metric.value] else []) := by
  cases series with
  | cpuUsage => grind [route, Series.takes, TelemetryStore.series, MetricSeries.appendAll]
  | gpuUsage => grind [route, Series.takes, TelemetryStore.series, MetricSeries.appendAll]
  | memUsedMb => grind [route, Series.takes, TelemetryStore.series, MetricSeries.appendAll]
  | diskIoBps => exact absurd rfl notDisk
  | cpuTempC => grind [route, Series.takes, TelemetryStore.series, MetricSeries.appendAll]
  | gpuTempC => grind [route, Series.takes, TelemetryStore.series, MetricSeries.appendAll]

/-- The disk metrics are only summed up. -/
theorem disk_route (routing : Routing) (metric : MetricSample) :
    (route routing metric).store.diskIoBps = routing.store.diskIoBps ∧
      (route routing metric).diskIo =
        if Series.diskIoBps.takes metric.metricId then
          some (routing.diskIo.getD 0.0 + metric.value)
        else routing.diskIo := by
  constructor
  · grind [route]
  · grind [route, Series.takes]

theorem series_foldl_route (metrics : List MetricSample) (routing : Routing) {series : Series}
    (notDisk : series ≠ .diskIoBps) :
    (metrics.foldl route routing).store.series series =
      (routing.store.series series).appendAll (series.taken metrics) := by
  induction metrics generalizing routing with
  | nil => rfl
  | cons metric rest ih =>
      rw [List.foldl_cons, ih, series_route routing metric notDisk, Series.taken_cons,
        MetricSeries.appendAll_append]

theorem disk_foldl_route (metrics : List MetricSample) (routing : Routing) :
    (metrics.foldl route routing).store.diskIoBps = routing.store.diskIoBps ∧
      (metrics.foldl route routing).diskIo =
        (Series.diskIoBps.taken metrics).foldl
          (fun sum value => some (sum.getD 0.0 + value)) routing.diskIo := by
  induction metrics generalizing routing with
  | nil => exact ⟨rfl, rfl⟩
  | cons metric rest ih =>
      obtain ⟨stored, summed⟩ := ih (route routing metric)
      obtain ⟨kept, added⟩ := disk_route routing metric
      rw [List.foldl_cons]
      refine ⟨stored.trans kept, summed.trans ?_⟩
      rw [added, Series.taken_cons, List.foldl_append]
      split
      · rfl
      · rfl

theorem foldl_some (values : List Float) (sum : Float) :
    values.foldl (fun sum value => some (sum.getD 0.0 + value)) (some sum) =
      some (values.foldl (· + ·) sum) := by
  induction values generalizing sum with
  | nil => rfl
  | cons value rest ih => exact ih (sum + value)

/-- `HandleSample` appends the points of the sample to every series. -/
theorem series_handleSample (self : TelemetryStore) (sample : TelemetrySample)
    (series : Series) :
    (self.handleSample sample).series series =
      (self.series series).appendAll (series.points sample.metrics) := by
  have others : series ≠ .diskIoBps →
      (self.handleSample sample).series series =
        (sample.metrics.foldl route { store := self }).store.series series := by
    intro notDisk
    cases diskIo : (sample.metrics.foldl route { store := self }).diskIo with
    | none => simp only [handleSample, diskIo]
    | some total =>
        simp only [handleSample, diskIo]
        cases series with
        | cpuUsage => rfl
        | gpuUsage => rfl
        | memUsedMb => rfl
        | diskIoBps => exact absurd rfl notDisk
        | cpuTempC => rfl
        | gpuTempC => rfl
  have routed := fun notDisk : series ≠ .diskIoBps =>
    (others notDisk).trans (series_foldl_route sample.metrics { store := self } notDisk)
  cases series with
  | cpuUsage => exact routed (by decide)
  | gpuUsage => exact routed (by decide)
  | memUsedMb => exact routed (by decide)
  | cpuTempC => exact routed (by decide)
  | gpuTempC => exact routed (by decide)
  | diskIoBps =>
      obtain ⟨stored, summed⟩ := disk_foldl_route sample.metrics { store := self }
      unfold handleSample Series.points
      cases takenEq : Series.diskIoBps.taken sample.metrics with
      | nil =>
          rw [takenEq] at summed
          simp only [summed, List.foldl_nil]
          exact stored
      | cons first rest =>
          rw [takenEq, List.foldl_cons] at summed
          have total := summed.trans (foldl_some rest _)
          simp only [total]
          exact congrArg (MetricSeries.append · _) stored

/-- After any samples a series holds the newest of all points. -/
theorem values_foldl_handleSample (samples : List TelemetrySample) (series : Series) :
    ((samples.foldl handleSample {}).series series).values =
      (samples.flatMap fun sample => series.points sample.metrics).rtake 60 := by
  have appended : ∀ (store : TelemetryStore), (samples.foldl handleSample store).series series =
      (store.series series).appendAll
        (samples.flatMap fun sample => series.points sample.metrics) := by
    induction samples with
    | nil =>
        intro store
        rfl
    | cons sample rest ih =>
        intro store
        rw [List.foldl_cons, ih, series_handleSample, List.flatMap_cons,
          MetricSeries.appendAll_append]
  have sixty : ((({} : TelemetryStore).series series)).capacity = 60 := by
    cases series with
    | cpuUsage => rfl
    | gpuUsage => rfl
    | memUsedMb => rfl
    | diskIoBps => rfl
    | cpuTempC => rfl
    | gpuTempC => rfl
  have empty : ((({} : TelemetryStore).series series)).values = [] := by
    cases series with
    | cpuUsage => rfl
    | gpuUsage => rfl
    | memUsedMb => rfl
    | diskIoBps => rfl
    | cpuTempC => rfl
    | gpuTempC => rfl
  have window := MetricSeries.values_appendAll (({} : TelemetryStore).series series)
    (by rw [sixty]; decide) [] (samples.flatMap fun sample => series.points sample.metrics)
    (by simp [empty])
  rw [appended, window, sixty, List.nil_append]

end TelemetryStore

end HWPanel.Client
