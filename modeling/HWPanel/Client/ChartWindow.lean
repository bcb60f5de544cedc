import HWPanel.Client.TelemetryStore
import HWPanel.Collectors.MetricIds
import HWPanel.Service.StreamDelivery

/-!
# One point for each tick

From the ticks of the pipeline to the chart series of the client. `HandleSample`
appends whatever occurs in a sample, so a series has one point for each tick exactly as
long as no sample names a metric twice, which the three collectors decide in each tick.
-/

namespace HWPanel.Client

open HWPanel.Core HWPanel.Collectors HWPanel.Service

theorem Series.length_taken {series : Series} {id : String}
    (single : ∀ other, series.takes other = (other == id)) (metrics : List MetricSample) :
    (series.taken metrics).length = (metricIds metrics).count id := by
  induction metrics with
  | nil => rfl
  | cons metric rest ih =>
      rw [Series.taken_cons, List.length_append, ih, metricIds_cons, List.count_cons,
        single, Nat.add_comm]
      congr 1
      split
      · rfl
      · rfl

/-- A sample with distinct ids appends one point at most to each series. -/
theorem Series.length_points_le (series : Series) {metrics : List MetricSample}
    (nodup : (metricIds metrics).Nodup) : (series.points metrics).length ≤ 1 := by
  have atMostOne := fun id => List.nodup_iff_count_le_one.mp nodup id
  cases series with
  | cpuUsage => exact (length_taken (fun _ => rfl) metrics).trans_le (atMostOne _)
  | gpuUsage => exact (length_taken (fun _ => rfl) metrics).trans_le (atMostOne _)
  | memUsedMb => exact (length_taken (fun _ => rfl) metrics).trans_le (atMostOne _)
  | cpuTempC => exact (length_taken (fun _ => rfl) metrics).trans_le (atMostOne _)
  | gpuTempC => exact (length_taken (fun _ => rfl) metrics).trans_le (atMostOne _)
  | diskIoBps =>
      unfold points
      cases diskIoBps.taken metrics with
      | nil => exact Nat.zero_le 1
      | cons first rest => exact Nat.le_refl 1

/-- The point of a sample in a series, `none` when the sample does not carry it. -/
def Series.pointOf (series : Series) (sample : TelemetrySample) : Option Float :=
  (series.points sample.metrics).head?

theorem Series.points_eq_pointOf (series : Series) {sample : TelemetrySample}
    (nodup : (metricIds sample.metrics).Nodup) :
    series.points sample.metrics = (series.pointOf sample).toList := by
  have atMostOne := series.length_points_le nodup
  unfold pointOf
  cases pointsEq : series.points sample.metrics with
  | nil => rfl
  | cons first rest =>
      rw [pointsEq] at atMostOne
      cases rest with
      | nil => rfl
      | cons second later => simp at atMostOne

theorem map_some_flatMap_toList {samples : List TelemetrySample} {series : Series}
    (carried : ∀ sample ∈ samples, (series.pointOf sample).isSome = true) :
    (samples.flatMap fun sample => (series.pointOf sample).toList).map some =
      samples.map series.pointOf := by
  induction samples with
  | nil => rfl
  | cons sample rest ih =>
      obtain ⟨point, found⟩ := Option.isSome_iff_exists.mp (carried sample List.mem_cons_self)
      rw [List.flatMap_cons, List.map_append, List.map_cons,
        ih fun other member => carried other (List.mem_cons_of_mem _ member), found]
      rfl

/-- What `HandleSample` gets for a sample the service streams without a filter. -/
def delivered (sample : TelemetrySample) : TelemetrySample :=
  receivedSample (toProto sample [])

@[simp] theorem delivered_eq (sample : TelemetrySample) : delivered sample = sample := by
  rw [delivered, receivedSample_toProto]
  simp [filteredSample]

/-- One point for each metric and tick: no sample names a metric twice, `HandleSample`
changes each series once at most, and once 60 samples or more in a row carry a series
it holds the point of each of the last 60. -/
structure OnePointPerTick (samples : List TelemetrySample) : Prop where
  unique : ∀ sample ∈ samples, (metricIds sample.metrics).Nodup
  appends : ∀ sample ∈ samples, ∀ (store : TelemetryStore) (series : Series),
    ((store.handleSample (delivered sample)).series series).changes ≤
      (store.series series).changes + 1
  window : ∀ before carrying, samples = before ++ carrying → 60 ≤ carrying.length →
    ∀ series : Series, (∀ sample ∈ carrying, (series.pointOf sample).isSome = true) →
      (((samples.map delivered).foldl TelemetryStore.handleSample {}).series series).values.map
        some = (carrying.rtake 60).map series.pointOf

theorem onePointPerTick_of_nodup {samples : List TelemetrySample}
    (unique : ∀ sample ∈ samples, (metricIds sample.metrics).Nodup) :
    OnePointPerTick samples where
  unique := unique
  appends := by
    intro sample member store series
    rw [delivered_eq, TelemetryStore.series_handleSample, MetricSeries.changes_appendAll]
    exact Nat.add_le_add_left (series.length_points_le (unique sample member)) _
  window := by
    intro before carrying split enough series carried
    have same : delivered = id := funext delivered_eq
    have points : ∀ part : List TelemetrySample, (∀ sample ∈ part, sample ∈ samples) →
        (part.flatMap fun sample => series.points sample.metrics) =
          part.flatMap fun sample => (series.pointOf sample).toList := by
      intro part within
      apply List.flatMap_congr
      intro sample member
      exact series.points_eq_pointOf (unique sample (within sample member))
    have inCarrying : ∀ sample ∈ carrying, sample ∈ samples := by
      intro sample member
      rw [split]
      exact List.mem_append_right _ member
    have carriedPoints := map_some_flatMap_toList carried
    have length : (carrying.flatMap fun sample =>
        (series.pointOf sample).toList).length = carrying.length := by
      have lengths := congrArg List.length carriedPoints
      simpa only [List.length_map] using lengths
    calc (((samples.map delivered).foldl TelemetryStore.handleSample {}).series
            series).values.map some
      _ = ((samples.flatMap fun sample => series.points sample.metrics).rtake 60).map some := by
          rw [same, List.map_id, TelemetryStore.values_foldl_handleSample]
      _ = ((carrying.flatMap fun sample => (series.pointOf sample).toList).rtake 60).map
            some := by
          rw [split, List.flatMap_append, points carrying inCarrying,
            Library.rtake_append_of_le _ _ (by omega)]
      _ = ((carrying.flatMap fun sample =>
            (series.pointOf sample).toList).map some).rtake 60 := by
          simp only [List.rtake, List.map_drop, List.length_map]
      _ = (carrying.map series.pointOf).rtake 60 := by rw [carriedPoints]
      _ = (carrying.rtake 60).map series.pointOf := by
          simp only [List.rtake, List.map_drop, List.length_map]

/-- Over any ticks of the pipeline with PDH, WMI and NVML registered there is one point
for each metric and tick exactly when in no tick a metric has two sources. -/
theorem one_point_per_tick_iff (opened : Bool) (accepted : Nat → Nat) (nvmlReady : Bool)
    (ticks : List Tick) :
    OnePointPerTick
        (emitted (builtInCollectors (.create opened accepted) {} ⟨nvmlReady⟩) ticks) ↔
      ∀ tick ∈ ticks, SingleSourced (.create opened accepted) ⟨nvmlReady⟩ tick := by
  rw [← nodup_emitted_iff (.create opened accepted) {} ⟨nvmlReady⟩ ticks]
  constructor
  · intro onePoint
    exact onePoint.unique
  · exact onePointPerTick_of_nodup

/-! ## An NVIDIA machine -/

/-- PDH accepts one handle for each path. -/
def nvidiaPdh : PdhCollector := .create true fun _ => 1

/-- One tick with one NVML device: PDH reads the GPU engine counter, and the device its
utilization. -/
def nvidiaTick : Tick where
  nowMs := 1000
  pdh := some
    { collected := true
      value := fun handle => if handle = 5 then some 40.0 else none
      totalPhys := none }
  wmi := none
  nvml := some (some [some
    { utilization := some 41
      memoryInfo := none
      temperature := none
      powerUsage := none
      clockInfo := none }])

/-- With one GPU the sample carries `gpu.util_pct` twice, once from PDH and once from
NVML, and `HandleSample` appends both. -/
theorem gpu_utilization_twice :
    ∃ sample, emitted (builtInCollectors nvidiaPdh {} ⟨true⟩) [nvidiaTick] = [sample] ∧
      metricIds sample.metrics = ["gpu.util_pct", "gpu.util_pct"] ∧
      ((({} : TelemetryStore).handleSample (delivered sample)).series .gpuUsage).changes = 2 ∧
      ¬OnePointPerTick (emitted (builtInCollectors nvidiaPdh {} ⟨true⟩) [nvidiaTick]) := by
  have twice : metricIds (loopTick (builtInCollectors nvidiaPdh {} ⟨true⟩) nvidiaTick).1.metrics =
      ["gpu.util_pct", "gpu.util_pct"] := by decide
  have points : (Series.gpuUsage.points (loopTick (builtInCollectors nvidiaPdh {} ⟨true⟩)
      nvidiaTick).1.metrics).length = 2 := by
    refine (Series.length_taken (fun _ => rfl) _).trans ?_
    rw [twice]
    rfl
  refine ⟨(loopTick (builtInCollectors nvidiaPdh {} ⟨true⟩) nvidiaTick).1, rfl, twice, ?_, ?_⟩
  · rw [delivered_eq, TelemetryStore.series_handleSample, MetricSeries.changes_appendAll,
      points]
    rfl
  · intro onePoint
    have nodup : (metricIds (loopTick (builtInCollectors nvidiaPdh {} ⟨true⟩)
        nvidiaTick).1.metrics).Nodup := onePoint.unique _ (List.mem_singleton.mpr rfl)
    rw [twice] at nodup
    exact absurd nodup (by decide)

end HWPanel.Client
