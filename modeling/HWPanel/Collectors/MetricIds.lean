import HWPanel.Collectors.Metrics

/-!
# The metric ids of a sample

Each collector alone decides which ids it reports, and the pipeline concatenates. PDH
and WMI name no id twice; NVML names one once for each device that answers, and shares
two ids with PDH. The ids of a sample are distinct exactly when neither of the two
happens in its tick.
-/

namespace HWPanel.Collectors

open HWPanel.Core

def metricIds (metrics : List MetricSample) : List String := metrics.map (·.metricId)

@[simp] theorem metricIds_cons (metric : MetricSample) (rest : List MetricSample) :
    metricIds (metric :: rest) = metric.metricId :: metricIds rest := rfl

@[simp] theorem metricIds_append (front back : List MetricSample) :
    metricIds (front ++ back) = metricIds front ++ metricIds back := List.map_append

namespace PdhCollector

variable (self : PdhCollector)

/-- A counter of spec `specIndex` has a valid value in this tick. -/
def Reports (reading : PdhReading) (specIndex : Nat) : Prop :=
  self.ready = true ∧ reading.collected = true ∧
    ∃ handle : Nat, self.counters[handle]? = some specIndex ∧
      (reading.value handle).isSome = true

theorem sums_snoc (ready : Bool) (counters : List Nat) (specIndex : Nat)
    (reading : PdhReading) :
    sums ⟨ready, counters ++ [specIndex]⟩ reading =
      addValue reading (sums ⟨ready, counters⟩ reading) (specIndex, counters.length) := by
  simp [sums, List.zipIdx_append]

/-- A sum exists for exactly the specs of which a counter was read. -/
theorem isSome_sums_iff (ready : Bool) (counters : List Nat) (reading : PdhReading)
    (specIndex : Nat) :
    (sums ⟨ready, counters⟩ reading specIndex).isSome = true ↔
      ∃ handle : Nat, counters[handle]? = some specIndex ∧
        (reading.value handle).isSome = true := by
  induction counters using List.reverseRecOn with
  | nil => simp [sums]
  | append_singleton counters last ih =>
      have lookup : ∀ handle, (counters ++ [last])[handle]? = some specIndex ↔
          counters[handle]? = some specIndex ∨ handle = counters.length ∧ last = specIndex := by
        intro handle
        rcases Nat.lt_trichotomy handle counters.length with before | atEnd | beyond
        · rw [List.getElem?_append_left before]
          simp [Nat.ne_of_lt before]
        · simp [atEnd]
        · have outside : (counters ++ [last])[handle]? = none := by
            apply List.getElem?_eq_none
            rw [List.length_append]
            exact beyond
          have unregistered : counters[handle]? = none :=
            List.getElem?_eq_none (Nat.le_of_lt beyond)
          simp [outside, unregistered, Nat.ne_of_gt beyond]
      rw [sums_snoc, addValue]
      cases valueEq : reading.value counters.length with
      | none =>
          refine ih.trans (exists_congr fun handle => ?_)
          rw [lookup]
          constructor
          · intro found
            exact ⟨.inl found.1, found.2⟩
          · rintro ⟨found | ⟨atEnd, _⟩, valid⟩
            · exact ⟨found, valid⟩
            · rw [atEnd, valueEq] at valid
              cases valid
      | some value =>
          by_cases same : specIndex = last
          · subst same
            simp only [Function.update_self, Option.isSome_some, true_iff]
            exact ⟨counters.length, (lookup _).mpr (.inr ⟨rfl, rfl⟩), by rw [valueEq]; rfl⟩
          · simp only [Function.update_of_ne same]
            refine ih.trans (exists_congr fun handle => ?_)
            rw [lookup]
            constructor
            · intro found
              exact ⟨.inl found.1, found.2⟩
            · rintro ⟨found | ⟨_, lastEq⟩, valid⟩
              · exact ⟨found, valid⟩
              · exact absurd lastEq.symm same

/-- The ids of the specs with a sum, in the order of the specs. -/
theorem metricIds_specMetrics (sums : Nat → Option Float) :
    metricIds (specMetrics sums).1 =
      (specs.zipIdx.filter fun entry => (sums entry.2).isSome).map (·.1.metricId) := by
  have accumulate : ∀ (entries : List (CounterSpec × Nat))
      (result : List MetricSample × Option Float),
      metricIds (entries.foldl (addSpec sums) result).1 = metricIds result.1 ++
        (entries.filter fun entry => (sums entry.2).isSome).map (·.1.metricId) := by
    intro entries
    induction entries with
    | nil => simp
    | cons entry rest ih =>
        intro result
        rw [List.foldl_cons, ih]
        cases sumEq : sums entry.2 with
        | none => simp [addSpec, sumEq]
        | some sum => simp [addSpec, sumEq, metricIds]
  exact accumulate specs.zipIdx ([], none)

/-- Every id PDH can report, each once. -/
def ids : List String := specs.map (·.metricId) ++ ["mem.used_mb", "mem.total_mb"]

theorem nodup_ids : ids.Nodup := by decide

theorem metricIds_memoryMetrics (availableMb : Option Float) (totalPhys : Option UInt64) :
    (metricIds (memoryMetrics availableMb totalPhys)).Sublist
      ["mem.used_mb", "mem.total_mb"] := by
  unfold memoryMetrics
  split
  · exact List.Sublist.refl _
  · exact List.nil_sublist _

theorem metricIds_specMetrics_sublist (sums : Nat → Option Float) :
    (metricIds (specMetrics sums).1).Sublist (specs.map (·.metricId)) := by
  have specIds : specs.map (·.metricId) = specs.zipIdx.map (·.1.metricId) := by decide
  rw [metricIds_specMetrics, specIds]
  exact List.filter_sublist.map _

theorem metricIds_collect_sublist (reading : PdhReading) :
    (metricIds (self.collect reading)).Sublist ids := by
  unfold collect
  split
  · exact List.nil_sublist _
  · rw [metricIds_append]
    exact (metricIds_specMetrics_sublist _).append (metricIds_memoryMetrics _ _)

/-- PDH reports the metric of a spec exactly when one of its counters was read. -/
theorem mem_collect_iff (reading : PdhReading) {spec : CounterSpec} {specIndex : Nat}
    (isSpec : (spec, specIndex) ∈ specs.zipIdx) :
    spec.metricId ∈ metricIds (self.collect reading) ↔ self.Reports reading specIndex := by
  have unique : ∀ entry ∈ specs.zipIdx, entry.1.metricId = spec.metricId →
      entry.2 = specIndex := by
    have distinct : ∀ entry ∈ specs.zipIdx, ∀ other ∈ specs.zipIdx,
        entry.1.metricId = other.1.metricId → entry.2 = other.2 := by decide
    intro entry member same
    exact distinct entry member _ isSpec same
  have apart : ∀ entry ∈ specs.zipIdx,
      entry.1.metricId ∉ ["mem.used_mb", "mem.total_mb"] := by decide
  have inSpecs : spec.metricId ∈ metricIds (specMetrics (self.sums reading)).1 ↔
      (self.sums reading specIndex).isSome = true := by
    rw [metricIds_specMetrics, List.mem_map]
    constructor
    · intro found
      obtain ⟨entry, member, same⟩ := found
      obtain ⟨isEntry, summed⟩ := List.mem_filter.mp member
      rw [← unique entry isEntry same]
      exact summed
    · intro summed
      exact ⟨_, List.mem_filter.mpr ⟨isSpec, summed⟩, rfl⟩
  have summedIff := isSome_sums_iff self.ready self.counters reading specIndex
  unfold collect Reports
  cases ready : self.ready with
  | false => simp [metricIds]
  | true =>
      cases collected : reading.collected with
      | false => simp [metricIds]
      | true =>
          have notMemory : spec.metricId ∉ metricIds (memoryMetrics
              (specMetrics (self.sums reading)).2 reading.totalPhys) := by
            intro member
            exact apart _ isSpec ((metricIds_memoryMetrics _ _).subset member)
          simp only [Bool.not_true, Bool.or_self, Bool.false_eq_true, if_false,
            metricIds_append, List.mem_append, notMemory, or_false, true_and]
          exact inSpecs.trans summedIff

end PdhCollector

theorem WmiCollector.metricIds_collect_sublist (self : WmiCollector) (reading : WmiReading) :
    (metricIds (self.collect reading).1).Sublist ["cpu.temp_c"] := by
  cases reading with
  | comFailed => exact List.nil_sublist _
  | connectFailed => exact List.nil_sublist _
  | zones temperatures =>
      simp only [collect]
      split
      · exact List.nil_sublist _
      · exact List.Sublist.refl _

namespace NvmlField

/-- The ids a query reports under. -/
def metricIds : NvmlField → List String
  | .utilization => ["gpu.util_pct"]
  | .memoryInfo => ["gpu.mem_used_mb", "gpu.mem_total_mb"]
  | .temperature => ["gpu.temp_c"]
  | .powerUsage => ["gpu.power_w"]
  | .clockInfo => ["gpu.clock_mhz"]

theorem mem_all (field : NvmlField) : field ∈ all := by
  cases field with
  | utilization => decide
  | memoryInfo => decide
  | temperature => decide
  | powerUsage => decide
  | clockInfo => decide

/-- No id belongs to two queries, and no query names an id twice. -/
theorem count_metricIds {field : NvmlField} {id : String} (named : id ∈ field.metricIds)
    (other : NvmlField) : other.metricIds.count id = if other = field then 1 else 0 := by
  have table : ∀ field ∈ all, ∀ id ∈ field.metricIds, ∀ other ∈ all,
      other.metricIds.count id = if other = field then 1 else 0 := by decide
  exact table field (mem_all field) id named other (mem_all other)

end NvmlField

/-- The device answers the query. -/
def NvmlDevice.answers (device : NvmlDevice) : NvmlField → Bool
  | .utilization => device.utilization.isSome
  | .memoryInfo => device.memoryInfo.isSome
  | .temperature => device.temperature.isSome
  | .powerUsage => device.powerUsage.isSome
  | .clockInfo => device.clockInfo.isSome

namespace NvmlCollector

variable (self : NvmlCollector)

/-- How many devices answer the query in this tick. -/
def devicesAnswering (reading : NvmlReading) (field : NvmlField) : Nat :=
  if self.ready then
    (reading.getD []).countP fun device => device.any (·.answers field)
  else 0

@[simp] theorem metricIds_queryMetrics (device : NvmlDevice) (field : NvmlField) :
    metricIds (queryMetrics device field) =
      if device.answers field then field.metricIds else [] := by
  obtain ⟨utilization, memoryInfo, temperature, powerUsage, clockInfo⟩ := device
  cases field with
  | utilization =>
      cases utilization with
      | none => rfl
      | some gpu => rfl
  | memoryInfo =>
      cases memoryInfo with
      | none => rfl
      | some memory => rfl
  | temperature =>
      cases temperature with
      | none => rfl
      | some temp => rfl
  | powerUsage =>
      cases powerUsage with
      | none => rfl
      | some milliwatts => rfl
  | clockInfo =>
      cases clockInfo with
      | none => rfl
      | some mhz => rfl

theorem count_queryMetrics (device : NvmlDevice) {field : NvmlField} {id : String}
    (named : id ∈ field.metricIds) (other : NvmlField) :
    (metricIds (queryMetrics device other)).count id =
      if other = field then (if device.answers field then 1 else 0) else 0 := by
  rw [metricIds_queryMetrics]
  by_cases same : other = field
  · subst same
    cases device.answers other with
    | false => simp
    | true => simpa using NvmlField.count_metricIds named other
  · cases device.answers other with
    | false => simp [same]
    | true => simpa [same] using NvmlField.count_metricIds named other

theorem count_deviceMetrics (device : NvmlDevice) {field : NvmlField} {id : String}
    (named : id ∈ field.metricIds) :
    (metricIds (deviceMetrics device)).count id = if device.answers field then 1 else 0 := by
  have counts := count_queryMetrics device named
  simp only [deviceMetrics, NvmlField.all, List.flatMap_cons, List.flatMap_nil,
    metricIds_append, List.count_append, counts]
  cases field with
  | utilization => simp [metricIds]
  | memoryInfo => simp [metricIds]
  | temperature => simp [metricIds]
  | powerUsage => simp [metricIds]
  | clockInfo => simp [metricIds]

theorem mem_deviceMetrics {device : NvmlDevice} {id : String}
    (member : id ∈ metricIds (deviceMetrics device)) : ∃ field, id ∈ NvmlField.metricIds field := by
  obtain ⟨metric, inMetrics, rfl⟩ := List.mem_map.mp member
  obtain ⟨field, _, inQuery⟩ := List.mem_flatMap.mp inMetrics
  have named : metric.metricId ∈ metricIds (queryMetrics device field) :=
    List.mem_map_of_mem inQuery
  rw [metricIds_queryMetrics] at named
  split at named
  · exact ⟨field, named⟩
  · cases named

theorem foldl_addDevice (devices : List (Option NvmlDevice)) (out : List MetricSample) :
    devices.foldl addDevice out =
      out ++ devices.flatMap fun device => (device.map deviceMetrics).getD [] := by
  induction devices generalizing out with
  | nil => simp
  | cons device rest ih =>
      rw [List.foldl_cons, ih]
      cases device with
      | none => simp [addDevice]
      | some device => simp [addDevice]

/-- An id of a query is reported once for each device that answers it. -/
theorem count_collect (reading : NvmlReading) {field : NvmlField} {id : String}
    (named : id ∈ field.metricIds) :
    (metricIds (self.collect reading)).count id = self.devicesAnswering reading field := by
  unfold collect devicesAnswering
  cases self.ready with
  | false => simp [metricIds]
  | true =>
      cases reading with
      | none => simp [metricIds]
      | some devices =>
          simp only [Bool.not_true, Bool.false_eq_true, if_false, if_true, Option.getD_some,
            foldl_addDevice, List.nil_append]
          induction devices with
          | nil => rfl
          | cons device rest ih =>
              rw [List.flatMap_cons, metricIds_append, List.count_append, ih,
                List.countP_cons, Nat.add_comm]
              congr 1
              cases device with
              | none => rfl
              | some device => exact count_deviceMetrics device named

theorem mem_collect {reading : NvmlReading} {id : String}
    (member : id ∈ metricIds (self.collect reading)) :
    ∃ field, id ∈ NvmlField.metricIds field := by
  unfold collect at member
  split at member
  · cases member
  · split at member
    · cases member
    · obtain ⟨metric, inMetrics, rfl⟩ := List.mem_map.mp member
      rw [foldl_addDevice, List.nil_append] at inMetrics
      obtain ⟨device, _, inDevice⟩ := List.mem_flatMap.mp inMetrics
      cases device with
      | none => cases inDevice
      | some device => exact mem_deviceMetrics (List.mem_map_of_mem inDevice)

end NvmlCollector

/-! ## One tick -/

/-- PDH reports the metric of a spec in this tick. -/
def PdhCollector.ReportsIn (self : PdhCollector) (tick : Tick) (specIndex : Nat) : Prop :=
  ∃ reading, tick.pdh = some reading ∧ self.Reports reading specIndex

/-- How many NVML devices answer the query in this tick. -/
def NvmlCollector.devicesAnsweringIn (self : NvmlCollector) (tick : Tick)
    (field : NvmlField) : Nat :=
  match tick.nvml with
  | none => 0
  | some reading => self.devicesAnswering reading field

/-- No metric has two sources in this tick: every query is answered by one device at
most, and those PDH has a counter for by none in a tick in which PDH has read one. Specs
5 and 6 are `gpu.util_pct` and `gpu.mem_used_mb`. -/
structure SingleSourced (pdh : PdhCollector) (nvml : NvmlCollector) (tick : Tick) : Prop where
  oneDevice : ∀ field, nvml.devicesAnsweringIn tick field ≤ 1
  utilization : pdh.ReportsIn tick 5 → nvml.devicesAnsweringIn tick .utilization = 0
  memory : pdh.ReportsIn tick 6 → nvml.devicesAnsweringIn tick .memoryInfo = 0

theorem metricIds_pdh_sublist (pdh : PdhCollector) (tick : Tick) :
    (metricIds ((ICollector.pdh pdh).collect tick).1).Sublist PdhCollector.ids := by
  unfold ICollector.collect
  cases tick.pdh with
  | none => exact List.nil_sublist _
  | some reading => exact pdh.metricIds_collect_sublist reading

theorem mem_pdh_iff (pdh : PdhCollector) (tick : Tick) {spec : CounterSpec} {specIndex : Nat}
    (isSpec : (spec, specIndex) ∈ specs.zipIdx) :
    spec.metricId ∈ metricIds ((ICollector.pdh pdh).collect tick).1 ↔
      pdh.ReportsIn tick specIndex := by
  unfold ICollector.collect PdhCollector.ReportsIn
  cases tick.pdh with
  | none => simp [metricIds]
  | some reading => simpa using pdh.mem_collect_iff reading isSpec

theorem metricIds_wmi_sublist (wmi : WmiCollector) (tick : Tick) :
    (metricIds ((ICollector.wmi wmi).collect tick).1).Sublist ["cpu.temp_c"] := by
  unfold ICollector.collect
  cases tick.wmi with
  | none => exact List.nil_sublist _
  | some reading => exact wmi.metricIds_collect_sublist reading

theorem count_nvml (nvml : NvmlCollector) (tick : Tick) {field : NvmlField} {id : String}
    (named : id ∈ field.metricIds) :
    (metricIds ((ICollector.nvml nvml).collect tick).1).count id =
      nvml.devicesAnsweringIn tick field := by
  unfold ICollector.collect NvmlCollector.devicesAnsweringIn
  cases tick.nvml with
  | none => rfl
  | some reading => exact nvml.count_collect reading named

theorem mem_nvml {nvml : NvmlCollector} {tick : Tick} {id : String}
    (member : id ∈ metricIds ((ICollector.nvml nvml).collect tick).1) :
    ∃ field, id ∈ NvmlField.metricIds field := by
  unfold ICollector.collect at member
  cases reading : tick.nvml with
  | none =>
      rw [reading] at member
      cases member
  | some reading' =>
      rw [reading] at member
      exact nvml.mem_collect member

/-- WMI's id belongs to neither of the others. -/
theorem cpu_temp_apart :
    "cpu.temp_c" ∉ PdhCollector.ids ∧ ∀ field, "cpu.temp_c" ∉ NvmlField.metricIds field := by
  constructor
  · decide
  · intro field
    have table : ∀ field ∈ NvmlField.all, "cpu.temp_c" ∉ NvmlField.metricIds field := by
      decide
    exact table field field.mem_all

/-- The two queries whose ids are ids of PDH as well. -/
theorem shared_ids {field : NvmlField} {id : String} (named : id ∈ field.metricIds)
    (inPdh : id ∈ PdhCollector.ids) :
    field = .utilization ∧ id = "gpu.util_pct" ∨ field = .memoryInfo ∧ id = "gpu.mem_used_mb" := by
  have table : ∀ field ∈ NvmlField.all, ∀ id ∈ field.metricIds, id ∈ PdhCollector.ids →
      field = .utilization ∧ id = "gpu.util_pct" ∨
        field = .memoryInfo ∧ id = "gpu.mem_used_mb" := by
    decide
  exact table field field.mem_all id named inPdh

section Tick

variable (pdh : PdhCollector) (wmi : WmiCollector) (nvml : NvmlCollector) (tick : Tick)

/-- The metrics of the tick, by collector. -/
def tickMetrics : List MetricSample :=
  ((ICollector.pdh pdh).collect tick).1 ++
    (if wmi.disabled then [] else ((ICollector.wmi wmi).collect tick).1) ++
    ((ICollector.nvml nvml).collect tick).1

@[simp] theorem collect_of_unavailable_pdh (unavailable : pdh.ready = false) :
    ((ICollector.pdh pdh).collect tick).1 = [] := by
  unfold ICollector.collect
  cases tick.pdh with
  | none => rfl
  | some reading => simp [PdhCollector.collect, unavailable]

@[simp] theorem collect_of_unavailable_nvml (unavailable : nvml.ready = false) :
    ((ICollector.nvml nvml).collect tick).1 = [] := by
  unfold ICollector.collect
  cases tick.nvml with
  | none => rfl
  | some reading => simp [NvmlCollector.collect, unavailable]

/-- The WMI collector after the tick: only an available one is called. -/
def WmiCollector.afterTick : WmiCollector :=
  if wmi.disabled then wmi
  else
    match tick.wmi with
    | none => wmi
    | some reading => (wmi.collect reading).2

/-- The pipeline concatenates, and keeps its collectors. -/
theorem loopTick_builtIn :
    loopTick (builtInCollectors pdh wmi nvml) tick =
      (⟨tick.nowMs, tickMetrics pdh wmi nvml tick⟩,
        builtInCollectors pdh (wmi.afterTick tick) nvml) := by
  have pdhKept : ((ICollector.pdh pdh).collect tick).2 = .pdh pdh := by
    unfold ICollector.collect
    cases tick.pdh with
    | none => rfl
    | some reading => rfl
  have nvmlKept : ((ICollector.nvml nvml).collect tick).2 = .nvml nvml := by
    unfold ICollector.collect
    cases tick.nvml with
    | none => rfl
    | some reading => rfl
  have pdhPoll : ∀ result, poll tick result (.pdh pdh) =
      (result.1 ++ ((ICollector.pdh pdh).collect tick).1, result.2 ++ [.pdh pdh]) := by
    intro result
    cases ready : pdh.ready with
    | false =>
        simp [poll, ICollector.available, ready, collect_of_unavailable_pdh pdh tick ready]
    | true => simp [poll, ICollector.available, ready, pdhKept]
  have nvmlPoll : ∀ result, poll tick result (.nvml nvml) =
      (result.1 ++ ((ICollector.nvml nvml).collect tick).1, result.2 ++ [.nvml nvml]) := by
    intro result
    cases ready : nvml.ready with
    | false =>
        simp [poll, ICollector.available, ready, collect_of_unavailable_nvml nvml tick ready]
    | true => simp [poll, ICollector.available, ready, nvmlKept]
  cases disabled : wmi.disabled with
  | true =>
      have wmiPoll : ∀ result, poll tick result (.wmi wmi) =
          (result.1, result.2 ++ [.wmi wmi]) := by
        intro result
        simp [poll, ICollector.available, disabled]
      simp [loopTick, builtInCollectors, pdhPoll, wmiPoll, nvmlPoll, tickMetrics, disabled,
        WmiCollector.afterTick]
  | false =>
      have wmiKept : ((ICollector.wmi wmi).collect tick).2 = .wmi (wmi.afterTick tick) := by
        simp only [ICollector.collect, WmiCollector.afterTick, disabled]
        cases tick.wmi with
        | none => rfl
        | some reading => rfl
      have wmiPoll : ∀ result, poll tick result (.wmi wmi) =
          (result.1 ++ ((ICollector.wmi wmi).collect tick).1,
            result.2 ++ [.wmi (wmi.afterTick tick)]) := by
        intro result
        simp [poll, ICollector.available, disabled, wmiKept]
      simp [loopTick, builtInCollectors, pdhPoll, wmiPoll, nvmlPoll, tickMetrics, disabled]

theorem metricIds_wmi_part_sublist :
    (metricIds (if wmi.disabled then [] else ((ICollector.wmi wmi).collect tick).1)).Sublist
      ["cpu.temp_c"] := by
  split
  · exact List.nil_sublist _
  · exact metricIds_wmi_sublist wmi tick

/-- The ids of a tick are distinct exactly when no metric has two sources. -/
theorem nodup_tickMetrics_iff :
    (metricIds (tickMetrics pdh wmi nvml tick)).Nodup ↔ SingleSourced pdh nvml tick := by
  have pdhIds := metricIds_pdh_sublist pdh tick
  have wmiIds := metricIds_wmi_part_sublist wmi tick
  have utilSpec : (⟨"gpu.util_pct", "percent", 1.0, true⟩, 5) ∈ specs.zipIdx := by
    simp [specs]
  have memSpec : (⟨"gpu.mem_used_mb", "mb", 1.0 / (1024.0 * 1024.0), true⟩, 6) ∈
      specs.zipIdx := by
    simp [specs]
  have utilReports := mem_pdh_iff pdh tick utilSpec
  have memReports := mem_pdh_iff pdh tick memSpec
  have utilCount : (metricIds ((ICollector.nvml nvml).collect tick).1).count "gpu.util_pct" =
      nvml.devicesAnsweringIn tick .utilization := count_nvml nvml tick (by decide)
  have memCount : (metricIds ((ICollector.nvml nvml).collect tick).1).count "gpu.mem_used_mb" =
      nvml.devicesAnsweringIn tick .memoryInfo := count_nvml nvml tick (by decide)
  simp only [tickMetrics, metricIds_append]
  constructor
  · intro nodup
    obtain ⟨_, nvmlNodup, apart⟩ := List.nodup_append.mp nodup
    have absent : ∀ id ∈ metricIds ((ICollector.pdh pdh).collect tick).1,
        (metricIds ((ICollector.nvml nvml).collect tick).1).count id = 0 := by
      intro id inPdh
      apply List.count_eq_zero_of_not_mem
      intro inNvml
      exact apart id (List.mem_append_left _ inPdh) id inNvml rfl
    refine ⟨?_, ?_, ?_⟩
    · intro field
      have atMostOne : ∀ id ∈ field.metricIds, nvml.devicesAnsweringIn tick field ≤ 1 := by
        intro id named
        rw [← count_nvml nvml tick named]
        exact List.nodup_iff_count_le_one.mp nvmlNodup id
      cases field with
      | utilization => exact atMostOne _ List.mem_cons_self
      | memoryInfo => exact atMostOne _ List.mem_cons_self
      | temperature => exact atMostOne _ List.mem_cons_self
      | powerUsage => exact atMostOne _ List.mem_cons_self
      | clockInfo => exact atMostOne _ List.mem_cons_self
    · intro reports
      rw [← utilCount]
      exact absent _ (utilReports.mpr reports)
    · intro reports
      rw [← memCount]
      exact absent _ (memReports.mpr reports)
  · intro single
    refine List.nodup_append.mpr ⟨List.nodup_append.mpr
      ⟨PdhCollector.nodup_ids.sublist pdhIds, (List.nodup_singleton _).sublist wmiIds, ?_⟩, ?_, ?_⟩
    · intro id inPdh other inWmi same
      rw [List.mem_singleton.mp (wmiIds.subset inWmi)] at same
      rw [same] at inPdh
      exact cpu_temp_apart.1 (pdhIds.subset inPdh)
    · rw [List.nodup_iff_count_le_one]
      intro id
      by_cases inNvml : id ∈ metricIds ((ICollector.nvml nvml).collect tick).1
      · obtain ⟨field, named⟩ := mem_nvml inNvml
        rw [count_nvml nvml tick named]
        exact single.oneDevice field
      · rw [List.count_eq_zero_of_not_mem inNvml]
        exact Nat.zero_le 1
    · intro id inOthers other inNvml same
      subst same
      obtain ⟨field, named⟩ := mem_nvml inNvml
      have positive := List.count_pos_iff.mpr inNvml
      rw [count_nvml nvml tick named] at positive
      rcases List.mem_append.mp inOthers with inPdh | inWmi
      · rcases shared_ids named (pdhIds.subset inPdh) with ⟨rfl, rfl⟩ | ⟨rfl, rfl⟩
        · rw [single.utilization (utilReports.mp inPdh)] at positive
          exact absurd positive (Nat.lt_irrefl 0)
        · rw [single.memory (memReports.mp inPdh)] at positive
          exact absurd positive (Nat.lt_irrefl 0)
      · rw [List.mem_singleton.mp (wmiIds.subset inWmi)] at named
        exact cpu_temp_apart.2 field named

end Tick

/-- Every emitted sample has distinct ids exactly when in every tick no metric has two
sources, whatever WMI does. -/
theorem nodup_emitted_iff (pdh : PdhCollector) (wmi : WmiCollector) (nvml : NvmlCollector)
    (ticks : List Tick) :
    (∀ sample ∈ emitted (builtInCollectors pdh wmi nvml) ticks,
        (metricIds sample.metrics).Nodup) ↔
      ∀ tick ∈ ticks, SingleSourced pdh nvml tick := by
  induction ticks generalizing wmi with
  | nil => simp [emitted]
  | cons tick rest ih =>
      simp only [emitted, loopTick_builtIn, List.forall_mem_cons, ih (wmi.afterTick tick),
        nodup_tickMetrics_iff pdh wmi nvml tick]

end HWPanel.Collectors
