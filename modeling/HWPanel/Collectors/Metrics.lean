import HWPanel.Core.Bus

/-!
# What the collectors report

The three collectors of `plugins/collectors` and one iteration of
`CollectorPipeline::Loop`. What PDH, WMI, NVML and the memory status answer in a tick
is the environment's choice; the collectors keep what they were constructed with and,
for WMI, the failures counted so far.
-/

namespace HWPanel.Collectors

open HWPanel.Core

structure CounterSpec where
  metricId : String
  unit : String
  scale : Float
  /-- Wildcard counters are summed into one metric. -/
  sumInstances : Bool

def specs : List CounterSpec :=
  [⟨"cpu.usage_pct", "percent", 1.0, false⟩,
    ⟨"cpu.freq_mhz", "mhz", 1.0, false⟩,
    ⟨"mem.available_mb", "mb", 1.0, false⟩,
    ⟨"disk.read_bps", "bps", 1.0, false⟩,
    ⟨"disk.write_bps", "bps", 1.0, false⟩,
    ⟨"gpu.util_pct", "percent", 1.0, true⟩,
    ⟨"gpu.mem_used_mb", "mb", 1.0 / (1024.0 * 1024.0), true⟩]

def paths : List String :=
  ["\\Processor(_Total)\\% Processor Time",
    "\\Processor Information(_Total)\\Processor Frequency",
    "\\Memory\\Available MBytes",
    "\\PhysicalDisk(_Total)\\Disk Read Bytes/sec",
    "\\PhysicalDisk(_Total)\\Disk Write Bytes/sec",
    "\\GPU Engine(*engtype_3D)\\Utilization Percentage",
    "\\GPU Adapter Memory(*)\\Dedicated Usage"]

/-- `counters` are the spec indices of the counter handles, in the order added. -/
structure PdhCollector where
  ready : Bool
  counters : List Nat

/-- The answers of one tick: `PdhCollectQueryData`, the valid value of each counter
handle, and the physical memory of `GlobalMemoryStatusEx`. -/
structure PdhReading where
  collected : Bool
  value : Nat → Option Float
  totalPhys : Option UInt64

namespace PdhCollector

/-- `AddCounter`: a wildcard path adds one handle for each instance that PDH accepts,
another path at most one. -/
def addCounter (path : String) (specIndex accepted : Nat) : List Nat :=
  if path.toList.contains '*' then List.replicate accepted specIndex
  else List.replicate (min accepted 1) specIndex

/-- The constructor, when PDH accepts `accepted i` handles for the path of spec `i`. -/
def create (opened : Bool) (accepted : Nat → Nat) : PdhCollector :=
  if !opened then { ready := false, counters := [] }
  else
    let counters := paths.zipIdx.flatMap fun (path, i) => addCounter path i (accepted i)
    { ready := !counters.isEmpty, counters }

variable (self : PdhCollector)

/-- `sums[specIndex] += value`, for a counter with a valid value. -/
def addValue (reading : PdhReading) (sums : Nat → Option Float) (counter : Nat × Nat) :
    Nat → Option Float :=
  match reading.value counter.2 with
  | none => sums
  | some value =>
      Function.update sums counter.1 (some ((sums counter.1).getD 0.0 + value))

/-- The map `sums` of `Collect`. -/
def sums (reading : PdhReading) : Nat → Option Float :=
  self.counters.zipIdx.foldl (addValue reading) fun _ => none

/-- The body of the loop over the specs: the metrics so far, and the memory available
once its spec was seen. -/
def addSpec (sums : Nat → Option Float) (result : List MetricSample × Option Float)
    (entry : CounterSpec × Nat) : List MetricSample × Option Float :=
  match sums entry.2 with
  | none => result
  | some sum =>
      let scaled := sum * entry.1.scale
      (result.1 ++ [⟨entry.1.metricId, scaled, entry.1.unit⟩],
        if entry.1.metricId = "mem.available_mb" then some scaled else result.2)

def specMetrics (sums : Nat → Option Float) : List MetricSample × Option Float :=
  specs.zipIdx.foldl (addSpec sums) ([], none)

/-- The two metrics derived from the available memory. -/
def memoryMetrics (availableMb : Option Float) (totalPhys : Option UInt64) :
    List MetricSample :=
  match availableMb, totalPhys with
  | some availableMb, some totalPhys =>
      let totalMb := totalPhys.toFloat / (1024.0 * 1024.0)
      [⟨"mem.used_mb", totalMb - availableMb, "mb"⟩, ⟨"mem.total_mb", totalMb, "mb"⟩]
  | _, _ => []

def collect (reading : PdhReading) : List MetricSample :=
  if !self.ready || !reading.collected then []
  else
    let (out, availableMb) := specMetrics (self.sums reading)
    out ++ memoryMetrics availableMb reading.totalPhys

end PdhCollector

def kMaxConsecutiveFailures : Nat := 10

structure WmiCollector where
  consecutiveFailures : Nat := 0
  disabled : Bool := false

/-- The answers of one tick: COM or the locator fails, `ConnectServer` fails, or the
`CurrentTemperature` of each active zone, `none` when it cannot be read as `VT_I4`. A
failed query has no zones. -/
inductive WmiReading where
  | comFailed
  | connectFailed
  | zones (temperatures : List (Option Int))

namespace WmiCollector

def countFailure (self : WmiCollector) : WmiCollector :=
  { consecutiveFailures := self.consecutiveFailures + 1
    disabled :=
      self.disabled || decide (kMaxConsecutiveFailures ≤ self.consecutiveFailures + 1) }

/-- A zone in tenths of Kelvin, added to the sum in °C and the number of zones. -/
def addZone (result : Float × Nat) (temperature : Option Int) : Float × Nat :=
  match temperature with
  | none => result
  | some tenths => (result.1 + (Float.ofInt tenths / 10.0 - 273.2), result.2 + 1)

def collect (self : WmiCollector) : WmiReading → List MetricSample × WmiCollector
  | .comFailed => ([], self)
  | .connectFailed => ([], self.countFailure)
  | .zones temperatures =>
      let (sum, count) := temperatures.foldl addZone (0.0, 0)
      if count = 0 then ([], self.countFailure)
      else
        ([⟨"cpu.temp_c", sum / Float.ofNat count, "celsius"⟩],
          { self with consecutiveFailures := 0 })

end WmiCollector

structure NvmlMemory where
  total : UInt64
  used : UInt64

/-- What one device answers; `none` when the function is not exported or fails. -/
structure NvmlDevice where
  utilization : Option UInt32
  memoryInfo : Option NvmlMemory
  temperature : Option UInt32
  powerUsage : Option UInt32
  clockInfo : Option UInt32

/-- The queries of a device. -/
inductive NvmlField where
  | utilization
  | memoryInfo
  | temperature
  | powerUsage
  | clockInfo
  deriving DecidableEq

/-- In the order of the loop body. -/
def NvmlField.all : List NvmlField :=
  [.utilization, .memoryInfo, .temperature, .powerUsage, .clockInfo]

/-- The devices by index, `none` for one without a handle; the count may fail. -/
abbrev NvmlReading := Option (List (Option NvmlDevice))

structure NvmlCollector where
  ready : Bool

namespace NvmlCollector

/-- The metrics of one query of a device; labels are omitted. -/
def queryMetrics (device : NvmlDevice) : NvmlField → List MetricSample
  | .utilization =>
      match device.utilization with
      | none => []
      | some gpu => [⟨"gpu.util_pct", gpu.toFloat, "percent"⟩]
  | .memoryInfo =>
      match device.memoryInfo with
      | none => []
      | some memory =>
          [⟨"gpu.mem_used_mb", memory.used.toFloat / (1024.0 * 1024.0), "mb"⟩,
            ⟨"gpu.mem_total_mb", memory.total.toFloat / (1024.0 * 1024.0), "mb"⟩]
  | .temperature =>
      match device.temperature with
      | none => []
      | some temp => [⟨"gpu.temp_c", temp.toFloat, "celsius"⟩]
  | .powerUsage =>
      match device.powerUsage with
      | none => []
      | some milliwatts => [⟨"gpu.power_w", milliwatts.toFloat / 1000.0, "watt"⟩]
  | .clockInfo =>
      match device.clockInfo with
      | none => []
      | some mhz => [⟨"gpu.clock_mhz", mhz.toFloat, "mhz"⟩]

/-- The body of the loop over the devices. -/
def deviceMetrics (device : NvmlDevice) : List MetricSample :=
  NvmlField.all.flatMap (queryMetrics device)

/-- The loop skips a device without a handle. -/
def addDevice (out : List MetricSample) (device : Option NvmlDevice) : List MetricSample :=
  match device with
  | none => out
  | some device => out ++ deviceMetrics device

def collect (self : NvmlCollector) (reading : NvmlReading) : List MetricSample :=
  if !self.ready then []
  else
    match reading with
    | none => []
    | some devices => devices.foldl addDevice []

end NvmlCollector

/-- The answers of one tick, `none` when the collector's `Collect` throws. -/
structure Tick where
  nowMs : Int
  pdh : Option PdhReading
  wmi : Option WmiReading
  nvml : Option NvmlReading

/-- A registered collector. -/
inductive ICollector where
  | pdh (collector : PdhCollector)
  | wmi (collector : WmiCollector)
  | nvml (collector : NvmlCollector)

namespace ICollector

def available : ICollector → Bool
  | .pdh collector => collector.ready
  | .wmi collector => !collector.disabled
  | .nvml collector => collector.ready

/-- `Collect`, with the collector it leaves; a throw yields no metrics. -/
def collect (tick : Tick) : ICollector → List MetricSample × ICollector
  | .pdh collector =>
      match tick.pdh with
      | none => ([], .pdh collector)
      | some reading => (collector.collect reading, .pdh collector)
  | .wmi collector =>
      match tick.wmi with
      | none => ([], .wmi collector)
      | some reading =>
          let (metrics, collector) := collector.collect reading
          (metrics, .wmi collector)
  | .nvml collector =>
      match tick.nvml with
      | none => ([], .nvml collector)
      | some reading => (collector.collect reading, .nvml collector)

end ICollector

/-- The body of the loop over the collectors: the metrics so far, and the collectors as
they are left. -/
def poll (tick : Tick) (result : List MetricSample × List ICollector)
    (collector : ICollector) : List MetricSample × List ICollector :=
  if !collector.available then (result.1, result.2 ++ [collector])
  else
    let (collected, collector) := collector.collect tick
    (result.1 ++ collected, result.2 ++ [collector])

/-- One iteration of `Loop`: the metrics of the available collectors in their order of
registration. -/
def loopTick (collectors : List ICollector) (tick : Tick) :
    TelemetrySample × List ICollector :=
  let (metrics, collectors) := collectors.foldl (poll tick) ([], [])
  (⟨tick.nowMs, metrics⟩, collectors)

/-- The samples of a sequence of ticks. -/
def emitted (collectors : List ICollector) : List Tick → List TelemetrySample
  | [] => []
  | tick :: rest =>
      let (sample, collectors) := loopTick collectors tick
      sample :: emitted collectors rest

/-- The collectors that `ServiceHost::Start` registers. -/
def builtInCollectors (pdh : PdhCollector) (wmi : WmiCollector) (nvml : NvmlCollector) :
    List ICollector :=
  [.pdh pdh, .wmi wmi, .nvml nvml]

end HWPanel.Collectors
