import Mathlib.Data.Prod.Lex
import Mathlib.Order.WithBot
import ENavigator.Metrics.Fingerprints
import ENavigator.Metrics.Record

/-!
# Resource metrics

The generator of node, process and cgroup metrics. An observation is a list of samples, each of one gauge or of one
counter. A gauge is emitted when it changes; of a counter what is emitted is its growth since the sample before.
Load averages, which are no counters, are left out.
-/

namespace ENavigator.Metrics.Resource

open Signals
open scoped ByteOrder

variable (host : Option Bytes)

/-! ## Observations -/

structure NodeCpuObservation where
  timestampUnixNanos : Nat
  window : MetricAggregationWindow
  userNanos : Nat
  systemNanos : Nat
  idleNanos : Nat
  iowaitNanos : Nat
  stealNanos : Nat
  runnableTasks : Option Nat
  blockedTasks : Option Nat

structure NodeMemoryObservation where
  timestampUnixNanos : Nat
  window : MetricAggregationWindow
  memTotalBytes : Nat
  memAvailableBytes : Option Nat
  memFreeBytes : Option Nat
  swapTotalBytes : Option Nat
  swapFreeBytes : Option Nat

structure NodeFilesystemObservation where
  timestampUnixNanos : Nat
  window : MetricAggregationWindow
  mountPoint : Bytes
  filesystemType : Option Bytes
  totalBytes : Nat
  availableBytes : Nat

structure NodeDiskIoObservation where
  timestampUnixNanos : Nat
  device : Bytes
  readsCompleted : Nat
  writesCompleted : Nat
  readBytes : Nat
  writtenBytes : Nat

structure ProcessResourceObservation where
  timestampUnixNanos : Nat
  window : MetricAggregationWindow
  process : ProcessResourceContext
  cpuTimeNanos : Option Nat
  memoryRssBytes : Option Nat
  virtualMemoryBytes : Option Nat
  openFds : Option Nat
  socketCount : Option Nat
  threadCount : Option Nat

structure CgroupCpuObservation where
  timestampUnixNanos : Nat
  cgroup : CgroupResourceContext
  usageNanos : Option Nat
  userNanos : Option Nat
  systemNanos : Option Nat
  throttledPeriods : Option Nat
  throttledNanos : Option Nat

structure CgroupMemoryObservation where
  timestampUnixNanos : Nat
  window : MetricAggregationWindow
  cgroup : CgroupResourceContext
  currentBytes : Option Nat
  peakBytes : Option Nat
  maxBytes : Option Nat

structure CgroupPidsObservation where
  timestampUnixNanos : Nat
  window : MetricAggregationWindow
  cgroup : CgroupResourceContext
  processCount : Option Nat
  threadCount : Option Nat
  maxProcesses : Option Nat

structure CgroupFileDescriptorObservation where
  timestampUnixNanos : Nat
  window : MetricAggregationWindow
  cgroup : CgroupResourceContext
  openFds : Option Nat
  socketCount : Option Nat

inductive Observation
  | nodeCpu (observation : NodeCpuObservation)
  | nodeMemory (observation : NodeMemoryObservation)
  | nodeFilesystem (observation : NodeFilesystemObservation)
  | nodeDiskIo (observation : NodeDiskIoObservation)
  | process (observation : ProcessResourceObservation)
  | cgroupCpu (observation : CgroupCpuObservation)
  | cgroupMemory (observation : CgroupMemoryObservation)
  | cgroupPids (observation : CgroupPidsObservation)
  | cgroupFileDescriptors (observation : CgroupFileDescriptorObservation)

def sanitizeObservation : Observation → Observation
  | .nodeFilesystem observation =>
    .nodeFilesystem { observation with
      mountPoint := sanitizeString observation.mountPoint
      filesystemType := observation.filesystemType.map sanitizeString }
  | .nodeDiskIo observation => .nodeDiskIo { observation with device := sanitizeString observation.device }
  | .process observation =>
    .process { observation with process := sanitizeProcessResourceContext observation.process }
  | .cgroupCpu observation =>
    .cgroupCpu { observation with cgroup := sanitizeCgroupResourceContext observation.cgroup }
  | .cgroupMemory observation =>
    .cgroupMemory { observation with cgroup := sanitizeCgroupResourceContext observation.cgroup }
  | .cgroupPids observation =>
    .cgroupPids { observation with cgroup := sanitizeCgroupResourceContext observation.cgroup }
  | .cgroupFileDescriptors observation =>
    .cgroupFileDescriptors { observation with cgroup := sanitizeCgroupResourceContext observation.cgroup }
  | observation => observation

def observationEnvelope (source : Bytes) (host : Option Bytes) (observation : Observation) :
    SignalEnvelope Observation :=
  SignalEnvelope.new source host (sanitizeObservation observation)

/-! ## Keys -/

structure StateKey where
  host : Option Bytes
  metricName : Bytes
  state : Bytes
  scope : Bytes
  deriving DecidableEq

/-- The fields in the order in which they are compared. -/
def StateKey.fields (key : StateKey) : WithBot Bytes ×ₗ Bytes ×ₗ Bytes ×ₗ Bytes :=
  toLex (key.host, toLex (key.metricName, toLex (key.state, key.scope)))

theorem StateKey.fields_injective : Function.Injective StateKey.fields := by
  rintro ⟨host, name, state, scope⟩ ⟨host', name', state', scope'⟩ h
  have h := Prod.mk.inj (toLex.injective h)
  have hrest := Prod.mk.inj (toLex.injective h.2)
  have hlast := Prod.mk.inj (toLex.injective hrest.2)
  obtain rfl : host = host' := h.1
  obtain ⟨rfl, rfl, rfl⟩ : name = name' ∧ state = state' ∧ scope = scope' := ⟨hrest.1, hlast.1, hlast.2⟩
  rfl

instance : LinearOrder StateKey := LinearOrder.lift' StateKey.fields StateKey.fields_injective

namespace StateKey

def inScope (metricName state scope : Bytes) : StateKey := { host, metricName, state, scope }
def node (metricName state : Bytes) : StateKey := inScope host metricName state []
def process (metricName state : Bytes) (pid : Nat) : StateKey := inScope host metricName state (decimal pid)
def cgroup (metricName state : Bytes) (cgroup : CgroupResourceContext) : StateKey :=
  inScope host metricName state cgroup.cgroupPath

end StateKey

/-! ## Samples -/

structure CounterSample where
  key : StateKey
  unit : Bytes
  value : Nat
  process : Option ProcessResourceContext := none
  cgroup : Option CgroupResourceContext := none
  attributes : List (Bytes × Bytes)

structure GaugeSample where
  key : StateKey
  unit : Bytes
  value : Int
  window : MetricAggregationWindow
  process : Option ProcessResourceContext := none
  cgroup : Option CgroupResourceContext := none
  attributes : List (Bytes × Bytes)

inductive Sample
  | counter (sample : CounterSample)
  | gauge (sample : GaugeSample)

/-- An unsigned value taken as a signed one. -/
def asI64 (value : Nat) : Int := if value < 2 ^ 63 then value else (value : Int) - 2 ^ 64

def saturatingI64 (value : Nat) : Int := min value (2 ^ 63 - 1)

def gaugeOf (key : StateKey) (unit : Bytes) (window : MetricAggregationWindow) (value : Option Int)
    (process : Option ProcessResourceContext := none) (cgroup : Option CgroupResourceContext := none) : List Sample :=
  value.toList.map fun value =>
    .gauge { key, unit, value, window, process, cgroup, attributes := [(text "state", key.state)] }

def nodeCpuMetrics (o : NodeCpuObservation) : List Sample :=
  gaugeOf (.node host (text "system.cpu.saturation.runnable") (text "runnable")) (text "\x7bthread\x7d") o.window
      (o.runnableTasks.map asI64) ++
    gaugeOf (.node host (text "system.cpu.saturation.blocked") (text "blocked")) (text "\x7bthread\x7d") o.window
      (o.blockedTasks.map asI64) ++
    [(text "user", o.userNanos), (text "system", o.systemNanos), (text "idle", o.idleNanos),
        (text "iowait", o.iowaitNanos), (text "steal", o.stealNanos)].map fun e =>
      .counter
        { key := .node host (text "system.cpu.time") e.1, unit := text "ns", value := e.2
          attributes := [(text "state", e.1)] }

def nodeMemoryMetrics (o : NodeMemoryObservation) : List Sample :=
  [(text "system.memory.limit", text "total", some o.memTotalBytes),
      (text "system.memory.available", text "available", o.memAvailableBytes),
      (text "system.memory.free", text "free", o.memFreeBytes),
      (text "system.swap.limit", text "total", o.swapTotalBytes),
      (text "system.swap.free", text "free", o.swapFreeBytes)].flatMap fun e =>
    gaugeOf (.node host e.1 e.2.1) (text "By") o.window (e.2.2.map saturatingI64)

def nodeFilesystemMetrics (o : NodeFilesystemObservation) : List Sample :=
  [(text "system.filesystem.usage", text "used", o.totalBytes - o.availableBytes),
      (text "system.filesystem.available", text "available", o.availableBytes),
      (text "system.filesystem.limit", text "total", o.totalBytes)].map fun e =>
    .gauge
      { key := .inScope host e.1 e.2.1 o.mountPoint, unit := text "By", value := saturatingI64 e.2.2
        window := o.window
        attributes :=
          [(text "state", e.2.1), (text "mountpoint", o.mountPoint),
            (text "filesystem.type", o.filesystemType.getD (text "unknown"))] }

def nodeDiskMetrics (o : NodeDiskIoObservation) : List Sample :=
  [(text "system.disk.io", text "read", o.readBytes), (text "system.disk.io", text "write", o.writtenBytes),
      (text "system.disk.operations", text "read", o.readsCompleted),
      (text "system.disk.operations", text "write", o.writesCompleted)].map fun e =>
    .counter
      { key := .inScope host e.1 e.2.1 o.device
        unit := if e.1 = text "system.disk.io" then text "By" else text "\x7boperation\x7d"
        value := e.2.2
        attributes := [(text "state", e.2.1), (text "device", o.device)] }

def processMetrics (o : ProcessResourceObservation) : List Sample :=
  (o.cpuTimeNanos.toList.map fun value =>
      .counter
        { key := .process host (text "process.cpu.time") (text "total") o.process.pid, unit := text "ns", value
          process := some o.process, attributes := [(text "state", text "total")] }) ++
    [(text "process.memory.usage", text "rss", text "By", o.memoryRssBytes),
        (text "process.memory.virtual", text "virtual", text "By", o.virtualMemoryBytes),
        (text "process.open_file_descriptor.count", text "open", text "\x7bfile_descriptor\x7d", o.openFds),
        (text "process.socket.count", text "open", text "\x7bsocket\x7d", o.socketCount),
        (text "process.thread.count", text "current", text "\x7bthread\x7d", o.threadCount)].flatMap fun e =>
      gaugeOf (.process host e.1 e.2.1 o.process.pid) e.2.2.1 o.window (e.2.2.2.map saturatingI64) (some o.process)

def cgroupCounter (cgroup : CgroupResourceContext) (name state unit : Bytes) (value : Option Nat) : List Sample :=
  value.toList.map fun value =>
    .counter
      { key := .cgroup host name state cgroup, unit, value, cgroup := some cgroup
        attributes := [(text "state", state)] }

def cgroupCpuMetrics (o : CgroupCpuObservation) : List Sample :=
  ([(text "total", o.usageNanos), (text "user", o.userNanos), (text "system", o.systemNanos),
      (text "throttled", o.throttledNanos)].flatMap fun e =>
    cgroupCounter host o.cgroup (text "container.cpu.time") e.1 (text "ns") e.2) ++
    cgroupCounter host o.cgroup (text "container.cpu.throttling.periods") (text "throttled") (text "\x7bperiod\x7d")
      o.throttledPeriods

/-- The gauges of a cgroup, each with its name, state, unit and value. -/
def cgroupGauges (cgroup : CgroupResourceContext) (window : MetricAggregationWindow)
    (gauges : List (Bytes × Bytes × Bytes × Option Nat)) : List Sample :=
  gauges.flatMap fun e =>
    gaugeOf (.cgroup host e.1 e.2.1 cgroup) e.2.2.1 window (e.2.2.2.map saturatingI64) none (some cgroup)

def cgroupMemoryMetrics (o : CgroupMemoryObservation) : List Sample :=
  cgroupGauges host o.cgroup o.window
    [(text "container.memory.usage", text "current", text "By", o.currentBytes),
      (text "container.memory.peak", text "peak", text "By", o.peakBytes),
      (text "container.memory.limit", text "limit", text "By", o.maxBytes)]

def cgroupPidsMetrics (o : CgroupPidsObservation) : List Sample :=
  cgroupGauges host o.cgroup o.window
    [(text "container.process.count", text "current", text "\x7bprocess\x7d", o.processCount),
      (text "container.thread.count", text "current", text "\x7bthread\x7d", o.threadCount),
      (text "container.process.limit", text "limit", text "\x7bprocess\x7d", o.maxProcesses)]

def cgroupFdMetrics (o : CgroupFileDescriptorObservation) : List Sample :=
  cgroupGauges host o.cgroup o.window
    [(text "container.file_descriptor.count", text "open", text "\x7bfile_descriptor\x7d", o.openFds),
      (text "container.socket.count", text "open", text "\x7bsocket\x7d", o.socketCount)]

def samples : Observation → List Sample
  | .nodeCpu observation => nodeCpuMetrics host observation
  | .nodeMemory observation => nodeMemoryMetrics host observation
  | .nodeFilesystem observation => nodeFilesystemMetrics host observation
  | .nodeDiskIo observation => nodeDiskMetrics host observation
  | .process observation => processMetrics host observation
  | .cgroupCpu observation => cgroupCpuMetrics host observation
  | .cgroupMemory observation => cgroupMemoryMetrics host observation
  | .cgroupPids observation => cgroupPidsMetrics host observation
  | .cgroupFileDescriptors observation => cgroupFdMetrics host observation

/-! ## Fingerprints -/

inductive ObservationValue
  | nodeCpu (userNanos systemNanos idleNanos iowaitNanos stealNanos runnableTasks blockedTasks : Nat)
  | nodeMemory (memTotalBytes : Nat) (memAvailableBytes memFreeBytes swapTotalBytes swapFreeBytes : Option Nat)
  | nodeFilesystem (mountPoint : Bytes) (totalBytes availableBytes : Nat) (filesystemType : Option Bytes)
  | nodeDiskIo (device : Bytes) (readsCompleted writesCompleted readBytes writtenBytes : Nat)
  | process (pid : Nat)
    (cpuTimeNanos memoryRssBytes virtualMemoryBytes openFds socketCount threadCount : Option Nat)
  | cgroupCpu (cgroupPath : Bytes) (usageNanos userNanos systemNanos throttledPeriods throttledNanos : Option Nat)
  | cgroupMemory (cgroupPath : Bytes) (currentBytes peakBytes maxBytes : Option Nat)
  | cgroupPids (cgroupPath : Bytes) (processCount threadCount maxProcesses : Option Nat)
  | cgroupFileDescriptors (cgroupPath : Bytes) (openFds socketCount : Option Nat)
  deriving DecidableEq

structure ObservationFingerprint where
  host : Option Bytes
  timestamp : Nat
  value : ObservationValue
  deriving DecidableEq

def fingerprint : Observation → ObservationFingerprint
  | .nodeCpu o =>
    ⟨host, o.timestampUnixNanos, .nodeCpu o.userNanos o.systemNanos o.idleNanos o.iowaitNanos o.stealNanos
      (o.runnableTasks.getD 0) (o.blockedTasks.getD 0)⟩
  | .nodeMemory o =>
    ⟨host, o.timestampUnixNanos,
      .nodeMemory o.memTotalBytes o.memAvailableBytes o.memFreeBytes o.swapTotalBytes o.swapFreeBytes⟩
  | .nodeFilesystem o =>
    ⟨host, o.timestampUnixNanos, .nodeFilesystem o.mountPoint o.totalBytes o.availableBytes o.filesystemType⟩
  | .nodeDiskIo o =>
    ⟨host, o.timestampUnixNanos,
      .nodeDiskIo o.device o.readsCompleted o.writesCompleted o.readBytes o.writtenBytes⟩
  | .process o =>
    ⟨host, o.timestampUnixNanos, .process o.process.pid o.cpuTimeNanos o.memoryRssBytes o.virtualMemoryBytes
      o.openFds o.socketCount o.threadCount⟩
  | .cgroupCpu o =>
    ⟨host, o.timestampUnixNanos, .cgroupCpu o.cgroup.cgroupPath o.usageNanos o.userNanos o.systemNanos
      o.throttledPeriods o.throttledNanos⟩
  | .cgroupMemory o =>
    ⟨host, o.timestampUnixNanos, .cgroupMemory o.cgroup.cgroupPath o.currentBytes o.peakBytes o.maxBytes⟩
  | .cgroupPids o =>
    ⟨host, o.timestampUnixNanos, .cgroupPids o.cgroup.cgroupPath o.processCount o.threadCount o.maxProcesses⟩
  | .cgroupFileDescriptors o =>
    ⟨host, o.timestampUnixNanos, .cgroupFileDescriptors o.cgroup.cgroupPath o.openFds o.socketCount⟩

/-! ## The generator -/

structure CounterState where
  value : Nat
  timestampUnixNanos : Nat

structure CounterDelta where
  value : Nat
  window : MetricAggregationWindow

structure State where
  counters : SortedMap StateKey CounterState := SortedMap.empty
  gauges : SortedMap StateKey Int := SortedMap.empty
  seen : BoundedFingerprints ObservationFingerprint := {}

def evictFirst {β : Type} (entries : SortedMap StateKey β) : SortedMap StateKey β :=
  match entries.first? with
  | some e => entries.erase e.1
  | none => entries

variable (maxKeys : Nat)

/-- A new key goes in if there is room for it once the first one has gone. -/
def insertBounded {β : Type} (entries : SortedMap StateKey β) (others : Nat) (key : StateKey) (value : β) :
    Option (SortedMap StateKey β) × SortedMap StateKey β :=
  if maxKeys ≤ entries.entries.length + others then
    let evicted := evictFirst entries
    if maxKeys ≤ evicted.entries.length + others then (none, evicted)
    else (some (evicted.insert key value), evicted.insert key value)
  else (some (entries.insert key value), entries.insert key value)

def counterDelta (key : StateKey) (value timestampUnixNanos : Nat) (s : State) : Option CounterDelta × State :=
  match s.counters.lookup key with
  | some previous =>
    let s := { s with counters := s.counters.insert key { value, timestampUnixNanos } }
    if value = previous.value then (none, s)
    else
      let delta := value - previous.value
      (if 0 < delta then
        some { value := delta, window := ⟨previous.timestampUnixNanos, timestampUnixNanos⟩ } else none, s)
  | none =>
    (none, { s with
      counters := (insertBounded maxKeys s.counters s.gauges.entries.length key { value, timestampUnixNanos }).2 })

def resourceContext (host : Option Bytes) (process : Option ProcessResourceContext)
    (cgroup : Option CgroupResourceContext) : ResourceContext :=
  { hostName := host
    container := (process.bind (·.container)).or (cgroup.bind (·.container))
    kubernetes := (process.bind (·.kubernetes)).or (cgroup.bind (·.kubernetes)) }

def metricAttributes (attributes : List (Bytes × Bytes)) : List ResourceMetricAttribute :=
  attributes.map fun e => { key := e.1, value := e.2 }

def resourceMetric {α : Type} (host : Option Bytes) (key : StateKey) (unit : Bytes) (value : α)
    (window : MetricAggregationWindow) (process : Option ProcessResourceContext)
    (cgroup : Option CgroupResourceContext) (attributes : List (Bytes × Bytes)) : ResourceMetric α :=
  { metricName := key.metricName, unit, value, window
    resource := resourceContext host process cgroup
    process, cgroup
    attributes := metricAttributes attributes }

def counterMetric (host : Option Bytes) (sample : CounterSample) (delta : CounterDelta) :
    SignalEnvelope MetricPayload :=
  SignalEnvelope.resourceCounterMetric (text "generator.resource_metrics") host
    (resourceMetric host sample.key sample.unit delta.value delta.window sample.process sample.cgroup
      sample.attributes)

def gaugeMetric (host : Option Bytes) (sample : GaugeSample) : SignalEnvelope MetricPayload :=
  SignalEnvelope.resourceGaugeMetric (text "generator.resource_metrics") host
    (resourceMetric host sample.key sample.unit sample.value sample.window sample.process sample.cgroup
      sample.attributes)

def updateMetricGauge (host : Option Bytes) (sample : GaugeSample) (s : State) :
    Option (SignalEnvelope MetricPayload) × State :=
  match s.gauges.lookup sample.key with
  | some previous =>
    if previous = sample.value then (none, s)
    else (some (gaugeMetric host sample), { s with gauges := s.gauges.insert sample.key sample.value })
  | none =>
    let bounded := insertBounded maxKeys s.gauges s.counters.entries.length sample.key sample.value
    (bounded.1.map fun _ => gaugeMetric host sample, { s with gauges := bounded.2 })

def observeSample (host : Option Bytes) (timestampUnixNanos : Nat)
    (acc : List (SignalEnvelope MetricPayload) × State) : Sample → List (SignalEnvelope MetricPayload) × State
  | .counter sample =>
    let r := counterDelta maxKeys sample.key sample.value timestampUnixNanos acc.2
    (acc.1 ++ (r.1.map (counterMetric host sample)).toList, r.2)
  | .gauge sample =>
    let r := updateMetricGauge maxKeys host sample acc.2
    (acc.1 ++ r.1.toList, r.2)

def outputsForSignal (signal : SignalEnvelope Observation) (s : State) :
    List (SignalEnvelope MetricPayload) × State :=
  let seen := s.seen.insertIfNew (fingerprint signal.host signal.payload) (saturatingMul maxKeys 4)
  let s := { s with seen := seen.2 }
  if seen.1 then
    (samples signal.host signal.payload).foldl
      (observeSample maxKeys signal.host (fingerprint signal.host signal.payload).timestamp) ([], s)
  else ([], s)

end ENavigator.Metrics.Resource
