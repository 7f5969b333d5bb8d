import Mathlib.Data.List.Nodup
import ENavigator.Lib.Runs
import ENavigator.Metrics.Resource

/-!
# Resource counters as cumulative sums

A resource counter is exported as a cumulative, monotonic sum, and what is exported is its growth since the sample
before. So the exported values go down whenever a counter slows down (`not_cumulative_slowing`); they do not where the
readings of every counter never fall and its growth never shrinks (`cumulative_of_steady`). A counter that the generator
remembers has the value of its last reading, also behind observations that it has skipped (`Inv.skip`).

That a series is one counter is the other half of the argument: the counter a record stands for can be read off the
parts of the record that make up its series (`readKey_of_seriesKey`, `readKey_counterMetric`).
-/

namespace ENavigator.Metrics.Resource

open Signals List SortedMap
open scoped ByteOrder

/-- The value of a record that is exported as a cumulative, monotonic sum. -/
def cumulativeSum? (record : OtelMetricRecord) : Option Int :=
  match metricData record with
  | .sum point .cumulative true => some point.value.toInt
  | _ => none

/-- The values that one series exports as a cumulative sum do not decrease. -/
def Cumulative [Json.Serializer] (records : List OtelMetricRecord) : Prop :=
  records.Pairwise fun a b => metricSeriesKey a = metricSeriesKey b →
    ∀ x ∈ cumulativeSum? a, ∀ y ∈ cumulativeSum? b, x ≤ y

instance [Json.Serializer] (records : List OtelMetricRecord) : Decidable (Cumulative records) :=
  inferInstanceAs (Decidable (records.Pairwise _))

/-- Every sum is exported as a cumulative one. -/
theorem cumulativeSum?_eq_some_iff {record : OtelMetricRecord} {x : Int} :
    cumulativeSum? record = some x ↔ record.kind = .sum ∧ (numberValue record.value).toInt = x := by
  unfold cumulativeSum? metricData
  rcases hkind : record.kind with _ | _ | _
  · simp [numberPoint]
  · simp
  · cases record.value <;> simp

/-! ## The counter of a record -/

def readText (object : Json.Object) (key : Bytes) : Bytes :=
  match object.lookup key with
  | some (.string value) => value
  | _ => []

def readHost (resource : Json.Object) : Option Bytes :=
  match resource.lookup (text "host.name") with
  | some (.string value) => some value
  | _ => none

def readPid (attributes : Json.Object) : Bytes :=
  match attributes.lookup (text "process.pid") with
  | some (.number value) => decimal value.toNat
  | _ => []

def readScope (name : Bytes) (attributes : Json.Object) : Bytes :=
  if name = text "system.cpu.time" then []
  else if name = text "process.cpu.time" then readPid attributes
  else if name = text "system.disk.io" ∨ name = text "system.disk.operations" then
    readText attributes (text "system.device")
  else readText attributes (text "linux.cgroup.path")

def readKey (record : OtelMetricRecord) : StateKey :=
  { host := readHost record.resource
    metricName := record.name
    state := readText record.attributes (resourceAttributeKey record.name (text "state"))
    scope := readScope record.name record.attributes }

theorem readKey_of_seriesKey [Json.Serializer] {a b : OtelMetricRecord} (h : metricSeriesKey a = metricSeriesKey b) :
    readKey a = readKey b := by
  obtain ⟨hname, -, hresource, hattributes⟩ := metricSeriesKey_eq_iff.mp h
  rw [readKey, readKey, hname, hresource, hattributes]

/-! ### Attributes -/

def baseAttributes (name : Bytes) (attributes : List (Bytes × Bytes)) : Json.Object :=
  ((sanitizeResourceMetricAttributes (metricAttributes attributes)).take maxMetricAttributes).foldl
    (insertMetricAttribute name) SortedMap.empty

/-- The attributes of a counter are its state and, for a disk, the device. -/
theorem baseAttributes_eq (name : Bytes) {state : Bytes} {device : Option Bytes} (hstate : state.length ≤ 256)
    (hdevice : ∀ d ∈ device, d.length ≤ 256) :
    baseAttributes name ((text "state", state) :: device.toList.map (text "device", ·)) =
      insertOptional (insertAttributeString (resourceAttributeKey name (text "device"))) device
        (insertAttributeString (resourceAttributeKey name (text "state")) state empty) := by
  have hkeys : ∀ key ∈ [text "state", text "device"], key.isEmpty = false ∧ isSensitiveMetricAttributeKey key = false ∧
      truncateUtf8 key maxResourceMetricAttributeKeyBytes = key := by decide +kernel
  obtain ⟨hempty, hallowed, hkey⟩ := hkeys _ mem_cons_self
  obtain ⟨hempty', hallowed', hkey'⟩ := hkeys (text "device") (mem_cons_of_mem _ mem_cons_self)
  cases device with
  | none =>
    simp [baseAttributes, metricAttributes, sanitizeResourceMetricAttributes, maxResourceMetricAttributes,
      maxMetricAttributes, insertMetricAttribute, metricAttributeAllowed, insertOptional, hempty, hallowed, hkey,
      sanitizeString_of_short hstate]
  | some device =>
    simp [baseAttributes, metricAttributes, sanitizeResourceMetricAttributes, maxResourceMetricAttributes,
      maxMetricAttributes, insertMetricAttribute, metricAttributeAllowed, insertOptional, hempty, hallowed, hkey,
      hempty', hallowed', hkey', sanitizeString_of_short hstate, sanitizeString_of_short (hdevice device rfl)]

def contextKeys : List Bytes :=
  [text "process.pid", text "process.parent_pid", text "process.command", text "linux.cgroup.path"]

theorem lookup_insertProcess_of_notMem {key : Bytes} (h : key ∉ contextKeys) (process : ProcessResourceContext)
    (object : Json.Object) : (insertProcess process object).lookup key = object.lookup key := by
  simp only [contextKeys, mem_cons, not_mem_nil, or_false, not_or] at h
  unfold insertProcess
  rw [lookup_insert_of_ne h.2.2.1,
    lookup_insertOptional_of_same (fun _ _ => lookup_insert_of_ne h.2.1 _),
    lookup_insert_of_ne h.1]

theorem lookup_insertCgroup_of_notMem {key : Bytes} (h : key ∉ contextKeys) (cgroup : CgroupResourceContext)
    (object : Json.Object) : (insertCgroup cgroup object).lookup key = object.lookup key := by
  simp only [contextKeys, mem_cons, not_mem_nil, or_false, not_or] at h
  exact lookup_insert_of_ne h.2.2.2 _

/-! The names and the states of the counters. -/

def nodeCpuCounters : List (Bytes × Bytes) :=
  [text "user", text "system", text "idle", text "iowait", text "steal"].map (text "system.cpu.time", ·)

def nodeDiskCounters : List (Bytes × Bytes) :=
  [(text "system.disk.io", text "read"), (text "system.disk.io", text "write"),
    (text "system.disk.operations", text "read"), (text "system.disk.operations", text "write")]

def processCounters : List (Bytes × Bytes) := [(text "process.cpu.time", text "total")]

def cgroupCpuCounters : List (Bytes × Bytes) :=
  [text "total", text "user", text "system", text "throttled"].map (text "container.cpu.time", ·) ++
    [(text "container.cpu.throttling.periods", text "throttled")]

section record

variable (host : Option Bytes) (sample : CounterSample) (delta : CounterDelta)

def counterRecord : OtelMetricRecord := formatOtelMetricRecord (counterMetric host sample delta)

variable {host sample delta} {record : OtelMetricRecord} (hrecord : counterRecord host sample delta = record)
include hrecord

theorem counterRecord_name (h : sample.key.metricName.length ≤ 256) : record.name = sample.key.metricName := by
  subst hrecord
  show truncateUtf8 (sanitizeString sample.key.metricName) 256 = _
  rw [sanitizeString_of_short h]
  exact truncateUtf8_of_length_le h

theorem readHost_counterRecord (h : ∀ name ∈ host, name.length ≤ 256) : readHost record.resource = host := by
  subst hrecord
  cases host with
  | none =>
    have hlookup : (counterRecord none sample delta).resource.lookup (text "host.name") = none :=
      lookup_resourceAttributes_host none _ _
    rw [readHost, hlookup]
  | some name =>
    have hlookup : (counterRecord (some name) sample delta).resource.lookup (text "host.name") =
        some (boundedJsonString (sanitizeString name)) := lookup_insert_self _ _ _
    rw [readHost, hlookup, sanitizeString_of_short (h name rfl), boundedJsonString_of_short (h name rfl)]

variable {key name : Bytes}

theorem lookup_counterRecord (hidentity : key ∉ identityKeys) (hcontext : key ∉ contextKeys) :
    record.attributes.lookup key =
      (baseAttributes (sanitizeString sample.key.metricName) sample.attributes).lookup key := by
  subst hrecord
  refine (lookup_mirror_of_notMem hidentity _).trans ?_
  exact (lookup_insertOptional_of_same (lookup_insertCgroup_of_notMem hcontext) _ _).trans
    (lookup_insertOptional_of_same (lookup_insertProcess_of_notMem hcontext) _ _)

omit hrecord

theorem lookup_insertAttributeString_self {value : Bytes} (hkey : key.length ≤ 128) (hvalue : value.length ≤ 256)
    (object : Json.Object) : (insertAttributeString key value object).lookup key = some (.string value) := by
  unfold insertAttributeString
  rw [truncateUtf8_of_length_le (show key.length ≤ maxMetricAttributeKeyBytes from hkey),
    boundedJsonString_of_short hvalue]
  exact lookup_insert_self _ _ _

theorem lookup_insertAttributeString_of_ne (hname : name.length ≤ 128) (h : key ≠ name)
    (value : Bytes) (object : Json.Object) :
    (insertAttributeString name value object).lookup key = object.lookup key := by
  unfold insertAttributeString
  rw [truncateUtf8_of_length_le (show name.length ≤ maxMetricAttributeKeyBytes from hname)]
  exact lookup_insert_of_ne h _

/-- An attribute name that no context takes and that is not cut. -/
def Plain (key : Bytes) : Prop := key.length ≤ 128 ∧ key ∉ identityKeys ∧ key ∉ contextKeys

instance (key : Bytes) : Decidable (Plain key) := inferInstanceAs (Decidable (_ ∧ _ ∧ _))

def counterNames : List Bytes :=
  [text "system.cpu.time", text "process.cpu.time", text "system.disk.io", text "system.disk.operations",
    text "container.cpu.time", text "container.cpu.throttling.periods"]

theorem counterNames_plain : ∀ name ∈ counterNames, name.length ≤ 256 ∧
    Plain (resourceAttributeKey name (text "state")) ∧ Plain (resourceAttributeKey name (text "device")) ∧
    resourceAttributeKey name (text "state") ≠ resourceAttributeKey name (text "device") := by decide +kernel

variable {d : Option Bytes}

section read

variable (hname : sample.key.metricName ∈ counterNames)
  (hattributes : sample.attributes = (text "state", sample.key.state) :: d.toList.map (text "device", ·))
  (hstate : sample.key.state.length ≤ 256) (hdevice : ∀ device ∈ d, device.length ≤ 256)
include hrecord hname hattributes hstate hdevice

theorem readText_state :
    readText record.attributes (resourceAttributeKey sample.key.metricName (text "state")) = sample.key.state := by
  obtain ⟨hshort, ⟨hkey, hidentity, hcontext⟩, hother, hne⟩ := counterNames_plain _ hname
  rw [readText, lookup_counterRecord hrecord hidentity hcontext, hattributes, sanitizeString_of_short hshort,
    baseAttributes_eq _ hstate hdevice, lookup_insertOptional_of_same
      (fun _ _ => lookup_insertAttributeString_of_ne hother.1 hne _ _),
    lookup_insertAttributeString_self hkey hstate]

theorem readText_device {device : Bytes} (hd : d = some device) :
    readText record.attributes (resourceAttributeKey sample.key.metricName (text "device")) = device := by
  obtain ⟨hshort, -, ⟨hkey, hidentity, hcontext⟩, -⟩ := counterNames_plain _ hname
  subst hd
  rw [readText, lookup_counterRecord hrecord hidentity hcontext, hattributes, sanitizeString_of_short hshort,
    baseAttributes_eq _ hstate hdevice, insertOptional, lookup_insertAttributeString_self hkey (hdevice device rfl)]

theorem readKey_of_scope (hhost : ∀ name ∈ host, name.length ≤ 256) (howner : sample.key.host = host)
    (hscope : readScope sample.key.metricName record.attributes = sample.key.scope) : readKey record = sample.key := by
  rw [readKey, readHost_counterRecord hrecord hhost, counterRecord_name hrecord (counterNames_plain _ hname).1,
    readText_state hrecord hname hattributes hstate hdevice, hscope, ← howner]

end read

include hrecord

theorem readScope_process {p : ProcessResourceContext} (hprocess : sample.process = some p)
    (hcgroup : sample.cgroup = none) :
    readScope (text "process.cpu.time") record.attributes = decimal p.pid := by
  subst hrecord
  have hpid : (counterRecord host sample delta).attributes.lookup (text "process.pid") = some (.number p.pid) := by
    refine (lookup_mirror_of_notMem (by decide +kernel) _).trans ?_
    show (resourceMetricAttributes _ _ (sample.process.map _) (sample.cgroup.map _)).lookup _ = _
    rw [hprocess, hcgroup]
    show (insertProcess _ _).lookup _ = _
    unfold insertProcess
    rw [lookup_insert_of_ne (by decide +kernel),
      lookup_insertOptional_of_same (fun _ _ => lookup_insert_of_ne (by decide +kernel) _)]
    exact lookup_insert_self _ _ _
  rw [readScope, if_neg (by decide +kernel), if_pos rfl, readPid, hpid]
  rfl

theorem readScope_cgroup {cgroup : CgroupResourceContext} {e : Bytes × Bytes} (he : e ∈ cgroupCpuCounters)
    (hpath : cgroup.cgroupPath.length ≤ 256) (hcgroup : sample.cgroup = some cgroup) :
    readScope e.1 record.attributes = cgroup.cgroupPath := by
  subst hrecord
  have hlookup : (counterRecord host sample delta).attributes.lookup (text "linux.cgroup.path") =
      some (.string cgroup.cgroupPath) := by
    refine (lookup_mirror_of_notMem (by decide +kernel) _).trans ?_
    show (resourceMetricAttributes _ _ (sample.process.map _) (sample.cgroup.map _)).lookup _ = _
    rw [hcgroup]
    refine (lookup_insert_self _ _ _).trans ?_
    show some (boundedJsonString (sanitizeString cgroup.cgroupPath)) = _
    rw [sanitizeString_of_short hpath, boundedJsonString_of_short hpath]
  have hnames : ∀ e ∈ cgroupCpuCounters, e.1 ≠ text "system.cpu.time" ∧ e.1 ≠ text "process.cpu.time" ∧
      ¬ (e.1 = text "system.disk.io" ∨ e.1 = text "system.disk.operations") := by decide +kernel
  obtain ⟨hnode, hprocess, hdisk⟩ := hnames e he
  rw [readScope, if_neg hnode, if_neg hprocess, if_neg hdisk, readText, hlookup]

omit hrecord in
theorem readScope_disk {e : Bytes × Bytes} (he : e ∈ nodeDiskCounters) (attributes : Json.Object) :
    readScope e.1 attributes = readText attributes (resourceAttributeKey e.1 (text "device")) := by
  have hnames : ∀ e ∈ nodeDiskCounters, e.1 ≠ text "system.cpu.time" ∧ e.1 ≠ text "process.cpu.time" ∧
      (e.1 = text "system.disk.io" ∨ e.1 = text "system.disk.operations") ∧
      resourceAttributeKey e.1 (text "device") = text "system.device" := by decide +kernel
  obtain ⟨hnode, hprocess, hdisk, hdevice⟩ := hnames e he
  rw [readScope, if_neg hnode, if_neg hprocess, if_pos hdisk, hdevice]

end record

/-! ## The counters of an observation -/

/-- The counter that a sample reads, and its value. -/
def reading? : Sample → Option (StateKey × Nat)
  | .counter sample => some (sample.key, sample.value)
  | .gauge _ => none

variable {sample : CounterSample} {key : StateKey} {host : Option Bytes} {maxKeys : Nat}

theorem length_host_le : ∀ name ∈ host.map sanitizeString, name.length ≤ 256 := by
  intro name hname
  obtain ⟨raw, -, rfl⟩ := Option.map_eq_some_iff.mp hname
  exact length_sanitizeString_le raw

/-- The names and the states of the counters, with their values where there are any. -/
def ObservationValue.counters : ObservationValue → List ((Bytes × Bytes) × Option Nat)
  | .nodeCpu user system idle iowait steal _ _ => nodeCpuCounters.zip ([user, system, idle, iowait, steal].map some)
  | .nodeDiskIo _ reads writes read written => nodeDiskCounters.zip ([read, written, reads, writes].map some)
  | .process _ cpuTime _ _ _ _ _ => processCounters.zip [cpuTime]
  | .cgroupCpu _ usage user system periods throttled =>
    cgroupCpuCounters.zip [usage, user, system, throttled, periods]
  | _ => []

theorem counters_spec (v : ObservationValue) : ∀ e ∈ v.counters, e.1.1 ∈ counterNames ∧ e.1.2.length ≤ 256 := by
  have htables : ∀ table ∈ [nodeCpuCounters, nodeDiskCounters, processCounters, cgroupCpuCounters],
      ∀ e ∈ table, e.1 ∈ counterNames ∧ e.2.length ≤ 256 := by decide +kernel
  intro e he
  cases v with
  | nodeCpu | nodeDiskIo | process | cgroupCpu => exact htables _ (by simp) _ (of_mem_zip he).1
  | nodeMemory | nodeFilesystem | cgroupMemory | cgroupPids | cgroupFileDescriptors => cases he

def ObservationValue.scope : ObservationValue → Bytes
  | .nodeDiskIo device _ _ _ _ => device
  | .process pid _ _ _ _ _ _ => decimal pid
  | .cgroupCpu path _ _ _ _ _ => path
  | _ => []

/-- The sample of a counter, but for its unit. -/
def counterOf (host : Option Bytes) (o : Observation) (e : Bytes × Bytes) (value : Nat) : CounterSample :=
  let sample : CounterSample :=
    { key := .inScope host e.1 e.2 (fingerprint host o).value.scope, unit := [], value
      attributes := [(text "state", e.2)] }
  match o with
  | .nodeDiskIo o => { sample with attributes := [(text "state", e.2), (text "device", o.device)] }
  | .process o => { sample with process := some o.process }
  | .cgroupCpu o => { sample with cgroup := some o.cgroup }
  | _ => sample

def counter? : Sample → Option CounterSample
  | .counter sample => some { sample with unit := [] }
  | .gauge _ => none

@[simp] theorem filterMap_gaugeOf {unit : Bytes} {window : MetricAggregationWindow} {value : Option Int}
    {process : Option ProcessResourceContext} {cgroup : Option CgroupResourceContext} :
    (gaugeOf key unit window value process cgroup).filterMap counter? = [] := by
  refine filterMap_eq_nil_iff.mpr fun sample hsample => ?_
  obtain ⟨value, -, rfl⟩ := mem_map.mp hsample
  rfl

/-- The samples of an observation are its gauges and the counters of its fingerprint. -/
theorem filterMap_counter? (host : Option Bytes) (o : Observation) :
    (samples host o).filterMap counter? =
      (fingerprint host o).value.counters.flatMap fun e => e.2.toList.map (counterOf host o e.1) := by
  cases o with
  | nodeCpu o =>
    show List.filterMap _ (_ ++ _ ++ _) = _
    rw [filterMap_append, filterMap_append, filterMap_gaugeOf, filterMap_gaugeOf]
    rfl
  | nodeDiskIo o => rfl
  | process o =>
    show List.filterMap _ (_ ++ List.flatMap _ _) = _
    rw [filterMap_append, filterMap_flatMap]
    rcases hcpu : o.cpuTimeNanos with _ | value
    all_goals simp [fingerprint, ObservationValue.counters, ObservationValue.scope, processCounters, counter?,
      counterOf, StateKey.process, hcpu]
  | cgroupCpu o =>
    have hpart : ∀ (name state unit : Bytes) (value : Option Nat),
        (cgroupCounter host o.cgroup name state unit value).filterMap counter? =
          value.toList.map (counterOf host (.cgroupCpu o) (name, state)) := by
      intro name state unit value
      cases value <;> rfl
    show List.filterMap _ (_ ++ _) = _
    rw [filterMap_append, filterMap_flatMap, hpart]
    simp [hpart, fingerprint, ObservationValue.counters, cgroupCpuCounters]
  | nodeMemory o | nodeFilesystem o | cgroupMemory o | cgroupPids o | cgroupFileDescriptors o =>
    simp [samples, nodeMemoryMetrics, nodeFilesystemMetrics, cgroupMemoryMetrics, cgroupPidsMetrics, cgroupFdMetrics,
      cgroupGauges, counter?, fingerprint, ObservationValue.counters]

/-- The series of a sample's record tells which counter was sampled. -/
theorem readKey_counterMetric {observation : Observation}
    (h : Sample.counter sample ∈ samples (host.map sanitizeString) (sanitizeObservation observation))
    (delta : CounterDelta) : readKey (counterRecord (host.map sanitizeString) sample delta) = sample.key := by
  have hmem : { sample with unit := [] } ∈
      (samples (host.map sanitizeString) (sanitizeObservation observation)).filterMap counter? :=
    mem_filterMap.mpr ⟨_, h, rfl⟩
  rw [filterMap_counter?] at hmem
  obtain ⟨⟨e, value?⟩, he, hvalue⟩ := mem_flatMap.mp hmem
  obtain ⟨hname, hstate⟩ := counters_spec _ _ he
  obtain ⟨value, -, heq⟩ := mem_map.mp hvalue
  obtain ⟨key, unit, value, process, cgroup, attributes⟩ := sample
  cases observation with
  | nodeCpu o =>
    cases heq
    obtain ⟨state, -, rfl⟩ := mem_map.mp (of_mem_zip he).1
    exact readKey_of_scope (d := none) rfl hname rfl hstate nofun length_host_le rfl (if_pos rfl)
  | nodeDiskIo o =>
    cases heq
    have hdevice : ∀ d ∈ some (sanitizeString o.device), d.length ≤ 256 := by
      rintro d ⟨⟩
      exact length_sanitizeString_le o.device
    exact readKey_of_scope rfl hname rfl hstate hdevice length_host_le rfl
      ((readScope_disk (of_mem_zip he).1 _).trans (readText_device rfl hname rfl hstate hdevice rfl))
  | process o =>
    cases heq
    cases mem_singleton.mp (of_mem_zip he).1
    exact readKey_of_scope (d := none) rfl hname rfl hstate nofun length_host_le rfl
      (readScope_process rfl (p := sanitizeProcessResourceContext o.process) rfl rfl)
  | cgroupCpu o =>
    cases heq
    exact readKey_of_scope (d := none) rfl hname rfl hstate nofun length_host_le rfl
      (readScope_cgroup rfl (of_mem_zip he).1 (length_sanitizeString_le o.cgroup.cgroupPath) rfl)
  | nodeMemory o | nodeFilesystem o | cgroupMemory o | cgroupPids o | cgroupFileDescriptors o => cases he

/-- The readings, as the fingerprint of the observation has them. -/
def ObservationFingerprint.readings (f : ObservationFingerprint) : List (StateKey × Nat) :=
  f.value.counters.flatMap fun e => e.2.toList.map fun value => (.inScope f.host e.1.1 e.1.2 f.value.scope, value)

theorem filterMap_reading? (host : Option Bytes) (o : Observation) :
    (samples host o).filterMap reading? = (fingerprint host o).readings := by
  have hreading : reading? = fun sample => (counter? sample).map fun c => (c.key, c.value) := by
    funext sample
    cases sample <;> rfl
  rw [hreading, ← map_filterMap, filterMap_counter?, map_flatMap, ObservationFingerprint.readings]
  refine flatMap_congr fun e _ => ?_
  rw [map_map]
  cases o <;> rfl

/-! ## Readings of a counter -/

/-- The differences of readings that follow on each other. -/
def increments : List Nat → List Nat
  | a :: b :: rest => (b - a) :: increments (b :: rest)
  | _ => []

/-- By how much a counter has grown each time it grew. -/
def growths (readings : List Nat) : List Nat := (increments readings).filter (0 < ·)

theorem increments_isPrefix (readings more : List Nat) : increments readings <+: increments (readings ++ more) := by
  induction readings using increments.induct with
  | case1 a b rest ih => exact (cons_prefix_cons.mpr ⟨rfl, ih⟩)
  | case2 readings hshort =>
    match readings with
    | [] => exact nil_prefix
    | [a] => exact nil_prefix
    | a :: b :: rest => exact absurd rfl (hshort a b rest)

theorem increments_concat {readings : List Nat} {last : Nat} (h : readings.getLast? = some last) (value : Nat) :
    increments (readings ++ [value]) = increments readings ++ [value - last] := by
  induction readings using increments.induct with
  | case1 a b rest ih =>
    rw [getLast?_cons_cons] at h
    exact congrArg _ (ih h)
  | case2 readings hshort =>
    match readings with
    | [] => cases h
    | [a] =>
      cases h
      rfl
    | a :: b :: rest => exact absurd rfl (hshort a b rest)

theorem growths_isPrefix (readings more : List Nat) : growths readings <+: growths (readings ++ more) :=
  (increments_isPrefix readings more).filter _

theorem growths_concat {readings : List Nat} {last value : Nat} (h : readings.getLast? = some last)
    (hlt : last < value) : growths (readings ++ [value]) = growths readings ++ [value - last] := by
  have hpos : 0 < value - last := Nat.sub_pos_of_lt hlt
  rw [growths, increments_concat h, filter_append, growths, filter_cons_of_pos (by simpa using hpos), filter_nil]

/-- The counter never falls, and where it grows it grows by no less than before. -/
def Steady (readings : List Nat) : Prop := readings.Pairwise (· ≤ ·) ∧ (growths readings).Pairwise (· ≤ ·)

instance (readings : List Nat) : Decidable (Steady readings) :=
  inferInstanceAs (Decidable (_ ∧ _))

theorem Steady.of_append {readings more : List Nat} (h : Steady (readings ++ more)) : Steady readings :=
  ⟨(pairwise_append.mp h.1).1, h.2.sublist (growths_isPrefix readings more).sublist⟩

def readingsOf (key : StateKey) (past : List (StateKey × Nat)) : List Nat :=
  past.filterMap fun r => if r.1 = key then some r.2 else none

theorem readingsOf_append (key : StateKey) (past more : List (StateKey × Nat)) :
    readingsOf key (past ++ more) = readingsOf key past ++ readingsOf key more := filterMap_append

theorem readingsOf_self (key : StateKey) (past : List (StateKey × Nat)) (value : Nat) :
    readingsOf key (past ++ [(key, value)]) = readingsOf key past ++ [value] := by
  simp [readingsOf]

theorem readingsOf_of_ne {k : StateKey} (h : key ≠ k) (past : List (StateKey × Nat)) (value : Nat) :
    readingsOf key (past ++ [(k, value)]) = readingsOf key past := by
  simp [readingsOf, h.symm]

/-- A condition on the counters that are read is one on all counters. -/
theorem steady_iff {past : List (StateKey × Nat)} :
    (∀ key, Steady (readingsOf key past)) ↔ ∀ key ∈ past.map Prod.fst, Steady (readingsOf key past) := by
  refine ⟨fun h key _ => h key, fun h key => ?_⟩
  by_cases hkey : key ∈ past.map Prod.fst
  · exact h key hkey
  · have hnone : readingsOf key past = [] := by
      refine filterMap_eq_nil_iff.mpr fun r hr => if_neg ?_
      rintro rfl
      exact hkey (mem_map_of_mem hr)
    rw [hnone]
    exact ⟨List.Pairwise.nil, List.Pairwise.nil⟩

/-! ## What one sample does -/

variable {timestamp : Nat}

theorem growth_of_counterDelta {k : StateKey} {value : Nat} {s : State} {delta : CounterDelta}
    (h : (counterDelta maxKeys k value timestamp s).1 = some delta) :
    ∃ previous, s.counters.lookup k = some previous ∧ previous.value < value ∧
      value - previous.value = delta.value := by
  unfold counterDelta at h
  rcases hlookup : s.counters.lookup k with _ | previous
  · rw [hlookup] at h
    cases h
  · rw [hlookup] at h
    dsimp only at h
    split at h
    · cases h
    · split at h
      next hpos =>
        cases h
        exact ⟨previous, rfl, by omega, rfl⟩
      · cases h

theorem lookup_evictFirst {m : SortedMap StateKey CounterState} {p : CounterState}
    (h : (evictFirst m).lookup key = some p) : m.lookup key = some p := by
  unfold evictFirst at h
  split at h
  · exact lookup_eq_some_iff.mpr (mem_of_mem_filter (lookup_eq_some_iff.mp h))
  · exact h

/-- A reading sets its counter, and leaves the others as they are or evicts them. -/
theorem lookup_counterDelta {k : StateKey} {value : Nat} {s : State} {p : CounterState}
    (h : (counterDelta maxKeys k value timestamp s).2.counters.lookup key = some p) :
    key = k ∧ p.value = value ∨ key ≠ k ∧ s.counters.lookup key = some p := by
  have hinsert : ∀ {m : SortedMap StateKey CounterState},
      (m.lookup key = some p → s.counters.lookup key = some p) →
      (m.insert k ⟨value, timestamp⟩).lookup key = some p →
        key = k ∧ p.value = value ∨ key ≠ k ∧ s.counters.lookup key = some p := by
    intro m hm h
    by_cases hkey : key = k
    · subst hkey
      rw [lookup_insert_self] at h
      cases h
      exact .inl ⟨rfl, rfl⟩
    · rw [lookup_insert_of_ne hkey] at h
      exact .inr ⟨hkey, hm h⟩
  simp only [counterDelta] at h
  split at h
  · split at h <;> exact hinsert id h
  next hnew =>
    simp only [insertBounded] at h
    split at h
    · split at h
      · have hbefore := lookup_evictFirst h
        refine .inr ⟨?_, hbefore⟩
        rintro rfl
        cases hnew.symm.trans hbefore
      · exact hinsert lookup_evictFirst h
    · exact hinsert id h

theorem updateMetricGauge_spec (host : Option Bytes) (sample : GaugeSample) (s : State) :
    (updateMetricGauge maxKeys host sample s).2.counters = s.counters ∧
      (updateMetricGauge maxKeys host sample s).2.seen = s.seen ∧
      ∀ signal ∈ (updateMetricGauge maxKeys host sample s).1, (formatOtelMetricRecord signal).kind ≠ .sum := by
  have hgauge : (formatOtelMetricRecord (gaugeMetric host sample)).kind ≠ .sum := by
    show OtelMetricKind.gauge ≠ .sum
    decide
  unfold updateMetricGauge
  split
  · split
    · refine ⟨rfl, rfl, fun signal hsignal => ?_⟩
      cases hsignal
    · refine ⟨rfl, rfl, fun signal hsignal => ?_⟩
      obtain rfl := Option.some.inj hsignal
      exact hgauge
  · refine ⟨rfl, rfl, fun signal hsignal => ?_⟩
    obtain ⟨_, -, rfl⟩ := Option.map_eq_some_iff.mp hsignal
    exact hgauge

theorem counterDelta_seen (k : StateKey) (value : Nat) (s : State) :
    (counterDelta maxKeys k value timestamp s).2.seen = s.seen := by
  unfold counterDelta
  dsimp only
  split
  · split <;> rfl
  · rfl

theorem foldl_seen (ss : List Sample) (acc : List (SignalEnvelope MetricPayload) × State) :
    (ss.foldl (observeSample maxKeys host timestamp) acc).2.seen = acc.2.seen := by
  refine List.foldlRecOn (motive := fun acc' : List (SignalEnvelope MetricPayload) × State =>
    acc'.2.seen = acc.2.seen) ss _ rfl ?_
  intro acc' h sample _
  cases sample with
  | counter c => exact (counterDelta_seen _ _ _).trans h
  | gauge g => exact (updateMetricGauge_spec host g acc'.2).2.1.trans h

/-! ## Runs -/

section runs

variable [Json.Serializer] {past : List (StateKey × Nat)} {exported : List OtelMetricRecord} {s : State}

/-- What the generator remembers and has exported behind the readings of the `past`. -/
structure Inv (past : List (StateKey × Nat)) (exported : List OtelMetricRecord) (s : State) : Prop where
  stored : ∀ key p, s.counters.lookup key = some p → (readingsOf key past).getLast? = some p.value
  grown : ∀ r ∈ exported, r.kind = .sum → ∃ d, r.value = .u64 d ∧ d ∈ growths (readingsOf (readKey r) past)
  cumulative : Cumulative exported

theorem Inv.grown_append (h : Inv past exported s) (more : List (StateKey × Nat)) :
    ∀ r ∈ exported, r.kind = .sum → ∃ d, r.value = .u64 d ∧ d ∈ growths (readingsOf (readKey r) (past ++ more)) := by
  intro r hr hsum
  obtain ⟨d, hd, hmem⟩ := h.grown r hr hsum
  rw [readingsOf_append]
  exact ⟨d, hd, (growths_isPrefix _ _).subset hmem⟩

theorem Inv.emit {record : OtelMetricRecord} (h : Inv past exported s) (hkind : record.kind ≠ .sum) :
    Inv past (exported ++ [record]) s := by
  refine ⟨h.stored, forall_mem_append.mpr ⟨h.grown, forall_mem_singleton.mpr fun hsum => ?_⟩,
    pairwise_append.mpr ⟨h.cumulative, pairwise_singleton _ _, ?_⟩⟩
  · exact absurd hsum hkind
  · intro a _ b hb _ x _ y hy
    cases mem_singleton.mp hb
    exact absurd (cumulativeSum?_eq_some_iff.mp hy).1 hkind

/-- A reading that is skipped is one that was made before, and nothing has grown since. -/
theorem Inv.skip (h : Inv past exported s) {r : StateKey × Nat} (hr : r ∈ past)
    (hsteady : Steady (readingsOf r.1 (past ++ [r]))) : Inv (past ++ [r]) exported s := by
  obtain ⟨k, value⟩ := r
  refine ⟨?_, h.grown_append _, h.cumulative⟩
  intro key p hlookup
  have hlast := h.stored key p hlookup
  by_cases hkey : key = k
  · subst hkey
    have hrising := hsteady.1
    rw [readingsOf_self] at hrising ⊢
    have hold : value ∈ readingsOf key past := mem_filterMap.mpr ⟨_, hr, if_pos rfl⟩
    obtain ⟨hpast, -, hle⟩ := pairwise_append.mp hrising
    have hlow := hle p.value (mem_of_getLast? hlast) value mem_cons_self
    obtain ⟨front, hfront⟩ := getLast?_eq_some_iff.mp hlast
    rw [hfront] at hpast hold
    have hhigh : value ≤ p.value := by
      rcases mem_append.mp hold with hold | hold
      · exact (pairwise_append.mp hpast).2.2 value hold p.value mem_cons_self
      · exact Nat.le_of_eq (mem_singleton.mp hold)
    rw [getLast?_concat, Nat.le_antisymm hhigh hlow]
  · rw [readingsOf_of_ne hkey, hlast]

/-- A growth is exported behind those of its counter, and is no less than they are. -/
theorem Inv.grow {key : StateKey} {previous : CounterState} {value : Nat} {record : OtelMetricRecord}
    (h : Inv past exported s) (hlookup : s.counters.lookup key = some previous) (hlt : previous.value < value)
    (hsteady : Steady (readingsOf key (past ++ [(key, value)]))) (hkey : readKey record = key)
    (hvalue : record.value = .u64 (value - previous.value)) :
    (∀ r ∈ exported ++ [record], r.kind = .sum →
      ∃ d, r.value = .u64 d ∧ d ∈ growths (readingsOf (readKey r) (past ++ [(key, value)]))) ∧
      Cumulative (exported ++ [record]) := by
  have hgrowths : growths (readingsOf key (past ++ [(key, value)])) =
      growths (readingsOf key past) ++ [value - previous.value] := by
    rw [readingsOf_self, growths_concat (h.stored key previous hlookup) hlt]
  refine ⟨forall_mem_append.mpr ⟨h.grown_append _, forall_mem_singleton.mpr fun _ => ?_⟩,
    pairwise_append.mpr ⟨h.cumulative, pairwise_singleton _ _, ?_⟩⟩
  · rw [hkey, hgrowths]
    exact ⟨_, hvalue, mem_append_right _ mem_cons_self⟩
  · intro a ha b hb hseries x hx y hy
    cases mem_singleton.mp hb
    obtain ⟨hsum, rfl⟩ := cumulativeSum?_eq_some_iff.mp hx
    obtain ⟨-, rfl⟩ := cumulativeSum?_eq_some_iff.mp hy
    obtain ⟨d, hd, hmem⟩ := h.grown a ha hsum
    rw [readKey_of_seriesKey hseries, hkey] at hmem
    have hgrowing := hsteady.2
    rw [hgrowths] at hgrowing
    rw [hd, hvalue]
    exact toInt_numberValue_mono ((pairwise_append.mp hgrowing).2.2 d hmem _ mem_cons_self)

theorem Inv.observe {acc : List (SignalEnvelope MetricPayload) × State} {sample : Sample}
    (h : Inv past (exported ++ acc.1.map formatOtelMetricRecord) acc.2)
    (hread : ∀ c, sample = .counter c → ∀ delta, readKey (counterRecord host c delta) = c.key)
    (hsteady : ∀ key, Steady (readingsOf key (past ++ (reading? sample).toList))) :
    Inv (past ++ (reading? sample).toList)
      (exported ++ (observeSample maxKeys host timestamp acc sample).1.map formatOtelMetricRecord)
      (observeSample maxKeys host timestamp acc sample).2 := by
  cases sample with
  | gauge sample =>
    obtain ⟨hcounters, -, hkind⟩ := @updateMetricGauge_spec maxKeys host sample acc.2
    have hkept : Inv past (exported ++ acc.1.map formatOtelMetricRecord)
        (updateMetricGauge maxKeys host sample acc.2).2 := ⟨hcounters ▸ h.stored, h.grown, h.cumulative⟩
    show Inv (past ++ []) (exported ++ List.map _ (acc.1 ++ _)) _
    rw [append_nil, map_append, ← append_assoc]
    rcases hsignal : (updateMetricGauge maxKeys host sample acc.2).1 with _ | signal
    · rw [Option.toList_none, map_nil, append_nil]
      exact hkept
    · exact hkept.emit (hkind signal hsignal)
  | counter c =>
    show Inv (past ++ [(c.key, c.value)]) (exported ++ List.map _ (acc.1 ++ _))
      (counterDelta maxKeys c.key c.value timestamp acc.2).2
    have hsteady : Steady (readingsOf c.key (past ++ [(c.key, c.value)])) := hsteady c.key
    rw [map_append, ← append_assoc]
    have hstored : ∀ key p, (counterDelta maxKeys c.key c.value timestamp acc.2).2.counters.lookup key = some p →
        (readingsOf key (past ++ [(c.key, c.value)])).getLast? = some p.value := by
      intro key p hlookup
      rcases lookup_counterDelta hlookup with ⟨rfl, hvalue⟩ | ⟨hkey, hbefore⟩
      · rw [readingsOf_self, getLast?_concat, hvalue]
      · rw [readingsOf_of_ne hkey]
        exact h.stored key p hbefore
    rcases hdelta : (counterDelta maxKeys c.key c.value timestamp acc.2).1 with _ | delta
    · rw [Option.map_none, Option.toList_none, map_nil, append_nil]
      exact ⟨hstored, h.grown_append _, h.cumulative⟩
    · obtain ⟨previous, hlookup, hlt, hvalue⟩ := growth_of_counterDelta hdelta
      obtain ⟨hgrown, hcumulative⟩ :=
        h.grow hlookup hlt hsteady (hread c rfl delta) (congrArg OtelMetricValue.u64 hvalue.symm)
      exact ⟨hstored, hgrown, hcumulative⟩

theorem Inv.samples {ss : List Sample} {acc : List (SignalEnvelope MetricPayload) × State}
    (h : Inv past (exported ++ acc.1.map formatOtelMetricRecord) acc.2)
    (hread : ∀ c, Sample.counter c ∈ ss → ∀ delta, readKey (counterRecord host c delta) = c.key)
    (hsteady : ∀ key, Steady (readingsOf key (past ++ ss.filterMap reading?))) :
    Inv (past ++ ss.filterMap reading?)
      (exported ++ (ss.foldl (observeSample maxKeys host timestamp) acc).1.map formatOtelMetricRecord)
      (ss.foldl (observeSample maxKeys host timestamp) acc).2 := by
  induction ss generalizing past acc with
  | nil =>
    rw [filterMap_nil, append_nil]
    exact h
  | cons sample ss ih =>
    have hsplit : past ++ (sample :: ss).filterMap reading? =
        past ++ (reading? sample).toList ++ ss.filterMap reading? := by
      rw [append_assoc]
      cases hsample : reading? sample <;> simp [hsample]
    rw [hsplit] at hsteady ⊢
    refine ih (h.observe (fun c hc => hread c (hc ▸ mem_cons_self)) fun key => ?_)
      (fun c hc => hread c (mem_cons_of_mem _ hc)) hsteady
    have hkey := hsteady key
    rw [readingsOf_append] at hkey
    exact hkey.of_append

theorem Inv.skips {more : List (StateKey × Nat)} (h : Inv past exported s) (hmore : more ⊆ past)
    (hsteady : ∀ key, Steady (readingsOf key (past ++ more))) : Inv (past ++ more) exported s := by
  induction more generalizing past with
  | nil =>
    rw [append_nil]
    exact h
  | cons r more ih =>
    rw [append_cons] at hsteady ⊢
    obtain ⟨hr, hrest⟩ := cons_subset.mp hmore
    refine ih (h.skip hr ?_) (fun _ hr => mem_append_left _ (hrest hr)) hsteady
    have hkey := hsteady r.1
    rw [readingsOf_append] at hkey
    exact hkey.of_append

end runs

structure Input where
  source : Bytes
  host : Option Bytes
  observation : Observation

def Input.signal (input : Input) : SignalEnvelope Observation :=
  observationEnvelope input.source input.host input.observation

def Input.readings (input : Input) : List (StateKey × Nat) :=
  (samples input.signal.host input.signal.payload).filterMap reading?

structure Run where
  generator : State := {}
  exported : List OtelMetricRecord := []

variable (maxKeys : Nat)

def Run.step (run : Run) (input : Input) : Run :=
  let r := outputsForSignal maxKeys input.signal run.generator
  { generator := r.2
    exported := run.exported ++ r.1.map formatOtelMetricRecord }

section

variable [Json.Serializer]

/-- What a run remembers of the observations it has seen are readings of the past. -/
structure Run.Inv (past : List (StateKey × Nat)) (run : Run) : Prop where
  seen : ∀ f ∈ run.generator.seen.insertionOrder, f.readings ⊆ past
  inv : Resource.Inv past run.exported run.generator

theorem Run.Inv.step {past : List (StateKey × Nat)} {run : Run} {input : Input} (h : run.Inv past)
    (hsteady : ∀ key, Steady (readingsOf key (past ++ input.readings))) :
    (run.step maxKeys input).Inv (past ++ input.readings) := by
  have hreadings : input.readings = (fingerprint input.signal.host input.signal.payload).readings :=
    filterMap_reading? _ _
  have hold : ∀ f ∈ run.generator.seen.insertionOrder, f.readings ⊆ past ++ input.readings :=
    fun f hf _ hr => mem_append_left _ (h.seen f hf hr)
  unfold Run.step outputsForSignal BoundedFingerprints.insertIfNew
  dsimp only
  split
  next hseen =>
    rw [if_neg Bool.false_ne_true, map_nil, append_nil]
    exact ⟨hold, h.inv.skips (hreadings ▸ h.seen _ hseen) hsteady⟩
  next =>
    rw [if_pos rfl]
    refine ⟨?_, ?_⟩
    · rw [foldl_seen]
      refine forall_mem_append.mpr ⟨fun f hf => hold f (mem_of_mem_drop hf), forall_mem_singleton.mpr ?_⟩
      rw [← hreadings]
      exact subset_append_right _ _
    · refine Inv.samples ?_ (fun c hc delta => readKey_counterMetric hc delta) hsteady
      rw [map_nil, append_nil]
      exact ⟨h.inv.stored, h.inv.grown, h.inv.cumulative⟩

/-- **Where no counter falls and none grows by less than before, the exported sums are cumulative.** -/
theorem cumulative_of_steady (inputs : List Input)
    (h : ∀ key, Steady (readingsOf key (inputs.flatMap Input.readings))) :
    Cumulative (inputs.foldl (Run.step maxKeys) {}).exported := by
  suffices hinv : (inputs.foldl (Run.step maxKeys) {}).Inv (inputs.flatMap Input.readings) from hinv.inv.cumulative
  induction inputs using List.reverseRecOn with
  | nil => exact ⟨nofun, nofun, nofun, List.Pairwise.nil⟩
  | append_singleton inputs input ih =>
    rw [flatMap_append, flatMap_singleton] at h ⊢
    rw [foldl_append]
    refine (ih fun key => ?_).step maxKeys h
    have hkey := h key
    rw [readingsOf_append] at hkey
    exact hkey.of_append

end

/-! ## A counter that slows down -/

section

attribute [local instance] Json.spelled

/-- The CPU time of a node, of which only the user part changes. -/
def userTime (timestampUnixNanos userNanos : Nat) : Input :=
  { source := text "source", host := some (text "node-a")
    observation := .nodeCpu
      { timestampUnixNanos, window := ⟨timestampUnixNanos, timestampUnixNanos⟩, userNanos, systemNanos := 0
        idleNanos := 0, iowaitNanos := 0, stealNanos := 0, runnableTasks := none, blockedTasks := none } }

def slowing : List Input := [userTime 1 0, userTime 2 100, userTime 3 150]

/-- The user time of 0, 100 and 150 is exported as 100 and then 50. -/
theorem not_cumulative_slowing :
    (slowing.foldl (Run.step 4096) {}).exported.map (fun r => (r.name, r.value)) =
        [(text "system.cpu.time", .u64 100), (text "system.cpu.time", .u64 50)] ∧
      (slowing.foldl (Run.step 4096) {}).generator.counters.entries.length = 5 ∧
      ¬ Cumulative (slowing.foldl (Run.step 4096) {}).exported := by
  decide +kernel

theorem cumulative_speeding :
    Cumulative ([userTime 1 0, userTime 2 100, userTime 3 250].foldl (Run.step 4096) {}).exported :=
  cumulative_of_steady 4096 _ (steady_iff.mpr (by decide +kernel))

end

end ENavigator.Metrics.Resource
