import ENavigator.Lib.Doubles
import ENavigator.Lib.JsonText
import ENavigator.Signals.Metric

/-!
# Exported metric records

How a metric signal becomes a record of the exporter and how a record is encoded: the attributes of its resource and of
its data point, the key of its series, the coalescing of a batch, and the kind of data it is exported as.

A series is the metric's name and unit with all exported attributes (`metricSeriesKey_eq_iff`).
-/

namespace ENavigator.Metrics

open Signals List SortedMap
open scoped ByteOrder

variable (host : Option Bytes)

inductive OtelMetricKind | sum | gauge | histogramSummary
  deriving DecidableEq, Repr

inductive OtelMetricValue
  | u64 (value : Nat)
  | i64 (value : Int)
  | summary (count sumNanos minNanos maxNanos : Nat)
  deriving DecidableEq, Repr

structure OtelMetricRecord where
  name : Bytes
  unit : Bytes
  kind : OtelMetricKind
  value : OtelMetricValue
  window : MetricAggregationWindow
  resource : Json.Object
  attributes : Json.Object
  deriving DecidableEq

def maxMetricStringBytes : Nat := 256
def maxMetricAttributeKeyBytes : Nat := 128
def maxMetricAttributes : Nat := 16

def boundedMetricString (value : Bytes) : Bytes := truncateUtf8 value maxMetricStringBytes
def boundedJsonString (value : Bytes) : Json.Leaf := .string (truncateUtf8 value maxMetricStringBytes)

theorem boundedJsonString_of_short {value : Bytes} (h : value.length ≤ 256) : boundedJsonString value = .string value :=
  congrArg Json.Leaf.string (truncateUtf8_of_length_le h)

/-! ## Resources -/

def insertResourceString (key value : Bytes) (resource : Json.Object) : Json.Object :=
  resource.insert key (boundedJsonString value)

def insertOptional {α : Type} (insert : α → Json.Object → Json.Object) (value : Option α) (object : Json.Object) :
    Json.Object :=
  match value with
  | some value => insert value object
  | none => object

def insertContainer (container : ContainerContext) (resource : Json.Object) : Json.Object :=
  insertOptional (insertResourceString (text "container.runtime")) container.runtime
    (insertResourceString (text "container.id") container.containerId resource)

def insertKubernetes (kubernetes : KubernetesContext) (resource : Json.Object) : Json.Object :=
  insertOptional (insertResourceString (text "k8s.node.name")) kubernetes.nodeName
    (insertOptional (insertResourceString (text "k8s.container.name")) kubernetes.containerName
      (insertOptional (insertResourceString (text "k8s.pod.uid")) kubernetes.podUid
        (insertResourceString (text "k8s.pod.name") kubernetes.podName
          (insertResourceString (text "k8s.namespace.name") kubernetes.namespaceName resource))))

def resourceAttributes (container : Option ContainerContext) (kubernetes : Option KubernetesContext) : Json.Object :=
  insertOptional insertKubernetes kubernetes
    (insertOptional insertContainer container
      (insertOptional (insertResourceString (text "host.name")) host SortedMap.empty))

/-- The metric's own host name takes the place of the envelope's. -/
def resourceMetricResourceAttributes (resource : ResourceContext) : Json.Object :=
  insertOptional (insertResourceString (text "host.name")) resource.hostName
    (resourceAttributes host resource.container resource.kubernetes)

def identityKeys : List Bytes :=
  [text "host.name", text "container.id", text "container.runtime", text "k8s.namespace.name", text "k8s.pod.name",
    text "k8s.pod.uid", text "k8s.container.name", text "k8s.node.name"]

def mirrorKey (resource attributes : Json.Object) (key : Bytes) : Json.Object :=
  match resource.lookup key with
  | some value => if key ∈ attributes.keys then attributes else attributes.insert key value
  | none => attributes

def mirrorMetricIdentityAttributes (record : OtelMetricRecord) : OtelMetricRecord :=
  { record with attributes := identityKeys.foldl (mirrorKey record.resource) record.attributes }

/-! ### What a resource says -/

section lookups

variable {key : Bytes} {object : Json.Object}

theorem lookup_insertOptional_of_same {α : Type} {insert : α → Json.Object → Json.Object}
    (h : ∀ value object, (insert value object).lookup key = object.lookup key) (value : Option α)
    (object : Json.Object) : (insertOptional insert value object).lookup key = object.lookup key := by
  cases value with
  | none => rfl
  | some value => exact h value object

theorem lookup_insertResourceString_of_ne {name : Bytes} (h : key ≠ name) (value : Bytes) (object : Json.Object) :
    (insertResourceString name value object).lookup key = object.lookup key :=
  lookup_insert_of_ne h _

/-- Entries of which some are there, the last first. -/
def insertEntries (entries : List (Bytes × Option Json.Leaf)) (object : Json.Object) : Json.Object :=
  entries.foldr (fun e => insertOptional (fun leaf object => object.insert e.1 leaf) e.2) object

section entries

variable {entries : List (Bytes × Option Json.Leaf)}

theorem lookup_insertEntries_of_notMem (h : key ∉ entries.map Prod.fst) :
    (insertEntries entries object).lookup key = object.lookup key := by
  induction entries with
  | nil => rfl
  | cons e entries ih =>
    rw [map_cons, mem_cons, not_or] at h
    exact (lookup_insertOptional_of_same (fun _ _ => lookup_insert_of_ne h.1 _) _ _).trans (ih h.2)

theorem lookup_insertEntries (hdistinct : (entries.map Prod.fst).Nodup) {leaf : Option Json.Leaf}
    (h : (key, leaf) ∈ entries) (hnone : object.lookup key = none) :
    (insertEntries entries object).lookup key = leaf := by
  induction entries with
  | nil => cases h
  | cons e entries ih =>
    rw [map_cons, nodup_cons] at hdistinct
    rcases mem_cons.mp h with rfl | h
    · have hrest := (lookup_insertEntries_of_notMem hdistinct.1).trans hnone
      cases leaf with
      | none => exact hrest
      | some leaf => exact lookup_insert_self _ _ _
    · have hne : key ≠ e.1 := by
        rintro rfl
        exact hdistinct.1 (mem_map.mpr ⟨_, h, rfl⟩)
      exact (lookup_insertOptional_of_same (fun _ _ => lookup_insert_of_ne hne _) _ _).trans
        (ih hdistinct.2 h)

end entries

def containerKeys : List Bytes := [text "container.id", text "container.runtime"]

def kubernetesKeys : List Bytes :=
  [text "k8s.namespace.name", text "k8s.pod.name", text "k8s.pod.uid", text "k8s.container.name", text "k8s.node.name"]

def kubernetesEntries (k : KubernetesContext) : List (Bytes × Option Json.Leaf) :=
  [(text "k8s.node.name", k.nodeName.map boundedJsonString),
    (text "k8s.container.name", k.containerName.map boundedJsonString),
    (text "k8s.pod.uid", k.podUid.map boundedJsonString), (text "k8s.pod.name", some (boundedJsonString k.podName)),
    (text "k8s.namespace.name", some (boundedJsonString k.namespaceName))]

theorem nodup_kubernetesEntries (k : KubernetesContext) : ((kubernetesEntries k).map Prod.fst).Nodup := by
  have hkeys : kubernetesKeys.reverse.Nodup := by decide +kernel
  exact hkeys

theorem insertContainer_eq (container : ContainerContext) (object : Json.Object) :
    insertContainer container object =
      insertEntries [(text "container.runtime", container.runtime.map boundedJsonString),
        (text "container.id", some (boundedJsonString container.containerId))] object := by
  unfold insertContainer
  cases container.runtime <;> rfl

theorem insertKubernetes_eq (k : KubernetesContext) (object : Json.Object) :
    insertKubernetes k object = insertEntries (kubernetesEntries k) object := by
  unfold insertKubernetes kubernetesEntries
  cases k.nodeName <;> cases k.containerName <;> cases k.podUid <;> rfl

theorem lookup_insertContainer_of_notMem (h : key ∉ containerKeys) (container : ContainerContext)
    (object : Json.Object) : (insertContainer container object).lookup key = object.lookup key := by
  rw [insertContainer_eq]
  exact lookup_insertEntries_of_notMem fun hmem => h (mem_reverse.mp hmem)

theorem lookup_insertContainer_id (container : ContainerContext) (object : Json.Object) :
    (insertContainer container object).lookup (text "container.id") =
      some (boundedJsonString container.containerId) := by
  unfold insertContainer
  rw [lookup_insertOptional_of_same (lookup_insertResourceString_of_ne (by decide +kernel))]
  exact lookup_insert_self _ _ _

theorem lookup_insertKubernetes_of_notMem (h : key ∉ kubernetesKeys) (kubernetes : KubernetesContext)
    (object : Json.Object) : (insertKubernetes kubernetes object).lookup key = object.lookup key := by
  rw [insertKubernetes_eq]
  exact lookup_insertEntries_of_notMem fun hmem => h (mem_reverse.mp hmem)

theorem lookup_resourceAttributes_host (container : Option ContainerContext) (kubernetes : Option KubernetesContext) :
    (resourceAttributes host container kubernetes).lookup (text "host.name") = host.map boundedJsonString := by
  unfold resourceAttributes
  rw [lookup_insertOptional_of_same (lookup_insertKubernetes_of_notMem (by decide +kernel)),
    lookup_insertOptional_of_same (lookup_insertContainer_of_notMem (by decide +kernel))]
  cases host with
  | none => rfl
  | some host => exact lookup_insert_self _ _ _

theorem lookup_mirrorKey_of_ne {name : Bytes} (h : key ≠ name) (resource attributes : Json.Object) :
    (mirrorKey resource attributes name).lookup key = attributes.lookup key := by
  unfold mirrorKey
  split
  · split
    · rfl
    · exact lookup_insert_of_ne h _
  · rfl

theorem lookup_mirror_of_notMem (h : key ∉ identityKeys) (record : OtelMetricRecord) :
    (mirrorMetricIdentityAttributes record).attributes.lookup key = record.attributes.lookup key := by
  refine List.foldlRecOn
    (motive := fun attributes : Json.Object => attributes.lookup key = record.attributes.lookup key)
    identityKeys _ rfl ?_
  intro attributes hattributes name hname
  have hne : key ≠ name := by
    rintro rfl
    exact h hname
  rw [lookup_mirrorKey_of_ne hne]
  exact hattributes

end lookups

/-! ## Data point attributes -/

def insertAttributeString (key value : Bytes) (attributes : Json.Object) : Json.Object :=
  attributes.insert (truncateUtf8 key maxMetricAttributeKeyBytes) (boundedJsonString value)

def protocolName : NetworkProtocol → Bytes
  | .tcp => text "tcp"
  | .udp => text "udp"

def flowDirectionName : NetworkFlowDirection → Bytes
  | .egress => text "egress"
  | .ingress => text "ingress"
  | .unknown => text "unknown"

def addressFamilyName : NetworkAddressFamily → Bytes
  | .ipv4 => text "ipv4"
  | .ipv6 => text "ipv6"

/-- The variant's name in lower case. -/
def responseCodeName : DnsResponseCode → Bytes
  | .noError => text "noerror"
  | .nxDomain => text "nxdomain"
  | .servFail => text "servfail"
  | .refused => text "refused"
  | .other => text "other"

def networkAttributes (protocol : Option NetworkProtocol) (addressFamily : Option NetworkAddressFamily)
    (remoteAddress : Option Bytes) (remotePort : Option Nat) : Json.Object :=
  insertOptional (fun port object => object.insert (text "server.port") (.number port)) remotePort
    (insertOptional (insertAttributeString (text "server.address")) remoteAddress
      (insertOptional (fun family object => object.insert (text "network.type") (.string (addressFamilyName family)))
        addressFamily
        (insertOptional (fun protocol object => object.insert (text "net.transport") (.string (protocolName protocol)))
          protocol SortedMap.empty)))

def dnsAttributes (queryName : Option Bytes) (responseCode : Option DnsResponseCode) : Json.Object :=
  insertOptional (fun code object => object.insert (text "dns.response_code") (.string (responseCodeName code)))
    responseCode
    (insertOptional (insertAttributeString (text "dns.question.name")) queryName SortedMap.empty)

def metricAttributeAllowed (key : Bytes) : Bool := !isSensitiveMetricAttributeKey key

def resourceAttributeKey (metricName key : Bytes) : Bytes :=
  if key = text "state" ∧ (metricName = text "system.cpu.time" ∨ metricName = text "container.cpu.time") then
    text "cpu.mode"
  else if key = text "state" ∧ metricName = text "process.cpu.time" then text "process.cpu.state"
  else if key = text "state" ∧ (metricName = text "system.disk.io" ∨ metricName = text "system.disk.operations") then
    text "disk.io.direction"
  else if key = text "device" ∧ (metricName = text "system.disk.io" ∨ metricName = text "system.disk.operations") then
    text "system.device"
  else if key = text "mountpoint" ∧ (metricName = text "system.filesystem.usage" ∨
      metricName = text "system.filesystem.available" ∨ metricName = text "system.filesystem.limit") then
    text "system.filesystem.mountpoint"
  else key

def insertProcess (process : ProcessResourceContext) (attributes : Json.Object) : Json.Object :=
  (insertOptional (fun ppid object => object.insert (text "process.parent_pid") (.number ppid)) process.ppid
    (attributes.insert (text "process.pid") (.number process.pid))).insert (text "process.command")
      (boundedJsonString process.command)

def insertCgroup (cgroup : CgroupResourceContext) (attributes : Json.Object) : Json.Object :=
  attributes.insert (text "linux.cgroup.path") (boundedJsonString cgroup.cgroupPath)

def insertMetricAttribute (metricName : Bytes) (attributes : Json.Object) (item : ResourceMetricAttribute) :
    Json.Object :=
  if metricAttributeAllowed item.key then
    insertAttributeString (resourceAttributeKey metricName item.key) item.value attributes
  else attributes

def resourceMetricAttributes (metricName : Bytes) (attributes : List ResourceMetricAttribute)
    (process : Option ProcessResourceContext) (cgroup : Option CgroupResourceContext) : Json.Object :=
  insertOptional insertCgroup cgroup
    (insertOptional insertProcess process
      ((attributes.take maxMetricAttributes).foldl (insertMetricAttribute metricName) SortedMap.empty))

def insertPeerAttributes (side : Bytes) (peer : NetworkPeerIdentity) (attributes : Json.Object) : Json.Object :=
  insertAttributeString (side ++ text ".k8s.workload.kind") peer.ownerType
    (insertAttributeString (side ++ text ".k8s.workload.name") peer.ownerName
      (insertAttributeString (side ++ text ".k8s.namespace.name") peer.namespaceName attributes))

/-! ## Records -/

def networkCounterRecord (metric : NetworkCounterMetric) : OtelMetricRecord :=
  { name := boundedMetricString metric.metricName
    unit := boundedMetricString metric.unit
    kind := .sum
    value := .u64 metric.value
    window := metric.window
    resource := resourceAttributes host metric.container metric.kubernetes
    attributes :=
      insertOptional (fun errno object => object.insert (text "error.type") (.number errno)) metric.errno
        (networkAttributes metric.protocol metric.addressFamily metric.remoteAddress metric.remotePort) }

def networkPeerFlowRecord (metric : NetworkPeerFlowMetric) : OtelMetricRecord :=
  { name := boundedMetricString metric.metricName
    unit := boundedMetricString metric.unit
    kind := .sum
    value := .u64 metric.value
    window := metric.window
    resource := resourceAttributes host none none
    attributes :=
      (insertPeerAttributes (text "destination") metric.destination
        (insertPeerAttributes (text "source") metric.source
          (insertAttributeString (text "network.type") (addressFamilyName metric.addressFamily)
            (insertAttributeString (text "network.flow.direction") (flowDirectionName metric.direction)
              (insertAttributeString (text "network.transport") (protocolName metric.protocol)
                SortedMap.empty))))).insert (text "otel.metric.overflow") (.bool metric.overflow) }

def networkDurationRecord (metric : NetworkDurationMetric) : OtelMetricRecord :=
  { name := boundedMetricString metric.metricName
    unit := boundedMetricString metric.unit
    kind := .histogramSummary
    value := .summary metric.count metric.sumNanos metric.minNanos metric.maxNanos
    window := metric.window
    resource := resourceAttributes host metric.container metric.kubernetes
    attributes := networkAttributes metric.protocol metric.addressFamily metric.remoteAddress metric.remotePort }

def networkGaugeRecord (metric : NetworkGaugeMetric) : OtelMetricRecord :=
  { name := boundedMetricString metric.metricName
    unit := boundedMetricString metric.unit
    kind := .gauge
    value := .i64 metric.value
    window := metric.window
    resource := resourceAttributes host metric.container metric.kubernetes
    attributes := networkAttributes metric.protocol metric.addressFamily metric.remoteAddress metric.remotePort }

def dnsCounterRecord (metric : DnsCounterMetric) : OtelMetricRecord :=
  { name := boundedMetricString metric.metricName
    unit := boundedMetricString metric.unit
    kind := .sum
    value := .u64 metric.value
    window := metric.window
    resource := resourceAttributes host metric.container metric.kubernetes
    attributes := dnsAttributes metric.queryName metric.responseCode }

def dnsLatencyRecord (metric : DnsLatencyMetric) : OtelMetricRecord :=
  { name := boundedMetricString metric.metricName
    unit := boundedMetricString metric.unit
    kind := .histogramSummary
    value := .summary metric.count metric.sumNanos metric.minNanos metric.maxNanos
    window := metric.window
    resource := resourceAttributes host metric.container metric.kubernetes
    attributes := dnsAttributes metric.queryName metric.responseCode }

/-- `resource_counter_record` and `resource_gauge_record`. -/
def resourceRecord {α : Type} (kind : OtelMetricKind) (value : α → OtelMetricValue) (host : Option Bytes)
    (metric : ResourceMetric α) : OtelMetricRecord :=
  { name := boundedMetricString metric.metricName
    unit := boundedMetricString metric.unit
    kind
    value := value metric.value
    window := metric.window
    resource := resourceMetricResourceAttributes host metric.resource
    attributes := resourceMetricAttributes metric.metricName metric.attributes metric.process metric.cgroup }

def resourceCounterRecord : Option Bytes → ResourceCounterMetric → OtelMetricRecord := resourceRecord .sum .u64
def resourceGaugeRecord : Option Bytes → ResourceGaugeMetric → OtelMetricRecord := resourceRecord .gauge .i64

def formatOtelMetricRecord (signal : SignalEnvelope MetricPayload) : OtelMetricRecord :=
  mirrorMetricIdentityAttributes
    (match signal.payload with
    | .networkCounterMetric metric => networkCounterRecord signal.host metric
    | .networkPeerFlowMetric metric => networkPeerFlowRecord signal.host metric
    | .networkDurationMetric metric => networkDurationRecord signal.host metric
    | .networkGaugeMetric metric => networkGaugeRecord signal.host metric
    | .dnsCounterMetric metric => dnsCounterRecord signal.host metric
    | .dnsLatencyMetric metric => dnsLatencyRecord signal.host metric
    | .resourceGaugeMetric metric => resourceGaugeRecord signal.host metric
    | .resourceCounterMetric metric => resourceCounterRecord signal.host metric)

/-! ## Series -/

section series

variable [Json.Serializer]

def metricSeriesKey (record : OtelMetricRecord) : Bytes :=
  Json.Serializer.toString (record.name, record.unit, record.resource, record.attributes)

theorem metricSeriesKey_eq_iff {a b : OtelMetricRecord} :
    metricSeriesKey a = metricSeriesKey b ↔
      a.name = b.name ∧ a.unit = b.unit ∧ a.resource = b.resource ∧ a.attributes = b.attributes := by
  unfold metricSeriesKey
  rw [Json.Serializer.injective.eq_iff, Prod.mk.injEq, Prod.mk.injEq, Prod.mk.injEq]

def coalesceRecord (latest : SortedMap Bytes OtelMetricRecord) (record : OtelMetricRecord) :
    SortedMap Bytes OtelMetricRecord :=
  match latest.lookup (metricSeriesKey record) with
  | none => latest.insert (metricSeriesKey record) record
  | some previous =>
    if previous.window.endUnixNanos ≤ record.window.endUnixNanos then latest.insert (metricSeriesKey record) record
    else latest

def coalesceMetricSeries (records : List OtelMetricRecord) : List OtelMetricRecord :=
  (records.foldl coalesceRecord SortedMap.empty).entries.map Prod.snd

end series

/-! ## Data points -/

inductive NumberValue
  | asInt (value : Int)
  | asDouble (value : Nat)

/-- The number that a receiver reads. -/
def NumberValue.toInt : NumberValue → Int
  | .asInt value => value
  | .asDouble value => value

def numberValue : OtelMetricValue → NumberValue
  | .u64 value => if value < 2 ^ 63 then .asInt value else .asDouble (roundToDouble value)
  | .i64 value => .asInt value
  | .summary _ sumNanos _ _ => .asDouble (roundToDouble sumNanos)

structure NumberDataPoint where
  attributes : Json.Object
  startTimeUnixNano : Nat
  timeUnixNano : Nat
  value : NumberValue

def numberPoint (record : OtelMetricRecord) (value : OtelMetricValue) : NumberDataPoint :=
  { attributes := record.attributes
    startTimeUnixNano := record.window.startUnixNanos
    timeUnixNano := record.window.endUnixNanos
    value := numberValue value }

structure SummaryDataPoint where
  attributes : Json.Object
  startTimeUnixNano : Nat
  timeUnixNano : Nat
  count : Nat
  sum : Nat
  /-- The values at the quantiles 0 and 1. -/
  least : Nat
  greatest : Nat

inductive AggregationTemporality | unspecified | delta | cumulative

inductive MetricData
  | gauge (point : NumberDataPoint)
  | sum (point : NumberDataPoint) (aggregationTemporality : AggregationTemporality) (isMonotonic : Bool)
  | summary (point : SummaryDataPoint)

def metricData (record : OtelMetricRecord) : MetricData :=
  match record.kind, record.value with
  | .gauge, value => .gauge (numberPoint record value)
  | .sum, value => .sum (numberPoint record value) .cumulative true
  | .histogramSummary, .summary count sumNanos minNanos maxNanos =>
    .summary
      { attributes := record.attributes
        startTimeUnixNano := record.window.startUnixNanos
        timeUnixNano := record.window.endUnixNanos
        count
        sum := roundToDouble sumNanos
        least := roundToDouble minNanos
        greatest := roundToDouble maxNanos }
  | .histogramSummary, value => .gauge (numberPoint record value)

/-- A larger counter is not exported as a smaller number, also where it no longer fits into a signed integer. -/
theorem toInt_numberValue_mono {a b : Nat} (h : a ≤ b) :
    (numberValue (.u64 a)).toInt ≤ (numberValue (.u64 b)).toInt := by
  simp only [numberValue]
  split
  case isTrue ha =>
    split
    case isTrue => exact Int.ofNat_le.mpr h
    case isFalse hb =>
      have hround : roundToDouble (2 ^ 63) ≤ roundToDouble b := roundToDouble_mono (Nat.not_lt.mp hb)
      have hpower : roundToDouble (2 ^ 63) = 2 ^ 63 := by decide +kernel
      exact Int.ofNat_le.mpr (Nat.le_trans (Nat.le_of_lt ha) (hpower ▸ hround))
  case isFalse ha =>
    rw [if_neg (by omega)]
    exact Int.ofNat_le.mpr (roundToDouble_mono h)

end ENavigator.Metrics
