import ENavigator.Signals.Sanitize

/-!
# Metric signals

The metrics that generators hand to sinks, with the bounds that the constructors of an envelope put on their strings.
Labels of a pod are not part of a context here: no metric exports them.
-/

namespace ENavigator.Signals

structure MetricAggregationWindow where
  startUnixNanos : Nat
  endUnixNanos : Nat
  deriving DecidableEq, Repr

structure ContainerContext where
  containerId : Bytes
  runtime : Option Bytes

structure KubernetesContext where
  namespaceName : Bytes
  podName : Bytes
  podUid : Option Bytes
  containerName : Option Bytes
  nodeName : Option Bytes

structure ResourceContext where
  hostName : Option Bytes
  container : Option ContainerContext
  kubernetes : Option KubernetesContext

structure ProcessResourceContext where
  pid : Nat
  ppid : Option Nat
  uid : Option Nat
  command : Bytes
  executable : Option Bytes
  container : Option ContainerContext
  kubernetes : Option KubernetesContext

structure CgroupResourceContext where
  cgroupPath : Bytes
  container : Option ContainerContext
  kubernetes : Option KubernetesContext

structure NetworkProcessIdentity where
  pid : Nat
  ppid : Option Nat
  uid : Option Nat
  command : Bytes
  executable : Option Bytes
  cgroupId : Option Nat

inductive NetworkProtocol | tcp | udp
  deriving DecidableEq, Repr

inductive NetworkAddressFamily | ipv4 | ipv6
  deriving DecidableEq, Repr

inductive NetworkFlowDirection | egress | ingress | unknown
  deriving DecidableEq, Repr

inductive DnsQueryType | a | aaaa | cname | mx | txt | srv | ptr | other
  deriving DecidableEq, Repr

inductive DnsResponseCode | noError | nxDomain | servFail | refused | other
  deriving DecidableEq, Repr

/-! ## Metrics -/

structure NetworkCounterMetric where
  metricName : Bytes
  unit : Bytes
  value : Nat
  window : MetricAggregationWindow
  process : Option NetworkProcessIdentity
  protocol : Option NetworkProtocol
  addressFamily : Option NetworkAddressFamily
  localAddress : Option Bytes
  localPort : Option Nat
  remoteAddress : Option Bytes
  remotePort : Option Nat
  errno : Option Int
  container : Option ContainerContext
  kubernetes : Option KubernetesContext

structure NetworkDurationMetric where
  metricName : Bytes
  unit : Bytes
  count : Nat
  sumNanos : Nat
  minNanos : Nat
  maxNanos : Nat
  window : MetricAggregationWindow
  process : Option NetworkProcessIdentity
  protocol : Option NetworkProtocol
  addressFamily : Option NetworkAddressFamily
  remoteAddress : Option Bytes
  remotePort : Option Nat
  container : Option ContainerContext
  kubernetes : Option KubernetesContext

structure NetworkGaugeMetric where
  metricName : Bytes
  unit : Bytes
  value : Int
  window : MetricAggregationWindow
  process : Option NetworkProcessIdentity
  protocol : Option NetworkProtocol
  addressFamily : Option NetworkAddressFamily
  remoteAddress : Option Bytes
  remotePort : Option Nat
  container : Option ContainerContext
  kubernetes : Option KubernetesContext

structure NetworkPeerIdentity where
  namespaceName : Bytes
  ownerName : Bytes
  ownerType : Bytes

structure NetworkPeerFlowMetric where
  metricName : Bytes
  unit : Bytes
  value : Nat
  window : MetricAggregationWindow
  protocol : NetworkProtocol
  addressFamily : NetworkAddressFamily
  direction : NetworkFlowDirection
  source : NetworkPeerIdentity
  destination : NetworkPeerIdentity
  overflow : Bool

structure DnsCounterMetric where
  metricName : Bytes
  unit : Bytes
  value : Nat
  window : MetricAggregationWindow
  queryName : Option Bytes
  queryType : Option DnsQueryType
  responseCode : Option DnsResponseCode
  serverAddress : Option Bytes
  serverPort : Option Nat
  container : Option ContainerContext
  kubernetes : Option KubernetesContext

structure DnsLatencyMetric where
  metricName : Bytes
  unit : Bytes
  count : Nat
  sumNanos : Nat
  minNanos : Nat
  maxNanos : Nat
  window : MetricAggregationWindow
  queryName : Option Bytes
  queryType : Option DnsQueryType
  responseCode : Option DnsResponseCode
  serverAddress : Option Bytes
  serverPort : Option Nat
  container : Option ContainerContext
  kubernetes : Option KubernetesContext

structure ResourceMetricAttribute where
  key : Bytes
  value : Bytes

/-- `ResourceCounterMetric` and `ResourceGaugeMetric`, which differ in the type of their value. -/
structure ResourceMetric (α : Type) where
  metricName : Bytes
  unit : Bytes
  value : α
  window : MetricAggregationWindow
  resource : ResourceContext
  process : Option ProcessResourceContext
  cgroup : Option CgroupResourceContext
  attributes : List ResourceMetricAttribute

abbrev ResourceCounterMetric := ResourceMetric Nat
abbrev ResourceGaugeMetric := ResourceMetric Int

inductive MetricPayload
  | networkCounterMetric (metric : NetworkCounterMetric)
  | networkPeerFlowMetric (metric : NetworkPeerFlowMetric)
  | networkDurationMetric (metric : NetworkDurationMetric)
  | networkGaugeMetric (metric : NetworkGaugeMetric)
  | dnsCounterMetric (metric : DnsCounterMetric)
  | dnsLatencyMetric (metric : DnsLatencyMetric)
  | resourceGaugeMetric (metric : ResourceGaugeMetric)
  | resourceCounterMetric (metric : ResourceCounterMetric)

/-- An envelope whose payload is of one family of signals. -/
structure SignalEnvelope (α : Type) where
  source : Bytes
  host : Option Bytes
  payload : α

/-! ## Bounds of the constructors -/

/-- The bound that the network, DNS and resource families and the envelope itself all use. -/
def maxSignalStringBytes : Nat := 256

def sanitizeString (value : Bytes) : Bytes := truncateUtf8 value maxSignalStringBytes

theorem sanitizeString_of_short {value : Bytes} (h : value.length ≤ 256) : sanitizeString value = value :=
  truncateUtf8_of_length_le h

theorem length_sanitizeString_le (value : Bytes) : (sanitizeString value).length ≤ 256 :=
  length_truncateUtf8_le value 256

theorem sanitizeString_sanitizeString (value : Bytes) : sanitizeString (sanitizeString value) = sanitizeString value :=
  sanitizeString_of_short (length_sanitizeString_le value)

def sanitizeContainerContext (context : ContainerContext) : ContainerContext :=
  { containerId := sanitizeString context.containerId, runtime := context.runtime.map sanitizeString }

def sanitizeKubernetesContext (context : KubernetesContext) : KubernetesContext :=
  { namespaceName := sanitizeString context.namespaceName
    podName := sanitizeString context.podName
    podUid := context.podUid.map sanitizeString
    containerName := context.containerName.map sanitizeString
    nodeName := context.nodeName.map sanitizeString }

theorem map_sanitizeString_idem (value : Option Bytes) :
    (value.map sanitizeString).map sanitizeString = value.map sanitizeString := by
  cases value with
  | none => rfl
  | some value => exact congrArg some (sanitizeString_sanitizeString value)

theorem map_sanitizeContainerContext_idem (context : Option ContainerContext) :
    (context.map sanitizeContainerContext).map sanitizeContainerContext = context.map sanitizeContainerContext := by
  cases context with
  | none => rfl
  | some context =>
    simp only [Option.map_some, sanitizeContainerContext, sanitizeString_sanitizeString, map_sanitizeString_idem]

theorem map_sanitizeKubernetesContext_idem (context : Option KubernetesContext) :
    (context.map sanitizeKubernetesContext).map sanitizeKubernetesContext = context.map sanitizeKubernetesContext := by
  cases context with
  | none => rfl
  | some context =>
    simp only [Option.map_some, sanitizeKubernetesContext, sanitizeString_sanitizeString, map_sanitizeString_idem]

def sanitizeNetworkProcessIdentity (process : NetworkProcessIdentity) : NetworkProcessIdentity :=
  { process with command := sanitizeString process.command, executable := process.executable.map sanitizeString }

def sanitizeNetworkCounterMetric (metric : NetworkCounterMetric) : NetworkCounterMetric :=
  { metric with
    metricName := sanitizeString metric.metricName
    unit := sanitizeString metric.unit
    process := metric.process.map sanitizeNetworkProcessIdentity
    localAddress := metric.localAddress.map sanitizeString
    remoteAddress := metric.remoteAddress.map sanitizeString
    container := metric.container.map sanitizeContainerContext
    kubernetes := metric.kubernetes.map sanitizeKubernetesContext }

def sanitizeNetworkDurationMetric (metric : NetworkDurationMetric) : NetworkDurationMetric :=
  { metric with
    metricName := sanitizeString metric.metricName
    unit := sanitizeString metric.unit
    process := metric.process.map sanitizeNetworkProcessIdentity
    remoteAddress := metric.remoteAddress.map sanitizeString
    container := metric.container.map sanitizeContainerContext
    kubernetes := metric.kubernetes.map sanitizeKubernetesContext }

def sanitizeNetworkGaugeMetric (metric : NetworkGaugeMetric) : NetworkGaugeMetric :=
  { metric with
    metricName := sanitizeString metric.metricName
    unit := sanitizeString metric.unit
    process := metric.process.map sanitizeNetworkProcessIdentity
    remoteAddress := metric.remoteAddress.map sanitizeString
    container := metric.container.map sanitizeContainerContext
    kubernetes := metric.kubernetes.map sanitizeKubernetesContext }

def sanitizeDnsCounterMetric (metric : DnsCounterMetric) : DnsCounterMetric :=
  { metric with
    metricName := sanitizeString metric.metricName
    unit := sanitizeString metric.unit
    queryName := metric.queryName.map sanitizeString
    serverAddress := metric.serverAddress.map sanitizeString
    container := metric.container.map sanitizeContainerContext
    kubernetes := metric.kubernetes.map sanitizeKubernetesContext }

def sanitizeDnsLatencyMetric (metric : DnsLatencyMetric) : DnsLatencyMetric :=
  { metric with
    metricName := sanitizeString metric.metricName
    unit := sanitizeString metric.unit
    queryName := metric.queryName.map sanitizeString
    serverAddress := metric.serverAddress.map sanitizeString
    container := metric.container.map sanitizeContainerContext
    kubernetes := metric.kubernetes.map sanitizeKubernetesContext }

def sanitizeResourceContext (context : ResourceContext) : ResourceContext :=
  { hostName := context.hostName.map sanitizeString
    container := context.container.map sanitizeContainerContext
    kubernetes := context.kubernetes.map sanitizeKubernetesContext }

def sanitizeProcessResourceContext (context : ProcessResourceContext) : ProcessResourceContext :=
  { context with
    command := sanitizeString context.command
    executable := context.executable.map sanitizeString
    container := context.container.map sanitizeContainerContext
    kubernetes := context.kubernetes.map sanitizeKubernetesContext }

def sanitizeCgroupResourceContext (context : CgroupResourceContext) : CgroupResourceContext :=
  { cgroupPath := sanitizeString context.cgroupPath
    container := context.container.map sanitizeContainerContext
    kubernetes := context.kubernetes.map sanitizeKubernetesContext }

def maxResourceMetricAttributes : Nat := 16
def maxResourceMetricAttributeKeyBytes : Nat := 128

/-- Metrics extend the shared list with a broader bare fragment and the hyphenated token spelling. -/
def isSensitiveMetricAttributeKey (key : Bytes) : Bool :=
  isSensitiveAttributeKey key || [text "auth", text "api-token"].any (containsAsciiCaseInsensitive key)

def sanitizeResourceMetricAttributes (attributes : List ResourceMetricAttribute) : List ResourceMetricAttribute :=
  ((attributes.filter fun item =>
      !item.key.isEmpty && !isSensitiveMetricAttributeKey item.key).take maxResourceMetricAttributes).map
    fun item =>
      { key := truncateUtf8 item.key maxResourceMetricAttributeKeyBytes, value := sanitizeString item.value }

def sanitizeResourceMetric {α : Type} (metric : ResourceMetric α) : ResourceMetric α :=
  { metric with
    metricName := sanitizeString metric.metricName
    unit := sanitizeString metric.unit
    resource := sanitizeResourceContext metric.resource
    process := metric.process.map sanitizeProcessResourceContext
    cgroup := metric.cgroup.map sanitizeCgroupResourceContext
    attributes := sanitizeResourceMetricAttributes metric.attributes }

variable (source : Bytes) (host : Option Bytes)

namespace SignalEnvelope

def new {α : Type} (source : Bytes) (host : Option Bytes) (payload : α) : SignalEnvelope α :=
  { source := sanitizeString source, host := host.map sanitizeString, payload }

def networkCounterMetric (metric : NetworkCounterMetric) : SignalEnvelope MetricPayload :=
  new source host (.networkCounterMetric (sanitizeNetworkCounterMetric metric))

def networkDurationMetric (metric : NetworkDurationMetric) : SignalEnvelope MetricPayload :=
  new source host (.networkDurationMetric (sanitizeNetworkDurationMetric metric))

def networkGaugeMetric (metric : NetworkGaugeMetric) : SignalEnvelope MetricPayload :=
  new source host (.networkGaugeMetric (sanitizeNetworkGaugeMetric metric))

def dnsCounterMetric (metric : DnsCounterMetric) : SignalEnvelope MetricPayload :=
  new source host (.dnsCounterMetric (sanitizeDnsCounterMetric metric))

def dnsLatencyMetric (metric : DnsLatencyMetric) : SignalEnvelope MetricPayload :=
  new source host (.dnsLatencyMetric (sanitizeDnsLatencyMetric metric))

def resourceCounterMetric (metric : ResourceCounterMetric) : SignalEnvelope MetricPayload :=
  new source host (.resourceCounterMetric (sanitizeResourceMetric metric))

def resourceGaugeMetric (metric : ResourceGaugeMetric) : SignalEnvelope MetricPayload :=
  new source host (.resourceGaugeMetric (sanitizeResourceMetric metric))

end SignalEnvelope

end ENavigator.Signals
