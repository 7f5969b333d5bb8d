import ENavigator.Signals.Metric

/-!
# Network and DNS signals

The connection and DNS events that the metric generators read, the flow signals that one of them emits, and the bounds
that their envelope constructors put on strings.
-/

namespace ENavigator.Signals

/-! ## Connections -/

/-- What every connection event says about its connection. -/
structure ConnectionIdentity where
  process : NetworkProcessIdentity
  protocol : NetworkProtocol
  addressFamily : NetworkAddressFamily
  remoteAddress : Bytes
  remotePort : Nat
  fd : Option Int
  container : Option ContainerContext
  kubernetes : Option KubernetesContext

structure NetworkConnectionOpenEvent extends ConnectionIdentity where
  localAddress : Option Bytes
  localPort : Option Nat
  timestampUnixNanos : Nat

structure NetworkConnectionCloseEvent extends ConnectionIdentity where
  localAddress : Option Bytes
  localPort : Option Nat
  openedAtUnixNanos : Option Nat
  closedAtUnixNanos : Nat
  durationNanos : Option Nat
  bytesSent : Option Nat
  bytesReceived : Option Nat

structure NetworkConnectionSnapshotEvent extends ConnectionIdentity where
  localAddress : Option Bytes
  localPort : Option Nat
  openedAtUnixNanos : Option Nat
  observedAtUnixNanos : Nat
  bytesSent : Nat
  bytesReceived : Nat

structure NetworkConnectionFailureEvent extends ConnectionIdentity where
  errno : Int
  timestampUnixNanos : Nat

inductive NetworkTcpStatKind | retransmit | reset | stateTransition

inductive NetworkTcpState
  | established | synSent | synRecv | finWait1 | finWait2 | timeWait | close | closeWait | lastAck | listen | closing
  | newSynRecv

inductive NetworkTcpResetDirection | send | receive

/-- The generator reads neither the endpoints, the process nor the old state of a TCP stat. -/
structure NetworkTcpStatObservation where
  stat : NetworkTcpStatKind
  addressFamily : NetworkAddressFamily
  newState : Option NetworkTcpState
  resetDirection : Option NetworkTcpResetDirection
  timestampUnixNanos : Nat
  container : Option ContainerContext
  kubernetes : Option KubernetesContext

inductive NetworkPayload
  | networkConnectionOpen (event : NetworkConnectionOpenEvent)
  | networkConnectionClose (event : NetworkConnectionCloseEvent)
  | networkConnectionSnapshot (event : NetworkConnectionSnapshotEvent)
  | networkConnectionFailure (event : NetworkConnectionFailureEvent)
  | networkTcpStatObservation (event : NetworkTcpStatObservation)

def sanitizeConnectionIdentity (identity : ConnectionIdentity) : ConnectionIdentity :=
  { identity with
    process := sanitizeNetworkProcessIdentity identity.process
    remoteAddress := sanitizeString identity.remoteAddress
    container := identity.container.map sanitizeContainerContext
    kubernetes := identity.kubernetes.map sanitizeKubernetesContext }

def sanitizeNetworkPayload : NetworkPayload → NetworkPayload
  | .networkConnectionOpen event =>
    .networkConnectionOpen { event with
      toConnectionIdentity := sanitizeConnectionIdentity event.toConnectionIdentity
      localAddress := event.localAddress.map sanitizeString }
  | .networkConnectionClose event =>
    .networkConnectionClose { event with
      toConnectionIdentity := sanitizeConnectionIdentity event.toConnectionIdentity
      localAddress := event.localAddress.map sanitizeString }
  | .networkConnectionSnapshot event =>
    .networkConnectionSnapshot { event with
      toConnectionIdentity := sanitizeConnectionIdentity event.toConnectionIdentity
      localAddress := event.localAddress.map sanitizeString }
  | .networkConnectionFailure event =>
    .networkConnectionFailure { event with
      toConnectionIdentity := sanitizeConnectionIdentity event.toConnectionIdentity }
  | .networkTcpStatObservation event =>
    .networkTcpStatObservation { event with
      container := event.container.map sanitizeContainerContext
      kubernetes := event.kubernetes.map sanitizeKubernetesContext }

def networkEnvelope (source : Bytes) (host : Option Bytes) (payload : NetworkPayload) : SignalEnvelope NetworkPayload :=
  SignalEnvelope.new source host (sanitizeNetworkPayload payload)

/-! ## Flows -/

structure NetworkFlowEndpoint where
  address : Option Bytes
  port : Option Nat
  namespaceName : Option Bytes
  ownerName : Option Bytes
  ownerType : Option Bytes
  container : Option ContainerContext
  kubernetes : Option KubernetesContext

structure NetworkFlowSummaryEvent where
  source : NetworkFlowEndpoint
  destination : NetworkFlowEndpoint
  protocol : NetworkProtocol
  addressFamily : NetworkAddressFamily
  bytes : Nat
  packets : Option Nat
  direction : NetworkFlowDirection
  firstSeenUnixNanos : Nat
  lastSeenUnixNanos : Nat

structure NetworkFlowWarning where
  warningType : Bytes
  message : Bytes
  timestampUnixNanos : Nat
  sourceSignalKind : Bytes
  sourceModule : Bytes
  protocol : NetworkProtocol
  addressFamily : NetworkAddressFamily
  remoteAddress : Bytes
  remotePort : Nat
  process : NetworkProcessIdentity
  container : Option ContainerContext
  kubernetes : Option KubernetesContext

def sanitizeNetworkFlowEndpoint (endpoint : NetworkFlowEndpoint) : NetworkFlowEndpoint :=
  { endpoint with
    address := endpoint.address.map sanitizeString
    namespaceName := endpoint.namespaceName.map sanitizeString
    ownerName := endpoint.ownerName.map sanitizeString
    ownerType := endpoint.ownerType.map sanitizeString
    container := endpoint.container.map sanitizeContainerContext
    kubernetes := endpoint.kubernetes.map sanitizeKubernetesContext }

def sanitizeNetworkFlowSummaryEvent (event : NetworkFlowSummaryEvent) : NetworkFlowSummaryEvent :=
  { event with
    source := sanitizeNetworkFlowEndpoint event.source
    destination := sanitizeNetworkFlowEndpoint event.destination }

def sanitizeNetworkFlowWarning (warning : NetworkFlowWarning) : NetworkFlowWarning :=
  { warning with
    warningType := sanitizeString warning.warningType
    message := sanitizeString warning.message
    sourceSignalKind := sanitizeString warning.sourceSignalKind
    sourceModule := sanitizeString warning.sourceModule
    remoteAddress := sanitizeString warning.remoteAddress
    process := sanitizeNetworkProcessIdentity warning.process
    container := warning.container.map sanitizeContainerContext
    kubernetes := warning.kubernetes.map sanitizeKubernetesContext }

/-! ## Dependencies -/

structure DependencyEndpoint where
  ownerName : Option Bytes
  ownerType : Option Bytes
  workload : Option KubernetesContext
  container : Option ContainerContext
  address : Option Bytes
  port : Option Nat
  domain : Option Bytes

structure DependencyEdgeEvent where
  source : DependencyEndpoint
  destination : DependencyEndpoint
  protocol : NetworkProtocol
  observations : Nat
  firstSeenUnixNanos : Nat
  lastSeenUnixNanos : Nat

def sanitizeDependencyEndpoint (endpoint : DependencyEndpoint) : DependencyEndpoint :=
  { endpoint with
    ownerName := endpoint.ownerName.map sanitizeString
    ownerType := endpoint.ownerType.map sanitizeString
    address := endpoint.address.map sanitizeString
    domain := endpoint.domain.map sanitizeString
    container := endpoint.container.map sanitizeContainerContext
    workload := endpoint.workload.map sanitizeKubernetesContext }

def sanitizeDependencyEdgeEvent (event : DependencyEdgeEvent) : DependencyEdgeEvent :=
  { event with
    source := sanitizeDependencyEndpoint event.source
    destination := sanitizeDependencyEndpoint event.destination }

def SignalEnvelope.dependencyEdge (source : Bytes) (host : Option Bytes) (event : DependencyEdgeEvent) :
    SignalEnvelope DependencyEdgeEvent :=
  SignalEnvelope.new source host (sanitizeDependencyEdgeEvent event)

/-! ## DNS -/

/-- The generator does not read the process of a DNS event. -/
structure DnsQueryEvent where
  queryName : Bytes
  queryType : DnsQueryType
  transactionId : Option Nat
  transportProtocol : NetworkProtocol
  serverAddress : Option Bytes
  serverPort : Option Nat
  timestampUnixNanos : Nat
  container : Option ContainerContext
  kubernetes : Option KubernetesContext

structure DnsResponseEvent extends DnsQueryEvent where
  responseCode : DnsResponseCode
  latencyNanos : Option Nat

inductive DnsPayload
  | dnsQuery (event : DnsQueryEvent)
  | dnsResponse (event : DnsResponseEvent)

def sanitizeDnsQueryEvent (event : DnsQueryEvent) : DnsQueryEvent :=
  { event with
    queryName := sanitizeString event.queryName
    serverAddress := event.serverAddress.map sanitizeString
    container := event.container.map sanitizeContainerContext
    kubernetes := event.kubernetes.map sanitizeKubernetesContext }

def sanitizeDnsPayload : DnsPayload → DnsPayload
  | .dnsQuery event => .dnsQuery (sanitizeDnsQueryEvent event)
  | .dnsResponse event => .dnsResponse { event with toDnsQueryEvent := sanitizeDnsQueryEvent event.toDnsQueryEvent }

def dnsEnvelope (source : Bytes) (host : Option Bytes) (payload : DnsPayload) : SignalEnvelope DnsPayload :=
  SignalEnvelope.new source host (sanitizeDnsPayload payload)

end ENavigator.Signals
