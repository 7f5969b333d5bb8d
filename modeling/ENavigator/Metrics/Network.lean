import ENavigator.Metrics.ClosedConnections
import ENavigator.Metrics.Counters
import ENavigator.Metrics.Record

/-!
# Network metrics

The generator of connection counters, durations and gauges, of TCP counters, and of the flows that byte counts of
connections show. A snapshot of an open connection is a flow of what was transferred since the last one; what is left
is the flow of the close.
-/

namespace ENavigator.Metrics.Network

open Signals

/-! ## Counters -/

structure CounterKey where
  metricName : Bytes
  workload : Option Bytes
  container : Option Bytes
  protocol : Option NetworkProtocol
  addressFamily : Option NetworkAddressFamily
  remoteAddress : Option Bytes
  remotePort : Option Nat
  errno : Option Int
  deriving DecidableEq

structure CounterTemplate where
  metricName : Bytes
  unit : Bytes
  process : Option NetworkProcessIdentity
  protocol : Option NetworkProtocol
  addressFamily : Option NetworkAddressFamily
  localAddress : Option Bytes
  localPort : Option Nat
  remoteAddress : Option Bytes
  remotePort : Option Nat
  errno : Option Int
  container : Option ContainerContext
  kubernetes : Option KubernetesContext

def metricKey (metricName : Bytes) (event : NetworkConnectionOpenEvent) (errno : Option Int)
    (includeDestination : Bool) : CounterKey :=
  { metricName
    workload := event.kubernetes.map workloadKey
    container := event.container.map (·.containerId)
    protocol := some event.protocol
    addressFamily := some event.addressFamily
    remoteAddress := if includeDestination then some event.remoteAddress else none
    remotePort := if includeDestination then some event.remotePort else none
    errno }

def counterTemplate (metricName : Bytes) (event : NetworkConnectionOpenEvent) (errno : Option Int)
    (includeDestination : Bool) : CounterTemplate :=
  { metricName
    unit :=
      if metricName = text "network.traffic.destination.count" then text "\x7bobservation\x7d"
      else text "\x7bconnection\x7d"
    process := some event.process
    protocol := some event.protocol
    addressFamily := some event.addressFamily
    localAddress := if includeDestination then event.localAddress else none
    localPort := if includeDestination then event.localPort else none
    remoteAddress := if includeDestination then some event.remoteAddress else none
    remotePort := if includeDestination then some event.remotePort else none
    errno
    container := event.container
    kubernetes := event.kubernetes }

/-- What the generator reads of a close or a snapshot for its flow. -/
structure ConnectionFlowView where
  sourceSignalKind : Bytes
  process : NetworkProcessIdentity
  protocol : NetworkProtocol
  addressFamily : NetworkAddressFamily
  localAddress : Option Bytes
  localPort : Option Nat
  remoteAddress : Bytes
  remotePort : Nat
  container : Option ContainerContext
  kubernetes : Option KubernetesContext

namespace CounterKey

def connectionOpen (event : NetworkConnectionOpenEvent) : CounterKey :=
  metricKey (text "network.connection.open.count") event none true

def protocolOpen (event : NetworkConnectionOpenEvent) : CounterKey :=
  metricKey (text "network.protocol.connection.open.count") event none false

def trafficDestination (event : NetworkConnectionOpenEvent) : CounterKey :=
  metricKey (text "network.traffic.destination.count") event none true

def connectionFailure (event : NetworkConnectionFailureEvent) : CounterKey :=
  { metricName := text "network.connection.failure.count"
    workload := event.kubernetes.map workloadKey
    container := event.container.map (·.containerId)
    protocol := some event.protocol
    addressFamily := some event.addressFamily
    remoteAddress := some event.remoteAddress
    remotePort := some event.remotePort
    errno := some event.errno }

def tcpStat (metricName : Bytes) (event : NetworkTcpStatObservation) : CounterKey :=
  { metricName
    workload := event.kubernetes.map workloadKey
    container := event.container.map (·.containerId)
    protocol := some .tcp
    addressFamily := some event.addressFamily
    remoteAddress := none
    remotePort := none
    errno := none }

def flowBytes (event : ConnectionFlowView) : CounterKey :=
  { metricName := text "network.flow.bytes"
    workload := event.kubernetes.map workloadKey
    container := event.container.map (·.containerId)
    protocol := some event.protocol
    addressFamily := some event.addressFamily
    remoteAddress := none
    remotePort := none
    errno := none }

end CounterKey

/-- The name of the counter of a TCP stat; other transitions are not counted. -/
def tcpStatMetricName (event : NetworkTcpStatObservation) : Option Bytes :=
  match event.stat with
  | .retransmit => some (text "network.tcp.retransmits")
  | .reset =>
    match event.resetDirection with
    | some .send => some (text "network.tcp.resets.sent")
    | some .receive => some (text "network.tcp.resets.received")
    | none => some (text "network.tcp.resets")
  | .stateTransition =>
    match event.newState with
    | some .established => some (text "network.tcp.transitions.established")
    | some .close => some (text "network.tcp.transitions.closed")
    | _ => none

namespace CounterTemplate

def connectionOpen (event : NetworkConnectionOpenEvent) : CounterTemplate :=
  counterTemplate (text "network.connection.open.count") event none true

def protocolOpen (event : NetworkConnectionOpenEvent) : CounterTemplate :=
  counterTemplate (text "network.protocol.connection.open.count") event none false

def trafficDestination (event : NetworkConnectionOpenEvent) : CounterTemplate :=
  counterTemplate (text "network.traffic.destination.count") event none true

def connectionFailure (event : NetworkConnectionFailureEvent) : CounterTemplate :=
  { metricName := text "network.connection.failure.count"
    unit := text "\x7bconnection\x7d"
    process := some event.process
    protocol := some event.protocol
    addressFamily := some event.addressFamily
    localAddress := none
    localPort := none
    remoteAddress := some event.remoteAddress
    remotePort := some event.remotePort
    errno := some event.errno
    container := event.container
    kubernetes := event.kubernetes }

def tcpStat (metricName : Bytes) (event : NetworkTcpStatObservation) : CounterTemplate :=
  { metricName
    unit :=
      if (text "network.tcp.retransmits").isPrefixOf metricName then text "\x7bsegment\x7d"
      else if (text "network.tcp.transitions").isPrefixOf metricName then text "\x7btransition\x7d"
      else text "\x7bconnection\x7d"
    process := none
    protocol := some .tcp
    addressFamily := some event.addressFamily
    localAddress := none
    localPort := none
    remoteAddress := none
    remotePort := none
    errno := none
    container := event.container
    kubernetes := event.kubernetes }

def flowBytes (event : ConnectionFlowView) : CounterTemplate :=
  { metricName := text "network.flow.bytes"
    unit := text "By"
    process := some event.process
    protocol := some event.protocol
    addressFamily := some event.addressFamily
    localAddress := none
    localPort := none
    remoteAddress := none
    remotePort := none
    errno := none
    container := event.container
    kubernetes := event.kubernetes }

end CounterTemplate

/-- `CounterState::to_signal`. -/
def counterSignal (host : Option Bytes) (state : CounterState CounterTemplate) : SignalEnvelope MetricPayload :=
  SignalEnvelope.networkCounterMetric (text "generator.network_metrics") host
    { metricName := state.template.metricName
      unit := state.template.unit
      value := state.value
      window := state.window
      process := state.template.process
      protocol := state.template.protocol
      addressFamily := state.template.addressFamily
      localAddress := state.template.localAddress
      localPort := state.template.localPort
      remoteAddress := state.template.remoteAddress
      remotePort := state.template.remotePort
      errno := state.template.errno
      container := state.template.container
      kubernetes := state.template.kubernetes }

/-! ## Durations and active connections -/

/-- `DurationKey` and `ActiveGaugeKey`, which have the same fields and read them off an event alike. -/
structure ConnectionMetricKey where
  workload : Option Bytes
  container : Option Bytes
  protocol : NetworkProtocol
  addressFamily : NetworkAddressFamily
  remoteAddress : Bytes
  remotePort : Nat
  deriving DecidableEq

def ConnectionMetricKey.fromConnection (event : ConnectionIdentity) : ConnectionMetricKey :=
  { workload := event.kubernetes.map workloadKey
    container := event.container.map (·.containerId)
    protocol := event.protocol
    addressFamily := event.addressFamily
    remoteAddress := event.remoteAddress
    remotePort := event.remotePort }

/-- `DurationTemplate` and `ActiveGaugeTemplate`, alike in the same way. -/
structure ConnectionMetricTemplate where
  process : Option NetworkProcessIdentity
  protocol : Option NetworkProtocol
  addressFamily : Option NetworkAddressFamily
  remoteAddress : Option Bytes
  remotePort : Option Nat
  container : Option ContainerContext
  kubernetes : Option KubernetesContext

def ConnectionMetricTemplate.fromConnection (event : ConnectionIdentity) : ConnectionMetricTemplate :=
  { process := some event.process
    protocol := some event.protocol
    addressFamily := some event.addressFamily
    remoteAddress := some event.remoteAddress
    remotePort := some event.remotePort
    container := event.container
    kubernetes := event.kubernetes }

structure DurationState where
  template : ConnectionMetricTemplate
  count : Nat
  sumNanos : Nat
  minNanos : Nat
  maxNanos : Nat
  window : MetricAggregationWindow

def DurationState.toSignal (state : DurationState) (host : Option Bytes) : SignalEnvelope MetricPayload :=
  SignalEnvelope.networkDurationMetric (text "generator.network_metrics") host
    { metricName := text "network.connection.duration"
      unit := text "ns"
      count := state.count
      sumNanos := state.sumNanos
      minNanos := state.minNanos
      maxNanos := state.maxNanos
      window := state.window
      process := state.template.process
      protocol := state.template.protocol
      addressFamily := state.template.addressFamily
      remoteAddress := state.template.remoteAddress
      remotePort := state.template.remotePort
      container := state.template.container
      kubernetes := state.template.kubernetes }

structure ActiveGaugeState where
  template : ConnectionMetricTemplate
  value : Int
  window : MetricAggregationWindow

def ActiveGaugeState.toSignal (state : ActiveGaugeState) (host : Option Bytes) : SignalEnvelope MetricPayload :=
  SignalEnvelope.networkGaugeMetric (text "generator.network_metrics") host
    { metricName := text "network.connection.active"
      unit := text "\x7bconnection\x7d"
      value := state.value
      window := state.window
      process := state.template.process
      protocol := state.template.protocol
      addressFamily := state.template.addressFamily
      remoteAddress := state.template.remoteAddress
      remotePort := state.template.remotePort
      container := state.template.container
      kubernetes := state.template.kubernetes }

/-! ## Flows -/

namespace ConnectionFlowView

def fromClose (event : NetworkConnectionCloseEvent) : ConnectionFlowView :=
  { event with sourceSignalKind := text "network_connection_close" }

def fromSnapshot (event : NetworkConnectionSnapshotEvent) : ConnectionFlowView :=
  { event with sourceSignalKind := text "network_connection_snapshot" }

end ConnectionFlowView

structure FlowInterval where
  bytesSent : Nat
  bytesReceived : Nat
  startUnixNanos : Nat
  endUnixNanos : Nat
  emitUnchanged : Bool

structure FlowSnapshotState where
  openedAtUnixNanos : Option Nat
  observedAtUnixNanos : Nat
  bytesSent : Nat
  bytesReceived : Nat

/-- The part of the generator's state that flows are computed from. -/
structure FlowState where
  flowSnapshots : AList (fun _ : ActiveConnectionKey => FlowSnapshotState) := ∅
  closedConnections : ClosedConnectionCache := {}

def counterDelta (current previous : Nat) : Nat := (checkedSub current previous).getD current

/-- A connection whose opening was not seen may be any. -/
def sameConnectionLifecycle : Option Nat → Option Nat → Bool
  | some left, some right => left == right
  | _, _ => true

/-- What a snapshot adds to the last one of its connection, or to nothing. -/
def intervalSince (event : NetworkConnectionSnapshotEvent) : Option FlowSnapshotState → FlowInterval
  | some previous =>
    { bytesSent := counterDelta event.bytesSent previous.bytesSent
      bytesReceived := counterDelta event.bytesReceived previous.bytesReceived
      startUnixNanos := previous.observedAtUnixNanos
      endUnixNanos := event.observedAtUnixNanos
      emitUnchanged := true }
  | none =>
    { bytesSent := event.bytesSent
      bytesReceived := event.bytesReceived
      startUnixNanos := event.openedAtUnixNanos.getD event.observedAtUnixNanos
      endUnixNanos := event.observedAtUnixNanos
      emitUnchanged := true }

/-- A snapshot of a connection that is known to have closed no earlier. -/
def lateSnapshot (event : NetworkConnectionSnapshotEvent) (closed : Option ClosedConnectionState) : Bool :=
  match closed with
  | some closed =>
    sameConnectionLifecycle closed.openedAtUnixNanos event.openedAtUnixNanos &&
      event.observedAtUnixNanos ≤ closed.closedAtUnixNanos
  | none => false

def snapshotFlowInterval (maxActiveConnections : Nat) (event : NetworkConnectionSnapshotEvent) (s : FlowState) :
    Option FlowInterval × FlowState :=
  match ActiveConnectionKey.fromConnection event.toConnectionIdentity with
  | none => (none, s)
  | some key =>
    if lateSnapshot event (s.closedConnections.entries.lookup key) then (none, s)
    else
      let s := { s with closedConnections := s.closedConnections.remove key }
      let previous := s.flowSnapshots.lookup key
      if previous.isNone && maxActiveConnections ≤ s.flowSnapshots.entries.length then (none, s)
      else
        (some (intervalSince event (previous.filter fun previous =>
            sameConnectionLifecycle previous.openedAtUnixNanos event.openedAtUnixNanos)),
          { s with
            flowSnapshots := s.flowSnapshots.insert key
              { openedAtUnixNanos := event.openedAtUnixNanos
                observedAtUnixNanos := event.observedAtUnixNanos
                bytesSent := event.bytesSent
                bytesReceived := event.bytesReceived } })

/-- What a close adds to the last snapshot of its connection, or to nothing. -/
def intervalToClose (event : NetworkConnectionCloseEvent) : Option FlowSnapshotState → FlowInterval
  | some previous =>
    { bytesSent := counterDelta (event.bytesSent.getD 0) previous.bytesSent
      bytesReceived := counterDelta (event.bytesReceived.getD 0) previous.bytesReceived
      startUnixNanos := previous.observedAtUnixNanos
      endUnixNanos := event.closedAtUnixNanos
      emitUnchanged := true }
  | none =>
    { bytesSent := event.bytesSent.getD 0
      bytesReceived := event.bytesReceived.getD 0
      startUnixNanos := event.openedAtUnixNanos.getD event.closedAtUnixNanos
      endUnixNanos := event.closedAtUnixNanos
      emitUnchanged := false }

def closeFlowInterval (maxActiveConnections : Nat) (event : NetworkConnectionCloseEvent) (s : FlowState) :
    FlowInterval × FlowState :=
  match ActiveConnectionKey.fromConnection event.toConnectionIdentity with
  | none => (intervalToClose event none, s)
  | some key =>
    (intervalToClose event ((s.flowSnapshots.lookup key).filter fun previous =>
        sameConnectionLifecycle previous.openedAtUnixNanos event.openedAtUnixNanos),
      { closedConnections := s.closedConnections.insert key
          { openedAtUnixNanos := event.openedAtUnixNanos, closedAtUnixNanos := event.closedAtUnixNanos }
          (max maxActiveConnections 1)
        flowSnapshots := s.flowSnapshots.erase key })

def networkFlowSummary (source : Bytes) (host : Option Bytes) (event : NetworkFlowSummaryEvent) :
    SignalEnvelope NetworkFlowSummaryEvent :=
  SignalEnvelope.new source host (sanitizeNetworkFlowSummaryEvent event)

def networkFlowWarning (source : Bytes) (host : Option Bytes) (warning : NetworkFlowWarning) :
    SignalEnvelope NetworkFlowWarning :=
  SignalEnvelope.new source host (sanitizeNetworkFlowWarning warning)

def localEndpoint (event : ConnectionFlowView) (kubernetes : KubernetesContext) : NetworkFlowEndpoint :=
  { address := event.localAddress
    port := event.localPort
    namespaceName := some kubernetes.namespaceName
    ownerName := none
    ownerType := none
    container := event.container
    kubernetes := some kubernetes }

def remoteEndpoint (event : ConnectionFlowView) : NetworkFlowEndpoint :=
  { address := some event.remoteAddress
    port := some event.remotePort
    namespaceName := none
    ownerName := none
    ownerType := none
    container := none
    kubernetes := none }

def flowSummary (event : ConnectionFlowView) (interval : FlowInterval) (source destination : NetworkFlowEndpoint)
    (bytes : Nat) (direction : NetworkFlowDirection) : NetworkFlowSummaryEvent :=
  { source
    destination
    protocol := event.protocol
    addressFamily := event.addressFamily
    bytes
    packets := none
    direction
    firstSeenUnixNanos := interval.startUnixNanos
    lastSeenUnixNanos := interval.endUnixNanos }

def flowSummaries (host : Option Bytes) (event : ConnectionFlowView) (interval : FlowInterval) :
    List (SignalEnvelope NetworkFlowSummaryEvent) :=
  match event.kubernetes with
  | none => []
  | some kubernetes =>
    let summary := fun source destination bytes direction =>
      networkFlowSummary (text "generator.network_metrics") host
        (flowSummary event interval source destination bytes direction)
    (if 0 < interval.bytesSent ∨ interval.emitUnchanged then
      [summary (localEndpoint event kubernetes) (remoteEndpoint event) interval.bytesSent .egress] else []) ++
    (if 0 < interval.bytesReceived ∨ interval.emitUnchanged then
      [summary (remoteEndpoint event) (localEndpoint event kubernetes) interval.bytesReceived .ingress] else [])

def flowWarning (source : Bytes) (host : Option Bytes) (event : ConnectionFlowView) (interval : FlowInterval) :
    Option (SignalEnvelope NetworkFlowWarning) :=
  if saturatingAdd interval.bytesSent interval.bytesReceived = 0 ∨
      (event.container.isSome ∧ event.kubernetes.isSome) then none
  else
    some (networkFlowWarning (text "generator.network_metrics") host
      { warningType := text "missing_attribution"
        message := text "byte-counted network flow has incomplete source container or Kubernetes attribution"
        timestampUnixNanos := interval.endUnixNanos
        sourceSignalKind := event.sourceSignalKind
        sourceModule := source
        protocol := event.protocol
        addressFamily := event.addressFamily
        remoteAddress := event.remoteAddress
        remotePort := event.remotePort
        process := event.process
        container := event.container
        kubernetes := event.kubernetes })

/-! ## Events seen before -/

inductive EventKind | opened | closed | snapshot | failure
  deriving DecidableEq

structure EventFingerprint where
  kind : EventKind
  pid : Nat
  fd : Option Int
  protocol : NetworkProtocol
  addressFamily : NetworkAddressFamily
  localAddress : Option Bytes
  localPort : Option Nat
  remoteAddress : Bytes
  remotePort : Nat
  openedAt : Option Nat
  timestamp : Nat
  errno : Option Int
  deriving DecidableEq

def EventFingerprint.ofConnection (event : ConnectionIdentity) (kind : EventKind) (localAddress : Option Bytes)
    (localPort openedAt : Option Nat) (timestamp : Nat) (errno : Option Int) : EventFingerprint :=
  { kind
    pid := event.process.pid
    fd := event.fd
    protocol := event.protocol
    addressFamily := event.addressFamily
    localAddress
    localPort
    remoteAddress := event.remoteAddress
    remotePort := event.remotePort
    openedAt
    timestamp
    errno }

/-- TCP stats have no fingerprint. -/
def EventFingerprint.fromSignal (signal : SignalEnvelope NetworkPayload) : Option EventFingerprint :=
  match signal.payload with
  | .networkConnectionOpen event =>
    some (.ofConnection event.toConnectionIdentity .opened event.localAddress event.localPort none
      event.timestampUnixNanos none)
  | .networkConnectionClose event =>
    some (.ofConnection event.toConnectionIdentity .closed event.localAddress event.localPort event.openedAtUnixNanos
      event.closedAtUnixNanos none)
  | .networkConnectionSnapshot event =>
    some (.ofConnection event.toConnectionIdentity .snapshot event.localAddress event.localPort event.openedAtUnixNanos
      event.observedAtUnixNanos none)
  | .networkConnectionFailure event =>
    some (.ofConnection event.toConnectionIdentity .failure none none none event.timestampUnixNanos (some event.errno))
  | .networkTcpStatObservation _ => none

/-! ## The generator -/

structure Limits where
  maxMetricKeys : Nat
  maxActiveConnections : Nat

structure State where
  counters : Counters CounterKey CounterTemplate := ∅
  durations : AList (fun _ : ConnectionMetricKey => DurationState) := ∅
  activeConnections : AList (fun _ : ActiveConnectionKey => ConnectionMetricKey) := ∅
  activeCounts : AList (fun _ : ConnectionMetricKey => ActiveGaugeState) := ∅
  flows : FlowState := {}
  seenEvents : BoundedFingerprints EventFingerprint := {}

/-- What is emitted; of a counter also the key of its state. -/
inductive Output
  | counter (key : CounterKey) (signal : SignalEnvelope MetricPayload)
  | duration (signal : SignalEnvelope MetricPayload)
  | gauge (signal : SignalEnvelope MetricPayload)
  | flowSummary (signal : SignalEnvelope NetworkFlowSummaryEvent)
  | flowWarning (signal : SignalEnvelope NetworkFlowWarning)

variable (limits : Limits)

def observeCounterBy (key : CounterKey) (template : CounterTemplate) (windowStart windowEnd value : Nat)
    (host : Option Bytes) (s : State) : List Output × State :=
  let r := updateCounterBy limits.maxMetricKeys key template windowStart windowEnd value s.counters
  (r.1.toList.map fun state => .counter key (counterSignal host state), { s with counters := r.2 })

def observeCounter (key : CounterKey) (template : CounterTemplate) (timestamp : Nat) (host : Option Bytes) (s : State) :
    List Output × State :=
  observeCounterBy limits key template timestamp timestamp 1 host s

def updateDuration (event : NetworkConnectionCloseEvent) (durationNanos : Nat) (host : Option Bytes) (s : State) :
    List Output × State :=
  let key := ConnectionMetricKey.fromConnection event.toConnectionIdentity
  let windowStart := event.openedAtUnixNanos.getD event.closedAtUnixNanos
  match s.durations.lookup key with
  | some state =>
    let state := { state with
      count := saturatingAdd state.count 1
      sumNanos := saturatingAdd state.sumNanos durationNanos
      minNanos := min state.minNanos durationNanos
      maxNanos := max state.maxNanos durationNanos
      window := ⟨min state.window.startUnixNanos windowStart, max state.window.endUnixNanos event.closedAtUnixNanos⟩ }
    ([.duration (state.toSignal host)], { s with durations := s.durations.insert key state })
  | none =>
    if limits.maxMetricKeys ≤ s.durations.entries.length then ([], s)
    else
      let state : DurationState :=
        { template := .fromConnection event.toConnectionIdentity
          count := 1
          sumNanos := durationNanos
          minNanos := durationNanos
          maxNanos := durationNanos
          window := ⟨windowStart, event.closedAtUnixNanos⟩ }
      ([.duration (state.toSignal host)], { s with durations := s.durations.insert key state })

/-- `i64::saturating_add`. -/
def saturatingAddInt (a b : Int) : Int := max (-2 ^ 63) (min (a + b) (2 ^ 63 - 1))

def updateActiveGauge (key : ConnectionMetricKey) (template : ConnectionMetricTemplate) (delta : Int) (timestamp : Nat)
    (host : Option Bytes) (s : State) : List Output × State :=
  match s.activeCounts.lookup key with
  | some state =>
    let state := { state with
      value := max (saturatingAddInt state.value delta) 0
      window := ⟨min state.window.startUnixNanos timestamp, max state.window.endUnixNanos timestamp⟩ }
    ([.gauge (state.toSignal host)], { s with activeCounts := s.activeCounts.insert key state })
  | none =>
    if limits.maxMetricKeys ≤ s.activeCounts.entries.length then ([], s)
    else
      let state : ActiveGaugeState := { template, value := max delta 0, window := ⟨timestamp, timestamp⟩ }
      ([.gauge (state.toSignal host)], { s with activeCounts := s.activeCounts.insert key state })

def trackActiveOpen (event : NetworkConnectionOpenEvent) (host : Option Bytes) (s : State) : List Output × State :=
  match ActiveConnectionKey.fromConnection event.toConnectionIdentity with
  | none => ([], s)
  | some connectionKey =>
    if (s.activeConnections.lookup connectionKey).isSome then ([], s)
    else if limits.maxActiveConnections ≤ s.activeConnections.entries.length then ([], s)
    else
      let gaugeKey := ConnectionMetricKey.fromConnection event.toConnectionIdentity
      updateActiveGauge limits gaugeKey (.fromConnection event.toConnectionIdentity) 1 event.timestampUnixNanos host
        { s with activeConnections := s.activeConnections.insert connectionKey gaugeKey }

def trackActiveClose (event : NetworkConnectionCloseEvent) (host : Option Bytes) (s : State) : List Output × State :=
  match ActiveConnectionKey.fromConnection event.toConnectionIdentity with
  | none => ([], s)
  | some connectionKey =>
    match s.activeConnections.lookup connectionKey with
    | none => ([], s)
    | some gaugeKey =>
      updateActiveGauge limits gaugeKey (.fromConnection event.toConnectionIdentity) (-1) event.closedAtUnixNanos host
        { s with activeConnections := s.activeConnections.erase connectionKey }

def flowOutputs (source : Bytes) (host : Option Bytes) (event : ConnectionFlowView) (interval : FlowInterval)
    (s : State) : List Output × State :=
  let counted :=
    if event.kubernetes.isSome then
      observeCounterBy limits (.flowBytes event) (.flowBytes event) interval.startUnixNanos interval.endUnixNanos
        (saturatingAdd interval.bytesSent interval.bytesReceived) host s
    else ([], s)
  ((flowSummaries host event interval).map .flowSummary ++
      ((flowWarning source host event interval).toList.map .flowWarning ++ counted.1), counted.2)

def observeOpen (event : NetworkConnectionOpenEvent) (host : Option Bytes) (s : State) : List Output × State :=
  let opened := observeCounter limits (.connectionOpen event) (.connectionOpen event) event.timestampUnixNanos host s
  let protocol := observeCounter limits (.protocolOpen event) (.protocolOpen event) event.timestampUnixNanos host
    opened.2
  let traffic := observeCounter limits (.trafficDestination event) (.trafficDestination event)
    event.timestampUnixNanos host protocol.2
  let active := trackActiveOpen limits event host traffic.2
  (opened.1 ++ (protocol.1 ++ (traffic.1 ++ active.1)), active.2)

def observeDuration (event : NetworkConnectionCloseEvent) (host : Option Bytes) (s : State) : List Output × State :=
  match event.durationNanos with
  | some durationNanos => updateDuration limits event durationNanos host s
  | none => ([], s)

def observeClose (source : Bytes) (event : NetworkConnectionCloseEvent) (host : Option Bytes) (s : State) :
    List Output × State :=
  let timed := observeDuration limits event host s
  let active := trackActiveClose limits event host timed.2
  let interval := closeFlowInterval limits.maxActiveConnections event active.2.flows
  let flow := flowOutputs limits source host (.fromClose event) interval.1 { active.2 with flows := interval.2 }
  (timed.1 ++ (active.1 ++ flow.1), flow.2)

def observeSnapshot (source : Bytes) (event : NetworkConnectionSnapshotEvent) (host : Option Bytes) (s : State) :
    List Output × State :=
  let interval := snapshotFlowInterval limits.maxActiveConnections event s.flows
  match interval.1 with
  | none => ([], { s with flows := interval.2 })
  | some flow => flowOutputs limits source host (.fromSnapshot event) flow { s with flows := interval.2 }

def observeFailure (event : NetworkConnectionFailureEvent) (host : Option Bytes) (s : State) : List Output × State :=
  observeCounter limits (.connectionFailure event) (.connectionFailure event) event.timestampUnixNanos host s

def observeTcpStat (event : NetworkTcpStatObservation) (host : Option Bytes) (s : State) : List Output × State :=
  match tcpStatMetricName event with
  | none => ([], s)
  | some metricName =>
    observeCounter limits (.tcpStat metricName event) (.tcpStat metricName event) event.timestampUnixNanos host s

def markSeen (signal : SignalEnvelope NetworkPayload) (s : State) : Bool × State :=
  match EventFingerprint.fromSignal signal with
  | none => (true, s)
  | some fingerprint =>
    let seen := s.seenEvents.insertIfNew fingerprint (saturatingMul limits.maxMetricKeys 4)
    (seen.1, { s with seenEvents := seen.2 })

def outputsForSignal (signal : SignalEnvelope NetworkPayload) (s : State) : List Output × State :=
  let marked := markSeen limits signal s
  if marked.1 then
    match signal.payload with
    | .networkConnectionOpen event => observeOpen limits event signal.host marked.2
    | .networkConnectionClose event => observeClose limits signal.source event signal.host marked.2
    | .networkConnectionSnapshot event => observeSnapshot limits signal.source event signal.host marked.2
    | .networkConnectionFailure event => observeFailure limits event signal.host marked.2
    | .networkTcpStatObservation event => observeTcpStat limits event signal.host marked.2
  else ([], marked.2)

end ENavigator.Metrics.Network
