import ENavigator.Lib.Whitespace
import ENavigator.Metrics.Counters
import ENavigator.Metrics.Record

/-!
# DNS metrics

The generator of DNS query counts, response code counts, lookup latencies and the edges from workloads to the domains
that they resolve.
-/

namespace ENavigator.Metrics.Dns

open Signals

/-! ## Domains -/

def trimEndDots (bytes : Bytes) : Bytes := (bytes.reverse.dropWhile (· == 46)).reverse

def invalidLabel (label : Bytes) : Bool :=
  label.isEmpty || 63 < label.length || label.head? == some 45 || label.getLast? == some 45 ||
    !label.all fun b => isAsciiAlphanumeric b || b == 45

def normalizeDomain (rawDomain : Bytes) : Option Bytes :=
  let domain := (trimEndDots (trim rawDomain)).map toAsciiLowercase
  if domain.isEmpty || 253 < domain.length || (domain.splitOn 46).any invalidLabel then none else some domain

/-! ## Keys and templates -/

structure CounterKey where
  metricName : Bytes
  workload : Option Bytes
  container : Option Bytes
  queryName : Option Bytes
  queryType : Option DnsQueryType
  responseCode : Option DnsResponseCode
  serverAddress : Option Bytes
  serverPort : Option Nat
  deriving DecidableEq

def CounterKey.query (event : DnsQueryEvent) (domain : Option Bytes) : CounterKey :=
  { metricName := text "dns.query.count"
    workload := event.kubernetes.map workloadKey
    container := event.container.map (·.containerId)
    queryName := domain
    queryType := some event.queryType
    responseCode := none
    serverAddress := event.serverAddress
    serverPort := event.serverPort }

variable (event : DnsResponseEvent) (domain : Option Bytes)

/-- `CounterKey::response_code`; a field has that name here. -/
def CounterKey.ofResponseCode : CounterKey :=
  { CounterKey.query event.toDnsQueryEvent domain with
    metricName := text "dns.response.code.count"
    responseCode := some event.responseCode }

structure CounterTemplate where
  metricName : Bytes
  unit : Bytes
  queryName : Option Bytes
  queryType : Option DnsQueryType
  responseCode : Option DnsResponseCode
  serverAddress : Option Bytes
  serverPort : Option Nat
  container : Option ContainerContext
  kubernetes : Option KubernetesContext

def CounterTemplate.query (event : DnsQueryEvent) (domain : Option Bytes) : CounterTemplate :=
  { metricName := text "dns.query.count"
    unit := text "\x7bquery\x7d"
    queryName := domain
    queryType := some event.queryType
    responseCode := none
    serverAddress := event.serverAddress
    serverPort := event.serverPort
    container := event.container
    kubernetes := event.kubernetes }

def CounterTemplate.ofResponseCode : CounterTemplate :=
  { CounterTemplate.query event.toDnsQueryEvent domain with
    metricName := text "dns.response.code.count"
    unit := text "\x7bresponse\x7d"
    responseCode := some event.responseCode }

/-- `CounterState::to_signal`. -/
def counterSignal (host : Option Bytes) (state : CounterState CounterTemplate) : SignalEnvelope MetricPayload :=
  SignalEnvelope.dnsCounterMetric (text "generator.dns_metrics") host
    { metricName := state.template.metricName
      unit := state.template.unit
      value := state.value
      window := state.window
      queryName := state.template.queryName
      queryType := state.template.queryType
      responseCode := state.template.responseCode
      serverAddress := state.template.serverAddress
      serverPort := state.template.serverPort
      container := state.template.container
      kubernetes := state.template.kubernetes }

structure LatencyKey where
  workload : Option Bytes
  container : Option Bytes
  queryName : Option Bytes
  queryType : DnsQueryType
  responseCode : DnsResponseCode
  deriving DecidableEq

def LatencyKey.fromResponse : LatencyKey :=
  { workload := event.kubernetes.map workloadKey
    container := event.container.map (·.containerId)
    queryName := domain
    queryType := event.queryType
    responseCode := event.responseCode }

structure LatencyTemplate where
  queryName : Option Bytes
  queryType : Option DnsQueryType
  responseCode : Option DnsResponseCode
  serverAddress : Option Bytes
  serverPort : Option Nat
  container : Option ContainerContext
  kubernetes : Option KubernetesContext

def LatencyTemplate.fromResponse : LatencyTemplate :=
  { queryName := domain
    queryType := some event.queryType
    responseCode := some event.responseCode
    serverAddress := event.serverAddress
    serverPort := event.serverPort
    container := event.container
    kubernetes := event.kubernetes }

structure LatencyState where
  template : LatencyTemplate
  count : Nat
  sumNanos : Nat
  minNanos : Nat
  maxNanos : Nat
  window : MetricAggregationWindow

def LatencyState.toSignal (state : LatencyState) (host : Option Bytes) : SignalEnvelope MetricPayload :=
  SignalEnvelope.dnsLatencyMetric (text "generator.dns_metrics") host
    { metricName := text "dns.lookup.duration"
      unit := text "ns"
      count := state.count
      sumNanos := state.sumNanos
      minNanos := state.minNanos
      maxNanos := state.maxNanos
      window := state.window
      queryName := state.template.queryName
      queryType := state.template.queryType
      responseCode := state.template.responseCode
      serverAddress := state.template.serverAddress
      serverPort := state.template.serverPort
      container := state.template.container
      kubernetes := state.template.kubernetes }

structure EdgeKey where
  workload : Option Bytes
  container : Option Bytes
  domain : Bytes
  deriving DecidableEq

def EdgeKey.fromResponse (domain : Bytes) : EdgeKey :=
  { workload := event.kubernetes.map workloadKey, container := event.container.map (·.containerId), domain }

structure EdgeState where
  source : DependencyEndpoint
  destination : DependencyEndpoint
  protocol : NetworkProtocol
  observations : Nat
  firstSeenUnixNanos : Nat
  lastSeenUnixNanos : Nat

def EdgeState.toSignal (state : EdgeState) (host : Option Bytes) : SignalEnvelope DependencyEdgeEvent :=
  SignalEnvelope.dependencyEdge (text "generator.dns_metrics") host
    { source := state.source
      destination := state.destination
      protocol := state.protocol
      observations := state.observations
      firstSeenUnixNanos := state.firstSeenUnixNanos
      lastSeenUnixNanos := state.lastSeenUnixNanos }

inductive EventKind | query | response
  deriving DecidableEq

structure EventFingerprint where
  kind : EventKind
  queryName : Bytes
  queryType : DnsQueryType
  transactionId : Option Nat
  responseCode : Option DnsResponseCode
  timestamp : Nat
  deriving DecidableEq

def EventFingerprint.fromSignal (signal : SignalEnvelope DnsPayload) : EventFingerprint :=
  match signal.payload with
  | .dnsQuery event =>
    { kind := .query
      queryName := (normalizeDomain event.queryName).getD event.queryName
      queryType := event.queryType
      transactionId := event.transactionId
      responseCode := none
      timestamp := event.timestampUnixNanos }
  | .dnsResponse event =>
    { kind := .response
      queryName := (normalizeDomain event.queryName).getD event.queryName
      queryType := event.queryType
      transactionId := event.transactionId
      responseCode := some event.responseCode
      timestamp := event.timestampUnixNanos }

/-! ## The generator -/

structure Limits where
  maxDomains : Nat
  maxCounters : Nat
  maxLatencies : Nat
  maxEdges : Nat

structure State where
  domains : List Bytes := []
  counters : Counters CounterKey CounterTemplate := ∅
  latencies : AList (fun _ : LatencyKey => LatencyState) := ∅
  edges : AList (fun _ : EdgeKey => EdgeState) := ∅
  seenEvents : BoundedFingerprints EventFingerprint := {}

/-- What is emitted; of a counter also the key of its state. -/
inductive Output
  | counter (key : CounterKey) (signal : SignalEnvelope MetricPayload)
  | latency (signal : SignalEnvelope MetricPayload)
  | edge (signal : SignalEnvelope DependencyEdgeEvent)

variable (limits : Limits)

/-- The label of a domain, and the domains that have one. -/
def domainLabel (rawDomain : Bytes) (domains : List Bytes) : Option Bytes × List Bytes :=
  match normalizeDomain rawDomain with
  | none => (none, domains)
  | some domain =>
    if domain ∈ domains then (some domain, domains)
    else if limits.maxDomains ≤ domains.length then (none, domains)
    else (some domain, domain :: domains)

def observeCounter (key : CounterKey) (template : CounterTemplate) (timestamp : Nat) (host : Option Bytes) (s : State) :
    List Output × State :=
  let r := updateCounter limits.maxCounters key template timestamp s.counters
  (r.1.toList.map fun state => .counter key (counterSignal host state), { s with counters := r.2 })

def updateLatency (event : DnsResponseEvent) (domain : Option Bytes) (latencyNanos : Nat) (host : Option Bytes)
    (s : State) : List Output × State :=
  let key := LatencyKey.fromResponse event domain
  match s.latencies.lookup key with
  | some state =>
    let state := { state with
      count := saturatingAdd state.count 1
      sumNanos := saturatingAdd state.sumNanos latencyNanos
      minNanos := min state.minNanos latencyNanos
      maxNanos := max state.maxNanos latencyNanos
      window := { state.window with endUnixNanos := max state.window.endUnixNanos event.timestampUnixNanos } }
    ([.latency (state.toSignal host)], { s with latencies := s.latencies.insert key state })
  | none =>
    if limits.maxLatencies ≤ s.latencies.entries.length then ([], s)
    else
      let state : LatencyState :=
        { template := .fromResponse event domain
          count := 1
          sumNanos := latencyNanos
          minNanos := latencyNanos
          maxNanos := latencyNanos
          window := ⟨event.timestampUnixNanos, event.timestampUnixNanos⟩ }
      ([.latency (state.toSignal host)], { s with latencies := s.latencies.insert key state })

def updateEdge (event : DnsResponseEvent) (domain : Bytes) (host : Option Bytes) (s : State) : List Output × State :=
  let key := EdgeKey.fromResponse event domain
  match s.edges.lookup key with
  | some state =>
    if state.lastSeenUnixNanos = event.timestampUnixNanos then ([], s)
    else
      let state := { state with
        observations := saturatingAdd state.observations 1
        lastSeenUnixNanos := max state.lastSeenUnixNanos event.timestampUnixNanos }
      ([.edge (state.toSignal host)], { s with edges := s.edges.insert key state })
  | none =>
    if limits.maxEdges ≤ s.edges.entries.length then ([], s)
    else
      let state : EdgeState :=
        { source :=
            { ownerName := none, ownerType := none, workload := event.kubernetes, container := event.container
              address := none, port := none, domain := none }
          destination :=
            { ownerName := none, ownerType := none, workload := none, container := none, address := none, port := none
              domain := some domain }
          protocol := event.transportProtocol
          observations := 1
          firstSeenUnixNanos := event.timestampUnixNanos
          lastSeenUnixNanos := event.timestampUnixNanos }
      ([.edge (state.toSignal host)], { s with edges := s.edges.insert key state })

def observeQuery (event : DnsQueryEvent) (host : Option Bytes) (s : State) : List Output × State :=
  let domain := domainLabel limits event.queryName s.domains
  observeCounter limits (.query event domain.1) (.query event domain.1) event.timestampUnixNanos host
    { s with domains := domain.2 }

def observeLatency (event : DnsResponseEvent) (domain : Option Bytes) (host : Option Bytes) (s : State) :
    List Output × State :=
  match event.latencyNanos with
  | some latencyNanos => updateLatency limits event domain latencyNanos host s
  | none => ([], s)

/-- The edge to a domain that was resolved. -/
def observeEdge (event : DnsResponseEvent) (domain : Option Bytes) (host : Option Bytes) (s : State) :
    List Output × State :=
  match event.responseCode, domain with
  | .noError, some domain => updateEdge limits event domain host s
  | _, _ => ([], s)

def observeResponse (event : DnsResponseEvent) (host : Option Bytes) (s : State) : List Output × State :=
  let domain := domainLabel limits event.queryName s.domains
  let counted := observeCounter limits (.ofResponseCode event domain.1) (.ofResponseCode event domain.1)
    event.timestampUnixNanos host { s with domains := domain.2 }
  let timed := observeLatency limits event domain.1 host counted.2
  let linked := observeEdge limits event domain.1 host timed.2
  (counted.1 ++ (timed.1 ++ linked.1), linked.2)

def outputsForSignal (signal : SignalEnvelope DnsPayload) (s : State) : List Output × State :=
  let seen := s.seenEvents.insertIfNew (.fromSignal signal) (saturatingMul limits.maxDomains 4)
  if seen.1 then
    match signal.payload with
    | .dnsQuery event => observeQuery limits event signal.host { s with seenEvents := seen.2 }
    | .dnsResponse event => observeResponse limits event signal.host { s with seenEvents := seen.2 }
  else ([], { s with seenEvents := seen.2 })

end ENavigator.Metrics.Dns
