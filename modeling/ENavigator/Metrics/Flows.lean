import Mathlib.Algebra.GroupWithZero.Nat
import ENavigator.Metrics.Network

/-!
# Flows of a signal

What a signal does to flows, apart from everything else the generator keeps: `outputsForSignal` moves the flow state by
`FlowState.next`, and the bytes of the flow summaries that it emits are those of the interval.
-/

namespace ENavigator.Metrics.Network

open Signals List

/-! ## Bytes of summaries -/

def Output.flowBytes (direction : NetworkFlowDirection) : Output → Nat
  | .flowSummary signal => if signal.payload.direction = direction then signal.payload.bytes else 0
  | _ => 0

def flowBytes (direction : NetworkFlowDirection) (outputs : List Output) : Nat :=
  (outputs.map (Output.flowBytes direction)).sum

section bytes

variable {direction : NetworkFlowDirection}

@[simp] theorem flowBytes_nil : flowBytes direction [] = 0 := rfl

@[simp] theorem flowBytes_append (a b : List Output) :
    flowBytes direction (a ++ b) = flowBytes direction a + flowBytes direction b := by
  simp [flowBytes]

def Output.isFlow : Output → Bool
  | .flowSummary _ => true
  | _ => false

theorem Output.flowBytes_of_not_isFlow {output : Output} (h : output.isFlow = false) :
    output.flowBytes direction = 0 := by
  cases output with
  | flowSummary signal => cases h
  | _ => rfl

def NoFlows (outputs : List Output) : Prop := ∀ output ∈ outputs, output.isFlow = false

theorem NoFlows.flowBytes {outputs : List Output} (h : NoFlows outputs) : flowBytes direction outputs = 0 := by
  induction outputs with
  | nil => rfl
  | cons output outputs ih =>
    obtain ⟨houtput, houtputs⟩ := forall_mem_cons.mp h
    show output.flowBytes direction + Network.flowBytes direction outputs = 0
    rw [Output.flowBytes_of_not_isFlow houtput, ih houtputs]

end bytes

/-! ## Transitions without flows -/

section silent

variable {limits : Limits} {host : Option Bytes} {s : State} {r : List Output × State}

/-- A transition that emits no flow summary and keeps the flow state and the events seen. -/
structure Silent (s : State) (r : List Output × State) : Prop where
  outputs : NoFlows r.1
  flows : r.2.flows = s.flows
  seenEvents : r.2.seenEvents = s.seenEvents

/-- Neither a counter nor a flow summary. -/
def Output.isAside : Output → Bool
  | .counter _ _ => false
  | .flowSummary _ => false
  | _ => true

/-- A transition of the durations and the active connections only. -/
structure Aside (s : State) (r : List Output × State) : Prop where
  outputs : ∀ output ∈ r.1, output.isAside = true
  counters : r.2.counters = s.counters
  flows : r.2.flows = s.flows
  seenEvents : r.2.seenEvents = s.seenEvents

theorem Aside.nil : Aside s ([], s) := ⟨fun _ h => absurd h not_mem_nil, rfl, rfl, rfl⟩

theorem Aside.silent (h : Aside s r) : Silent s r := by
  refine ⟨fun output houtput => ?_, h.flows, h.seenEvents⟩
  have haside := h.outputs output houtput
  cases output with
  | flowSummary signal => cases haside
  | _ => rfl

theorem Silent.nil : Silent s ([], s) := ⟨fun _ h => absurd h not_mem_nil, rfl, rfl⟩

theorem Silent.append {r' : List Output × State} (h : Silent s r) (h' : Silent r.2 r') :
    Silent s (r.1 ++ r'.1, r'.2) := by
  refine ⟨?_, h'.flows.trans h.flows, h'.seenEvents.trans h.seenEvents⟩
  exact forall_mem_append.mpr ⟨h.outputs, h'.outputs⟩

theorem silent_observeCounterBy {key : CounterKey} {template : CounterTemplate} {windowStart windowEnd value : Nat} :
    Silent s (observeCounterBy limits key template windowStart windowEnd value host s) := by
  refine ⟨?_, rfl, rfl⟩
  intro output houtput
  obtain ⟨state, -, rfl⟩ := mem_map.mp houtput
  rfl

theorem aside_duration {event : NetworkConnectionCloseEvent} : Aside s (observeDuration limits event host s) := by
  unfold observeDuration
  split
  · unfold updateDuration
    dsimp only
    split
    · exact ⟨forall_mem_singleton.mpr rfl, rfl, rfl, rfl⟩
    · split
      · exact .nil
      · exact ⟨forall_mem_singleton.mpr rfl, rfl, rfl, rfl⟩
  · exact .nil

theorem aside_gauge {key : ConnectionMetricKey} {template : ConnectionMetricTemplate} {delta : Int} {timestamp : Nat} :
    Aside s (updateActiveGauge limits key template delta timestamp host s) := by
  unfold updateActiveGauge
  split
  · exact ⟨forall_mem_singleton.mpr rfl, rfl, rfl, rfl⟩
  · split
    · exact .nil
    · exact ⟨forall_mem_singleton.mpr rfl, rfl, rfl, rfl⟩

theorem aside_activeOpen {event : NetworkConnectionOpenEvent} : Aside s (trackActiveOpen limits event host s) := by
  unfold trackActiveOpen
  split
  · exact .nil
  · split
    · exact .nil
    · split
      · exact .nil
      · exact ⟨aside_gauge.outputs, aside_gauge.counters, aside_gauge.flows, aside_gauge.seenEvents⟩

theorem aside_activeClose {event : NetworkConnectionCloseEvent} : Aside s (trackActiveClose limits event host s) := by
  unfold trackActiveClose
  split
  · exact .nil
  · split
    · exact .nil
    · exact ⟨aside_gauge.outputs, aside_gauge.counters, aside_gauge.flows, aside_gauge.seenEvents⟩

theorem silent_observeOpen {event : NetworkConnectionOpenEvent} : Silent s (observeOpen limits event host s) :=
  silent_observeCounterBy.append
    (silent_observeCounterBy.append (silent_observeCounterBy.append aside_activeOpen.silent))

theorem silent_observeTcpStat {event : NetworkTcpStatObservation} : Silent s (observeTcpStat limits event host s) := by
  unfold observeTcpStat
  split
  · exact .nil
  · exact silent_observeCounterBy

/-! ## Transitions with flows -/

theorem flowBytes_optional {direction : NetworkFlowDirection} {signal : SignalEnvelope NetworkFlowSummaryEvent}
    {emit : Prop} [Decidable emit] (h : ¬ emit → signal.payload.bytes = 0) :
    flowBytes direction ((if emit then [signal] else []).map .flowSummary) =
      if signal.payload.direction = direction then signal.payload.bytes else 0 := by
  by_cases hemit : emit
  · simp [hemit, flowBytes, Output.flowBytes]
  · simp [hemit, h hemit]

variable {event : ConnectionFlowView} {interval : FlowInterval}

theorem flowBytes_flowSummaries (h : event.kubernetes.isSome) :
    flowBytes .egress ((flowSummaries host event interval).map .flowSummary) = interval.bytesSent ∧
      flowBytes .ingress ((flowSummaries host event interval).map .flowSummary) = interval.bytesReceived := by
  obtain ⟨kubernetes, hkubernetes⟩ := Option.isSome_iff_exists.mp h
  have hnone : ∀ n : Nat, ¬ (0 < n ∨ interval.emitUnchanged) → n = 0 := by
    intro n hn
    omega
  unfold flowSummaries
  rw [hkubernetes, map_append, flowBytes_append, flowBytes_append]
  constructor
  · rw [flowBytes_optional (hnone interval.bytesSent), flowBytes_optional (hnone interval.bytesReceived)]
    rfl
  · rw [flowBytes_optional (hnone interval.bytesSent), flowBytes_optional (hnone interval.bytesReceived)]
    exact Nat.zero_add _

theorem silent_flowOutputs (source : Bytes) :
    (flowOutputs limits source host event interval s).2.flows = s.flows ∧
      (flowOutputs limits source host event interval s).2.seenEvents = s.seenEvents := by
  unfold flowOutputs
  split <;> exact ⟨rfl, rfl⟩

theorem flowBytes_flowOutputs {source : Bytes} (h : event.kubernetes.isSome) :
    flowBytes .egress (flowOutputs limits source host event interval s).1 = interval.bytesSent ∧
      flowBytes .ingress (flowOutputs limits source host event interval s).1 = interval.bytesReceived := by
  have hwarning : NoFlows ((flowWarning source host event interval).toList.map Output.flowWarning) := by
    intro output houtput
    obtain ⟨signal, -, rfl⟩ := mem_map.mp houtput
    rfl
  have hcounter := (@silent_observeCounterBy limits host s (.flowBytes event) (.flowBytes event) interval.startUnixNanos
    interval.endUnixNanos (saturatingAdd interval.bytesSent interval.bytesReceived)).outputs
  obtain ⟨hegress, hingress⟩ := @flowBytes_flowSummaries host event interval h
  unfold flowOutputs
  rw [if_pos h]
  simp [hegress, hingress, hwarning.flowBytes, hcounter.flowBytes]

end silent

/-! ## The flow state of a signal -/

/-- What a signal that is new does to the flow state. -/
def FlowState.next (maxActiveConnections : Nat) (s : FlowState) : NetworkPayload → FlowState
  | .networkConnectionClose event => (closeFlowInterval maxActiveConnections event s).2
  | .networkConnectionSnapshot event => (snapshotFlowInterval maxActiveConnections event s).2
  | _ => s

/-- The interval that a signal that is new shows. -/
def FlowState.interval? (maxActiveConnections : Nat) (s : FlowState) : NetworkPayload → Option FlowInterval
  | .networkConnectionClose event => some (closeFlowInterval maxActiveConnections event s).1
  | .networkConnectionSnapshot event => (snapshotFlowInterval maxActiveConnections event s).1
  | _ => none

def kubernetes? : NetworkPayload → Option KubernetesContext
  | .networkConnectionClose event => event.kubernetes
  | .networkConnectionSnapshot event => event.kubernetes
  | _ => none

section effect

variable (limits : Limits)

/-- What a signal that is new does, in the terms of the flow state. -/
structure FlowEffect (payload : NetworkPayload) (s : State) (r : List Output × State) : Prop where
  flows : r.2.flows = s.flows.next limits.maxActiveConnections payload
  seenEvents : r.2.seenEvents = s.seenEvents
  sent : (kubernetes? payload).isSome → flowBytes .egress r.1 =
    ((s.flows.interval? limits.maxActiveConnections payload).map (·.bytesSent)).getD 0
  received : (kubernetes? payload).isSome → flowBytes .ingress r.1 =
    ((s.flows.interval? limits.maxActiveConnections payload).map (·.bytesReceived)).getD 0

variable {limits} {host : Option Bytes} {s : State} {source : Bytes}

theorem Silent.flowEffect {payload : NetworkPayload} {r : List Output × State} (h : Silent s r)
    (hnext : s.flows.next limits.maxActiveConnections payload = s.flows := by rfl)
    (hpod : kubernetes? payload = none := by rfl) :
    FlowEffect limits payload s r := by
  refine ⟨h.flows.trans hnext.symm, h.seenEvents, ?_, ?_⟩ <;>
  · intro hsome
    rw [hpod] at hsome
    cases hsome

theorem flowEffect_observeClose {event : NetworkConnectionCloseEvent} :
    FlowEffect limits (.networkConnectionClose event) s (observeClose limits source event host s) := by
  have hbefore := (@aside_duration limits host s event).silent.append (@aside_activeClose limits host _ event).silent
  have hflows := hbefore.flows
  have hseen := hbefore.seenEvents
  have hpod : (kubernetes? (.networkConnectionClose event)).isSome →
      (ConnectionFlowView.fromClose event).kubernetes.isSome := id
  unfold observeClose
  dsimp only
  rw [hflows]
  refine ⟨?_, ?_, ?_, ?_⟩
  · exact (silent_flowOutputs source).1
  · exact (silent_flowOutputs source).2.trans hseen
  · intro hsome
    rw [← append_assoc, flowBytes_append, hbefore.outputs.flowBytes, Nat.zero_add]
    exact (flowBytes_flowOutputs (hpod hsome)).1
  · intro hsome
    rw [← append_assoc, flowBytes_append, hbefore.outputs.flowBytes, Nat.zero_add]
    exact (flowBytes_flowOutputs (hpod hsome)).2

theorem flowEffect_observeSnapshot {event : NetworkConnectionSnapshotEvent} :
    FlowEffect limits (.networkConnectionSnapshot event) s (observeSnapshot limits source event host s) := by
  have hpod : (kubernetes? (.networkConnectionSnapshot event)).isSome →
      (ConnectionFlowView.fromSnapshot event).kubernetes.isSome := id
  unfold observeSnapshot
  dsimp only
  split
  next hnone =>
    refine ⟨rfl, rfl, fun _ => ?_, fun _ => ?_⟩ <;>
    · show 0 = _
      rw [FlowState.interval?, hnone]
      rfl
  next interval hsome =>
    refine ⟨(silent_flowOutputs source).1, (silent_flowOutputs source).2, ?_, ?_⟩
    · intro h
      rw [FlowState.interval?, hsome]
      exact (flowBytes_flowOutputs (hpod h)).1
    · intro h
      rw [FlowState.interval?, hsome]
      exact (flowBytes_flowOutputs (hpod h)).2

variable {signal : SignalEnvelope NetworkPayload}

theorem flows_markSeen : (markSeen limits signal s).2.flows = s.flows := by
  unfold markSeen
  split <;> rfl

theorem outputsForSignal_of_seen (h : (markSeen limits signal s).1 = false) :
    outputsForSignal limits signal s = ([], (markSeen limits signal s).2) := by
  unfold outputsForSignal
  rw [if_neg (by simp [h])]

theorem flowEffect_outputsForSignal (h : (markSeen limits signal s).1 = true) :
    FlowEffect limits signal.payload (markSeen limits signal s).2 (outputsForSignal limits signal s) := by
  unfold outputsForSignal
  rw [if_pos h]
  cases hpayload : signal.payload with
  | networkConnectionOpen event => exact silent_observeOpen.flowEffect
  | networkConnectionClose event => exact flowEffect_observeClose
  | networkConnectionSnapshot event => exact flowEffect_observeSnapshot
  | networkConnectionFailure event => exact silent_observeCounterBy.flowEffect
  | networkTcpStatObservation event => exact silent_observeTcpStat.flowEffect

end effect

/-! ## What one connection event does -/

section cases

variable {maxActiveConnections : Nat} {key : ActiveConnectionKey} {s : FlowState}

def FlowSnapshotState.ofEvent (event : NetworkConnectionSnapshotEvent) : FlowSnapshotState :=
  { openedAtUnixNanos := event.openedAtUnixNanos
    observedAtUnixNanos := event.observedAtUnixNanos
    bytesSent := event.bytesSent
    bytesReceived := event.bytesReceived }

/-- The snapshot of an event's lifecycle that is stored under its key. -/
def previousOf (openedAt : Option Nat) (stored : Option FlowSnapshotState) : Option FlowSnapshotState :=
  stored.filter fun previous => sameConnectionLifecycle previous.openedAtUnixNanos openedAt

theorem snapshotFlowInterval_cases {event : NetworkConnectionSnapshotEvent}
    (hkey : ActiveConnectionKey.fromConnection event.toConnectionIdentity = some key) :
    lateSnapshot event (s.closedConnections.entries.lookup key) = true ∧
        snapshotFlowInterval maxActiveConnections event s = (none, s) ∨
      s.flowSnapshots.lookup key = none ∧ snapshotFlowInterval maxActiveConnections event s =
        (none, { s with closedConnections := s.closedConnections.remove key }) ∨
      snapshotFlowInterval maxActiveConnections event s =
        (some (intervalSince event (previousOf event.openedAtUnixNanos (s.flowSnapshots.lookup key))),
          { closedConnections := s.closedConnections.remove key
            flowSnapshots := s.flowSnapshots.insert key (.ofEvent event) }) := by
  unfold snapshotFlowInterval
  rw [hkey]
  dsimp only
  split
  next hlate => exact .inl ⟨hlate, rfl⟩
  next =>
    split
    next hfull =>
      rw [Bool.and_eq_true, Option.isNone_iff_eq_none] at hfull
      exact .inr (.inl ⟨hfull.1, rfl⟩)
    next => exact .inr (.inr rfl)

theorem closeFlowInterval_of_key {event : NetworkConnectionCloseEvent}
    (hkey : ActiveConnectionKey.fromConnection event.toConnectionIdentity = some key) :
    closeFlowInterval maxActiveConnections event s =
      (intervalToClose event (previousOf event.openedAtUnixNanos (s.flowSnapshots.lookup key)),
        { closedConnections := s.closedConnections.insert key
            { openedAtUnixNanos := event.openedAtUnixNanos, closedAtUnixNanos := event.closedAtUnixNanos }
            (max maxActiveConnections 1)
          flowSnapshots := s.flowSnapshots.erase key }) := by
  unfold closeFlowInterval
  rw [hkey]
  rfl

end cases

end ENavigator.Metrics.Network
