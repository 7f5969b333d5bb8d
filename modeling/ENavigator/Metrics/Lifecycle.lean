import ENavigator.Lib.Runs
import ENavigator.Metrics.Flows

/-!
# Lifecycles of connections

One connection in a run of the generator: which events are its own, what has arrived of it and of the connections around
it (`History`), and the bytes that were emitted for it (`FlowRun`). `Move` says what a connection event does to the flow
state; the generator never reads the history.
-/

namespace ENavigator.Metrics.Network

open Signals List ActiveConnectionKey

variable {cache : ClosedConnectionCache} {openedAt : Option Nat}

/-! ## Lifecycles -/

/-- A connection: its key and the time it opened at. -/
structure Lifecycle where
  key : ActiveConnectionKey
  openedAtUnixNanos : Nat

/-- The key and the opening time of a snapshot or a close. -/
def connection? : NetworkPayload → Option (ActiveConnectionKey × Option Nat)
  | .networkConnectionClose event =>
    (ActiveConnectionKey.fromConnection event.toConnectionIdentity).map (·, event.openedAtUnixNanos)
  | .networkConnectionSnapshot event =>
    (ActiveConnectionKey.fromConnection event.toConnectionIdentity).map (·, event.openedAtUnixNanos)
  | _ => none

/-- A snapshot or the close of the connection. -/
def Lifecycle.Owns (connection : Lifecycle) (payload : NetworkPayload) : Prop :=
  connection? payload = some (connection.key, some connection.openedAtUnixNanos)

instance (connection : Lifecycle) (payload : NetworkPayload) : Decidable (connection.Owns payload) :=
  inferInstanceAs (Decidable (connection? payload = some _))

/-- What has arrived, as far as one connection is concerned. -/
structure History where
  lastSnapshot : Option NetworkConnectionSnapshotEvent := none
  close : Option NetworkConnectionCloseEvent := none
  /-- An event of a later connection on the key has arrived since the close. -/
  reopened : Bool := false
  /-- The connections that have closed since the close. -/
  further : List ActiveConnectionKey := []
  /-- An event of another connection on the key has arrived since the first one of this. -/
  disturbed : Bool := false
  /-- The connections that are known to have closed later, whenever their close arrived. -/
  later : List ActiveConnectionKey := []

def History.started (history : History) : Bool := history.lastSnapshot.isSome || history.close.isSome

/-- Closed later than the connection; of two that closed at one time, the one with the larger key. -/
def ClosedLater (connection : Lifecycle) (closedAt : Nat) (key : ActiveConnectionKey) (otherClosedAt : Nat) : Prop :=
  (toLex (closedAt, connection.key) : ClosedConnectionRecency) < toLex (otherClosedAt, key)

instance (connection : Lifecycle) (closedAt : Nat) (key : ActiveConnectionKey) (otherClosedAt : Nat) :
    Decidable (ClosedLater connection closedAt key otherClosedAt) :=
  inferInstanceAs
    (Decidable ((toLex (closedAt, connection.key) : ClosedConnectionRecency) < toLex (otherClosedAt, key)))

/-- The closed connections in the cache that closed later. -/
def laterCached (connection : Lifecycle) (closedAt : Nat) (cache : ClosedConnectionCache) : List ActiveConnectionKey :=
  (cache.entries.entries.filter fun e => ClosedLater connection closedAt e.1 e.2.closedAtUnixNanos).map Prod.fst

theorem mem_laterCached {connection : Lifecycle} {closedAt : Nat} {key : ActiveConnectionKey}
    {state : ClosedConnectionState} (h : cache.entries.lookup key = some state)
    (hlater : ClosedLater connection closedAt key state.closedAtUnixNanos) :
    key ∈ laterCached connection closedAt cache := by
  refine mem_map.mpr ⟨(key, state), mem_filter.mpr ⟨SortedMap.mem_entries_of_lookup h, ?_⟩, rfl⟩
  exact decide_eq_true hlater

section observe

variable (connection : Lifecycle) (history : History)

def History.own (cache : ClosedConnectionCache) : NetworkPayload → History
  | .networkConnectionSnapshot event => { history with lastSnapshot := some event }
  | .networkConnectionClose event =>
    { history with close := some event, later := laterCached connection event.closedAtUnixNanos cache }
  | _ => history

def History.disturb (openedAt : Option Nat) : History :=
  { history with
    disturbed := history.disturbed || history.started
    reopened := history.reopened || history.close.isSome && openedAt.any (connection.openedAtUnixNanos < ·) }

def History.pass (key : ActiveConnectionKey) (payload : NetworkPayload) : History :=
  match payload, history.close with
  | .networkConnectionClose event, some close =>
    { history with
      further := history.further.insert key
      later :=
        if ClosedLater connection close.closedAtUnixNanos key event.closedAtUnixNanos then history.later.insert key
        else history.later }
  | _, _ => history

def History.observe (cache : ClosedConnectionCache) (payload : NetworkPayload) : History :=
  match connection? payload with
  | none => history
  | some (key, openedAt) =>
    if key = connection.key then
      if openedAt = some connection.openedAtUnixNanos then history.own connection cache payload
      else history.disturb connection openedAt
    else history.pass connection key payload

variable {connection history}

variable {payload : NetworkPayload}

theorem History.observe_of_owns (h : connection.Owns payload) :
    history.observe connection cache payload = history.own connection cache payload := by
  rw [History.observe, h]
  dsimp only
  rw [if_pos rfl, if_pos rfl]

section pass

variable (connection history) (key : ActiveConnectionKey) (payload : NetworkPayload)

theorem History.pass_eq : ∃ further later, history.pass connection key payload = { history with further, later } ∧
    history.later ⊆ later ∧ history.later.length ≤ later.length := by
  unfold History.pass
  split
  · refine ⟨_, _, rfl, ?_⟩
    split
    · exact ⟨fun _ hmem => mem_insert_of_mem hmem, length_le_length_insert⟩
    · exact ⟨List.Subset.refl _, le_rfl⟩
  · exact ⟨_, _, rfl, List.Subset.refl _, le_rfl⟩

end pass

theorem History.isSome_close_observe (h : history.close.isSome) :
    (history.observe connection cache payload).close.isSome := by
  unfold History.observe
  split
  · exact h
  · split
    · split
      · cases payload <;> first | exact h | rfl
      · exact h
    · obtain ⟨_, _, hpass, -⟩ := history.pass_eq connection _ payload
      rw [hpass]
      exact h

end observe

/-! ## Runs -/

structure FlowRun where
  generator : State := {}
  history : History := {}
  /-- The bytes of the flow summaries that were emitted for the connection. -/
  sent : Nat := 0
  received : Nat := 0

section runs

variable (limits : Limits) (connection : Lifecycle)

def FlowRun.step (run : FlowRun) (signal : SignalEnvelope NetworkPayload) : FlowRun :=
  let r := outputsForSignal limits signal run.generator
  { generator := r.2
    history := run.history.observe connection run.generator.flows.closedConnections signal.payload
    sent := run.sent + if connection.Owns signal.payload then flowBytes .egress r.1 else 0
    received := run.received + if connection.Owns signal.payload then flowBytes .ingress r.1 else 0 }

/-- Snapshots come in the order of their times with counts that do not go down, and go on after the close only for what
was observed before it, until the key is used again or as many connections have closed as are remembered. -/
def OrderlySnapshot (history : History) (event : NetworkConnectionSnapshotEvent) : Prop :=
  event.kubernetes.isSome ∧
    (∀ last ∈ history.lastSnapshot, last.observedAtUnixNanos < event.observedAtUnixNanos ∧
      last.bytesSent ≤ event.bytesSent ∧ last.bytesReceived ≤ event.bytesReceived) ∧
    ∀ close ∈ history.close, event.observedAtUnixNanos ≤ close.closedAtUnixNanos ∧
      event.bytesSent ≤ close.bytesSent.getD 0 ∧ event.bytesReceived ≤ close.bytesReceived.getD 0 ∧
      history.reopened = false ∧ history.further.length < limits.maxActiveConnections

/-- There is one close, and its counts are the largest. -/
def OrderlyClose (history : History) (event : NetworkConnectionCloseEvent) : Prop :=
  event.kubernetes.isSome ∧ history.close = none ∧
    ∀ last ∈ history.lastSnapshot, last.bytesSent ≤ event.bytesSent.getD 0 ∧
      last.bytesReceived ≤ event.bytesReceived.getD 0

def OrderlyPayload (history : History) : NetworkPayload → Prop
  | .networkConnectionSnapshot event => OrderlySnapshot limits history event
  | .networkConnectionClose event => OrderlyClose history event
  | _ => True

instance (history : History) : ∀ payload, Decidable (OrderlyPayload limits history payload)
  | .networkConnectionSnapshot _ => inferInstanceAs (Decidable (_ ∧ (∀ last ∈ history.lastSnapshot, _) ∧ _))
  | .networkConnectionClose _ => inferInstanceAs (Decidable (_ ∧ history.close = none ∧ _))
  | .networkConnectionOpen _ => isTrue trivial
  | .networkConnectionFailure _ => isTrue trivial
  | .networkTcpStatObservation _ => isTrue trivial

/-- The events of the connection come as a connection's events do. -/
def Orderly (run : FlowRun) (signal : SignalEnvelope NetworkPayload) : Prop :=
  connection.Owns signal.payload → OrderlyPayload limits run.history signal.payload

/-- No other connection came between on the key, nor left a snapshot there without its opening time. When the
connection is closed, fewer connections than are remembered closed later. -/
def Undisturbed (run : FlowRun) (signal : SignalEnvelope NetworkPayload) : Prop :=
  connection.Owns signal.payload →
    run.history.disturbed = false ∧
      (run.history.started = false → ∀ stored ∈ run.generator.flows.flowSnapshots.lookup connection.key,
        stored.openedAtUnixNanos ≠ none) ∧
      (run.history.close.isSome → run.history.later.length < max limits.maxActiveConnections 1)

instance (run : FlowRun) (signal : SignalEnvelope NetworkPayload) : Decidable (Orderly limits connection run signal) :=
  inferInstanceAs (Decidable (_ → _))

instance (run : FlowRun) (signal : SignalEnvelope NetworkPayload) :
    Decidable (Undisturbed limits connection run signal) :=
  inferInstanceAs (Decidable (_ → _ ∧ (_ → _) ∧ (_ → _)))

end runs

/-! ## What an event moves -/

section move

variable {limits : Limits} {signal : SignalEnvelope NetworkPayload} {s : State}

theorem flows_of_connection?_eq_none (h : connection? signal.payload = none) :
    (outputsForSignal limits signal s).2.flows = s.flows := by
  rcases hmarked : (markSeen limits signal s).1 with _ | _
  · rw [outputsForSignal_of_seen hmarked]
    exact flows_markSeen
  · rw [(flowEffect_outputsForSignal hmarked).flows, flows_markSeen]
    cases hpayload : signal.payload with
    | networkConnectionClose event =>
      rw [hpayload, connection?, Option.map_eq_none_iff] at h
      simp only [FlowState.next, closeFlowInterval, h]
    | networkConnectionSnapshot event =>
      rw [hpayload, connection?, Option.map_eq_none_iff] at h
      simp only [FlowState.next, snapshotFlowInterval, h]
    | _ => rfl

/-- At most the entry of `key` was dropped. -/
structure Kept (key : ActiveConnectionKey) (before after : ClosedConnectionCache) : Prop where
  others : ∀ other, other ≠ key → after.entries.lookup other = before.entries.lookup other
  back : ∀ other state, after.entries.lookup other = some state → before.entries.lookup other = some state
  size : after.entries.entries.length ≤ before.entries.entries.length

variable (key : ActiveConnectionKey)

theorem Kept.refl (cache : ClosedConnectionCache) : Kept key cache cache :=
  ⟨fun _ _ => rfl, fun _ _ h => h, le_rfl⟩

theorem kept_remove (cache : ClosedConnectionCache) : Kept key cache (cache.remove key) := by
  refine ⟨fun _ h => cache.lookup_remove_of_ne h, ?_, cache.length_remove_le key⟩
  intro other state hother
  by_cases hsame : other = key
  · rw [hsame, cache.lookup_remove_self] at hother
    cases hother
  · rw [← cache.lookup_remove_of_ne hsame]
    exact hother

/-- An event on `key` leaves everything else in place; under `key` it leaves what was stored or its own opening time. -/
structure Move (limits : Limits) (key : ActiveConnectionKey) (openedAt : Option Nat) (payload : NetworkPayload)
    (before after : FlowState) : Prop where
  others : ∀ other, other ≠ key → after.flowSnapshots.lookup other = before.flowSnapshots.lookup other
  own : ∀ stored ∈ after.flowSnapshots.lookup key,
    stored ∈ before.flowSnapshots.lookup key ∨ stored.openedAtUnixNanos = openedAt
  cached : Kept key before.closedConnections after.closedConnections ∨
    ∃ event, payload = .networkConnectionClose event ∧
      after.closedConnections = before.closedConnections.insert key
        { openedAtUnixNanos := openedAt, closedAtUnixNanos := event.closedAtUnixNanos }
        (max limits.maxActiveConnections 1)

theorem Move.refl (openedAt : Option Nat) (payload : NetworkPayload) (s : FlowState) :
    Move limits key openedAt payload s s :=
  ⟨fun _ _ => rfl, fun _ h => .inl h, .inl (.refl _ _)⟩

variable {key : ActiveConnectionKey}

theorem Move.size {payload : NetworkPayload} {before after : FlowState}
    (h : Move limits key openedAt payload before after)
    (hsize : before.closedConnections.entries.entries.length ≤ max limits.maxActiveConnections 1) :
    after.closedConnections.entries.entries.length ≤ max limits.maxActiveConnections 1 := by
  rcases h.cached with hkept | ⟨event, -, hcache⟩
  · exact hkept.size.trans hsize
  · rw [hcache]
    exact ClosedConnectionCache.length_insert_le hsize

theorem move_snapshot {event : NetworkConnectionSnapshotEvent}
    (hkey : fromConnection event.toConnectionIdentity = some key) (payload : NetworkPayload)
    (s : FlowState) :
    Move limits key event.openedAtUnixNanos payload s
      (snapshotFlowInterval limits.maxActiveConnections event s).2 := by
  rcases snapshotFlowInterval_cases hkey with ⟨-, heq⟩ | ⟨-, heq⟩ | heq
  · rw [heq]
    exact .refl _ _ _ s
  · rw [heq]
    exact ⟨fun _ _ => rfl, fun _ h => .inl h, .inl (kept_remove _ _)⟩
  · rw [heq]
    refine ⟨fun _ hother => AList.lookup_insert_ne hother, ?_, .inl (kept_remove _ _)⟩
    intro stored hstored
    rw [AList.lookup_insert] at hstored
    cases hstored
    exact .inr rfl

theorem move_close {event : NetworkConnectionCloseEvent}
    (hkey : fromConnection event.toConnectionIdentity = some key) (s : FlowState) :
    Move limits key event.openedAtUnixNanos (.networkConnectionClose event) s
      (closeFlowInterval limits.maxActiveConnections event s).2 := by
  rw [closeFlowInterval_of_key hkey]
  refine ⟨fun _ hother => AList.lookup_erase_ne hother, ?_, .inr ⟨event, rfl, rfl⟩⟩
  intro stored hstored
  rw [AList.lookup_erase] at hstored
  cases hstored

theorem fromConnection_of_connection? {identity : ConnectionIdentity} {openedAt openedAt' : Option Nat}
    (h : (fromConnection identity).map (·, openedAt) = some (key, openedAt')) :
    fromConnection identity = some key ∧ openedAt = openedAt' := by
  obtain ⟨key', hkey, heq⟩ := Option.map_eq_some_iff.mp h
  obtain ⟨rfl, hopened⟩ := Prod.mk.inj heq
  exact ⟨hkey, hopened⟩

theorem move_outputsForSignal (h : connection? signal.payload = some (key, openedAt)) :
    Move limits key openedAt signal.payload s.flows (outputsForSignal limits signal s).2.flows := by
  rcases hmarked : (markSeen limits signal s).1 with _ | _
  · rw [outputsForSignal_of_seen hmarked, flows_markSeen]
    exact .refl _ _ _ _
  · rw [(flowEffect_outputsForSignal hmarked).flows, flows_markSeen]
    cases hpayload : signal.payload with
    | networkConnectionClose event =>
      rw [hpayload] at h
      obtain ⟨hkey, rfl⟩ := fromConnection_of_connection? h
      exact move_close hkey s.flows
    | networkConnectionSnapshot event =>
      rw [hpayload] at h
      obtain ⟨hkey, rfl⟩ := fromConnection_of_connection? h
      exact move_snapshot hkey _ s.flows
    | _ =>
      rw [hpayload] at h
      cases h

/-! A snapshot that is late, or was seen, or finds no room, counts for nothing. -/

section snapshot

variable {key : ActiveConnectionKey} {event : NetworkConnectionSnapshotEvent}
  {out : List Output × State} (hout : outputsForSignal limits signal s = out)
  (hpayload : signal.payload = .networkConnectionSnapshot event)
  (hkey : ActiveConnectionKey.fromConnection event.toConnectionIdentity = some key)
  (hpod : event.kubernetes.isSome)
include hout hpayload hkey hpod

theorem outputsForSignal_of_late
    (hlate : lateSnapshot event (s.flows.closedConnections.entries.lookup key) = true) :
    out.2.flows = s.flows ∧
      flowBytes .egress out.1 = 0 ∧
      flowBytes .ingress out.1 = 0 := by
  subst hout
  rcases hmarked : (markSeen limits signal s).1 with _ | _
  · rw [outputsForSignal_of_seen hmarked]
    exact ⟨flows_markSeen, rfl, rfl⟩
  · have hnone : snapshotFlowInterval limits.maxActiveConnections event s.flows = (none, s.flows) := by
      unfold snapshotFlowInterval
      rw [hkey]
      dsimp only
      rw [if_pos hlate]
    obtain ⟨hflows, -, hsent, hreceived⟩ := flowEffect_outputsForSignal hmarked
    rw [hpayload, flows_markSeen] at hflows hsent hreceived
    rw [FlowState.next, hnone] at hflows
    rw [FlowState.interval?, hnone] at hsent hreceived
    exact ⟨hflows, hsent hpod, hreceived hpod⟩

theorem outputsForSignal_of_snapshot :
    out.2.flows.flowSnapshots.lookup key = s.flows.flowSnapshots.lookup key ∧
        flowBytes .egress out.1 = 0 ∧
        flowBytes .ingress out.1 = 0 ∨
      out.2.flows.flowSnapshots.lookup key = some (.ofEvent event) ∧
        flowBytes .egress out.1 =
          (intervalSince event (previousOf event.openedAtUnixNanos (s.flows.flowSnapshots.lookup key))).bytesSent ∧
        flowBytes .ingress out.1 =
          (intervalSince event
            (previousOf event.openedAtUnixNanos (s.flows.flowSnapshots.lookup key))).bytesReceived := by
  subst hout
  rcases hmarked : (markSeen limits signal s).1 with _ | _
  · rw [outputsForSignal_of_seen hmarked, flows_markSeen]
    exact .inl ⟨rfl, rfl, rfl⟩
  · obtain ⟨hflows, -, hsent, hreceived⟩ := flowEffect_outputsForSignal hmarked
    rw [hpayload, flows_markSeen] at hflows hsent hreceived
    rw [FlowState.next] at hflows
    rw [FlowState.interval?] at hsent hreceived
    rcases snapshotFlowInterval_cases hkey with ⟨-, heq⟩ | ⟨-, heq⟩ | heq <;> rw [heq] at hflows hsent hreceived
    · exact .inl ⟨by rw [hflows], hsent hpod, hreceived hpod⟩
    · exact .inl ⟨by rw [hflows], hsent hpod, hreceived hpod⟩
    · refine .inr ⟨?_, hsent hpod, hreceived hpod⟩
      rw [hflows]
      exact AList.lookup_insert _

end snapshot

end move

/-! ## Fingerprints -/

def EventFingerprint.connection? (fingerprint : EventFingerprint) : Option (ActiveConnectionKey × Option Nat) :=
  fingerprint.fd.map fun fd =>
    ({ pid := fingerprint.pid, fd, remoteAddress := fingerprint.remoteAddress, remotePort := fingerprint.remotePort },
      fingerprint.openedAt)

section seen

variable {limits : Limits} {signal : SignalEnvelope NetworkPayload} {s : State} {fingerprint : EventFingerprint}

theorem seenEvents_outputsForSignal :
    (outputsForSignal limits signal s).2.seenEvents = (markSeen limits signal s).2.seenEvents := by
  rcases hmarked : (markSeen limits signal s).1 with _ | _
  · rw [outputsForSignal_of_seen hmarked]
  · exact (flowEffect_outputsForSignal hmarked).seenEvents

theorem mem_seenEvents_markSeen (h : fingerprint ∈ (markSeen limits signal s).2.seenEvents.insertionOrder) :
    fingerprint ∈ s.seenEvents.insertionOrder ∨ EventFingerprint.fromSignal signal = some fingerprint := by
  unfold markSeen at h
  split at h
  next => exact .inl h
  next fingerprint' hfingerprint =>
    dsimp only [BoundedFingerprints.insertIfNew] at h
    split at h
    · exact .inl h
    · rcases mem_append.mp h with h | h
      · exact .inl (mem_of_mem_drop h)
      · rw [mem_singleton.mp h]
        exact .inr hfingerprint

theorem markSeen_of_unseen (hfingerprint : EventFingerprint.fromSignal signal = some fingerprint)
    (h : fingerprint ∉ s.seenEvents.insertionOrder) : (markSeen limits signal s).1 = true := by
  unfold markSeen
  rw [hfingerprint]
  dsimp only [BoundedFingerprints.insertIfNew]
  rw [if_neg h]

theorem fingerprint_of_close {event : NetworkConnectionCloseEvent}
    (hpayload : signal.payload = .networkConnectionClose event) :
    ∃ fingerprint, EventFingerprint.fromSignal signal = some fingerprint ∧ fingerprint.kind = .closed ∧
      fingerprint.connection? = connection? (.networkConnectionClose event) := by
  unfold EventFingerprint.fromSignal
  rw [hpayload]
  refine ⟨_, rfl, rfl, ?_⟩
  rw [connection?, fromConnection, Option.map_map]
  rfl

theorem close_of_fingerprint (hfingerprint : EventFingerprint.fromSignal signal = some fingerprint)
    (hkind : fingerprint.kind = .closed) :
    ∃ event, signal.payload = .networkConnectionClose event ∧
      fingerprint.connection? = connection? (.networkConnectionClose event) := by
  cases hpayload : signal.payload with
  | networkConnectionClose event =>
    obtain ⟨fingerprint', hfingerprint', -, hconnection⟩ := fingerprint_of_close hpayload
    obtain rfl := Option.some.inj (hfingerprint.symm.trans hfingerprint')
    exact ⟨event, rfl, hconnection⟩
  | networkTcpStatObservation event =>
    rw [EventFingerprint.fromSignal, hpayload] at hfingerprint
    cases hfingerprint
  | _ =>
    rw [EventFingerprint.fromSignal, hpayload] at hfingerprint
    cases hfingerprint
    cases hkind

end seen
end ENavigator.Metrics.Network
