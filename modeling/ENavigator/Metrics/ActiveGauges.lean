import ENavigator.Lib.Runs
import ENavigator.Metrics.Network

/-!
# Gauges of active connections

Connections and their gauges are kept in two maps, each with a limit of its own, so a connection can be taken in whose
gauge is refused. But no gauge is dropped: once one is refused there is no room for it later either (`Balanced.gauged`).
So each gauge that there is counts its connections, in every run (`activeGauges_exact`). A signal opens or closes at
most one connection (`sameActive_outputsForSignal`), which makes the runs of the generator such runs
(`outputsForSignal_gauges`).
-/

namespace ENavigator.Metrics.Network

open List Signals

inductive ActiveEvent
  | opened (event : NetworkConnectionOpenEvent) (host : Option Bytes)
  | closed (event : NetworkConnectionCloseEvent) (host : Option Bytes)

def trackActive (limits : Limits) (s : State) : ActiveEvent → List Output × State
  | .opened event host => trackActiveOpen limits event host s
  | .closed event host => trackActiveClose limits event host s

def ActiveEvent.host : ActiveEvent → Option Bytes
  | .opened _ host | .closed _ host => host

/-- The gauge that an event moves: that of the destination for a connection that is opened, and the one that it was
opened under for a connection that is closed. -/
def ActiveEvent.gauge? (s : State) : ActiveEvent → Option ConnectionMetricKey
  | .opened event _ => some (.fromConnection event.toConnectionIdentity)
  | .closed event _ =>
    (ActiveConnectionKey.fromConnection event.toConnectionIdentity).bind fun key => s.activeConnections.lookup key

abbrev Connections := AList fun _ : ActiveConnectionKey => ConnectionMetricKey

/-- The number of connections whose gauge is `key`. -/
def activeUnder (connections : Connections) (key : ConnectionMetricKey) : Nat := connections.entries.countP (·.2 = key)

structure Balanced (limits : Limits) (s : State) : Prop where
  value : ∀ key gauge, s.activeCounts.lookup key = some gauge → gauge.value = activeUnder s.activeConnections key
  /-- a connection is without a gauge only if there is no room for one -/
  gauged : ∀ c ∈ s.activeConnections.entries,
    c.2 ∈ s.activeCounts ∨ limits.maxMetricKeys ≤ s.activeCounts.entries.length

/-- What an event leaves behind and emits, if it moves no gauge but `moved`. -/
structure Exact (limits : Limits) (moved : Option ConnectionMetricKey) (host : Option Bytes) (r : List Output × State) :
    Prop extends Balanced limits r.2 where
  emitted : ∀ output ∈ r.1, ∃ key ∈ moved, ∃ gauge,
    r.2.activeCounts.lookup key = some gauge ∧ output = .gauge (gauge.toSignal host)

theorem Balanced.nil {limits : Limits} {s : State} (h : Balanced limits s) {moved : Option ConnectionMetricKey}
    {host : Option Bytes} : Exact limits moved host ([], s) :=
  ⟨h, fun _ hmem => absurd hmem not_mem_nil⟩

theorem length_le_insert {κ β : Type} [DecidableEq κ] (m : AList fun _ : κ => β) (k : κ) (b : β) :
    m.entries.length ≤ (m.insert k b).entries.length := by
  have hle := @le_length_eraseP _ (fun e : Sigma fun _ : κ => β => k = e.1) m.entries
  rw [AList.entries_insert, length_cons, kerase]
  omega

/-- The connections that are left, when some of those under `key` come or go. -/
structure Changed (before after : Connections) (key : ConnectionMetricKey) (delta : Int) : Prop where
  others : ∀ k, k ≠ key → activeUnder after k = activeUnder before k
  here : (activeUnder after key : Int) = activeUnder before key + delta
  known : ∀ c ∈ after.entries, c.2 = key ∨ c ∈ before.entries
  source : delta = 1 ∨ ∃ c ∈ before.entries, c.2 = key

variable {limits : Limits} {s : State} {after : Connections} {key : ConnectionMetricKey} {delta : Int}
  {host : Option Bytes}

section

variable (h : Balanced limits s) (hchanged : Changed s.activeConnections after key delta)
include h hchanged

theorem Balanced.insert {gauge : ActiveGaugeState} (hvalue : gauge.value = activeUnder after key) :
    Exact limits (some key) host ([.gauge (gauge.toSignal host)],
      { s with activeConnections := after, activeCounts := s.activeCounts.insert key gauge }) := by
  refine ⟨⟨fun k other hk => ?_, fun c hc => ?_⟩,
    forall_mem_singleton.mpr ⟨key, rfl, gauge, AList.lookup_insert _, rfl⟩⟩
  · by_cases hkey : k = key
    · subst hkey
      rw [AList.lookup_insert] at hk
      exact Option.some.inj hk ▸ hvalue
    · rw [AList.lookup_insert_ne hkey] at hk
      rw [hchanged.others k hkey]
      exact h.value k other hk
  · rw [AList.mem_insert]
    rcases hchanged.known c hc with hkey | hc
    · exact .inl (.inl hkey)
    · exact (h.gauged c hc).imp .inr fun hfull => hfull.trans (length_le_insert _ key gauge)

theorem Balanced.update (hfits : after.entries.length < 2 ^ 63) (template : ConnectionMetricTemplate)
    (timestamp : Nat) :
    Exact limits (some key) host
      (updateActiveGauge limits key template delta timestamp host { s with activeConnections := after }) := by
  have hhere := hchanged.here
  have hle : activeUnder after key ≤ after.entries.length := countP_le_length
  unfold updateActiveGauge
  split
  next gauge hgauge =>
    have hvalue : gauge.value = activeUnder s.activeConnections key := h.value key gauge hgauge
    refine h.insert hchanged ?_
    show max (saturatingAddInt gauge.value delta) 0 = _
    rw [hvalue, saturatingAddInt]
    omega
  next hgauge =>
    split
    next hfull =>
      refine Balanced.nil ⟨fun k gauge hk => ?_, fun _ _ => .inr hfull⟩
      have hkey : k ≠ key := by
        rintro rfl
        exact Option.some_ne_none _ (hk.symm.trans hgauge)
      rw [hchanged.others k hkey]
      exact h.value k gauge hk
    next hroom =>
      -- with room left every connection has its gauge, so this is the first one under `key`
      have hnone : ∀ c ∈ s.activeConnections.entries, c.2 ≠ key := by
        rintro c hc rfl
        exact (h.gauged c hc).elim (AList.lookup_eq_none.mp hgauge) hroom
      have hzero : activeUnder s.activeConnections key = 0 :=
        countP_eq_zero.mpr fun c hc => by simpa using hnone c hc
      obtain rfl : delta = 1 := hchanged.source.resolve_right fun ⟨c, hc, hkey⟩ => hnone c hc hkey
      refine h.insert hchanged ?_
      show max 1 0 = _
      omega

end

/-- A gauge with a connection under it can be lowered. -/
theorem Balanced.unclamped (h : Balanced limits s) {connection : ActiveConnectionKey} {gauge : ActiveGaugeState}
    (hkey : s.activeConnections.lookup connection = some key) (hgauge : s.activeCounts.lookup key = some gauge) :
    0 ≤ saturatingAddInt gauge.value (-1) := by
  have hvalue : gauge.value = activeUnder s.activeConnections key := h.value key gauge hgauge
  have hpos : 0 < activeUnder s.activeConnections key :=
    countP_pos_iff.mpr ⟨_, AList.mem_lookup_iff.mp hkey, by simp⟩
  rw [hvalue, saturatingAddInt]
  omega

section

variable (h : Balanced limits s) (hfits : s.activeConnections.entries.length + 1 < 2 ^ 63)
include h hfits

theorem Balanced.opened (event : NetworkConnectionOpenEvent) :
    Exact limits (ActiveEvent.gauge? s (.opened event host)) host (trackActiveOpen limits event host s) := by
  unfold trackActiveOpen
  split
  · exact h.nil
  next connection hconnection =>
  split
  · exact h.nil
  next hnew =>
  split
  · exact h.nil
  have hentries : ∀ key, (s.activeConnections.insert connection key).entries =
      ⟨connection, key⟩ :: s.activeConnections.entries := by
    intro key
    rw [AList.entries_insert, kerase_of_notMem_keys]
    exact fun hmem => hnew (AList.lookup_isSome.mpr hmem)
  refine h.update ⟨fun k hk => ?_, ?_, fun c hc => ?_, .inl rfl⟩ ?_ _ _
  · rw [activeUnder, hentries, countP_cons_of_neg (by simpa using hk.symm)]
    rfl
  · rw [activeUnder, hentries, countP_cons_of_pos (by simp)]
    rfl
  · rw [hentries] at hc
    rcases mem_cons.mp hc with rfl | hc
    · exact .inl rfl
    · exact .inr hc
  · rw [hentries]
    exact hfits

theorem Balanced.closed (event : NetworkConnectionCloseEvent) :
    Exact limits (ActiveEvent.gauge? s (.closed event host)) host (trackActiveClose limits event host s) := by
  unfold trackActiveClose
  split
  · exact h.nil
  next connection hconnection =>
  split
  · exact h.nil
  next key hkey =>
  rw [ActiveEvent.gauge?, hconnection, Option.bind_some, hkey]
  obtain ⟨key', before, after, -, hentries, herase⟩ :=
    exists_of_kerase (AList.lookup_isSome.mp (Option.isSome_of_eq_some hkey))
  have hmem : ⟨connection, key'⟩ ∈ s.activeConnections.entries := hentries ▸ mem_append_cons_self
  obtain rfl : key' = key := Option.some.inj ((AList.mem_lookup_iff.mpr hmem).symm.trans hkey)
  have hperm : s.activeConnections.entries.Perm
      (⟨connection, key'⟩ :: (s.activeConnections.erase connection).entries) := by
    show Perm _ (_ :: kerase connection s.activeConnections.entries)
    rw [herase, hentries]
    exact perm_middle
  refine h.update ⟨fun k hk => ?_, ?_, fun c hc => .inr (hperm.symm.subset (mem_cons_of_mem _ hc)),
    .inr ⟨_, hmem, rfl⟩⟩ ?_ _ _
  · rw [activeUnder, activeUnder, hperm.countP_eq, countP_cons_of_neg (by simpa using hk.symm)]
  · rw [activeUnder, activeUnder, hperm.countP_eq, countP_cons_of_pos (by simp)]
    omega
  · have hlength := hperm.length_eq
    rw [length_cons] at hlength
    omega

end

theorem Balanced.track (h : Balanced limits s) (hfits : s.activeConnections.entries.length + 1 < 2 ^ 63) :
    ∀ event, Exact limits (event.gauge? s) event.host (trackActive limits s event)
  | .opened event _ => h.opened hfits event
  | .closed event _ => h.closed hfits event

theorem balanced_empty (limits : Limits) : Balanced limits {} := ⟨fun _ _ hgauge => absurd hgauge nofun, nofun⟩

/-- After the event each gauge is the number of its connections, and what is emitted is the gauge that the event moved;
before it, no gauge of a connection would be clamped at zero. -/
structure GaugesExact (limits : Limits) (s : State) (event : ActiveEvent) : Prop where
  exact : Exact limits (event.gauge? s) event.host (trackActive limits s event)
  unclamped : ∀ connection key gauge, s.activeConnections.lookup connection = some key →
    s.activeCounts.lookup key = some gauge → 0 ≤ saturatingAddInt gauge.value (-1)

/-- **Active-connection gauges are exact** in every run, as long as the connections fit into memory. -/
theorem activeGauges_exact (limits : Limits) (events : List ActiveEvent)
    (hfits : Along (fun s event => (trackActive limits s event).2)
      (fun s _ => s.activeConnections.entries.length + 1 < 2 ^ 63) {} events) :
    Along (fun s event => (trackActive limits s event).2) (GaugesExact limits) {} events := by
  refine Along.of_invariant (fun s event h hfits => ?_) (balanced_empty limits) hfits
  exact ⟨⟨h.track hfits event, fun _ _ _ => h.unclamped⟩, (h.track hfits event).toBalanced⟩

def dialled (fd : Int) (port : Nat) : ConnectionIdentity :=
  ⟨⟨42, none, none, text "api", none, none⟩, .tcp, .ipv4, text "10.0.0.9", port, some fd, none, none⟩

/-- The second connection finds no room for a gauge of its own, the third shares that of the first. -/
def refusedGauge : List ActiveEvent :=
  [.opened ⟨dialled 3 80, none, none, 1⟩ none, .opened ⟨dialled 4 81, none, none, 2⟩ none,
    .opened ⟨dialled 5 80, none, none, 3⟩ none, .closed ⟨dialled 4 81, none, none, none, 4, none, none, none⟩ none,
    .closed ⟨dialled 3 80, none, none, none, 5, none, none, none⟩ none]

theorem activeGauges_exact_refused :
    Along (fun s event => (trackActive ⟨1, 8⟩ s event).2) (GaugesExact ⟨1, 8⟩) {} refusedGauge :=
  activeGauges_exact ⟨1, 8⟩ refusedGauge (by decide +kernel)

/-! ## Signals -/

def Output.isGauge : Output → Bool
  | .gauge _ => true
  | _ => false

/-- The same connections and gauges, and the same gauges emitted. -/
structure SameActive (r t : List Output × State) : Prop where
  connections : r.2.activeConnections = t.2.activeConnections
  counts : r.2.activeCounts = t.2.activeCounts
  gauges : r.1.filter Output.isGauge = t.1.filter Output.isGauge

/-- What a signal does to connections: at most one is opened or closed. -/
def trackActive? (limits : Limits) (s : State) (event : Option ActiveEvent) : List Output × State :=
  event.elim ([], s) (trackActive limits s)

/-- The event of a signal, unless the signal has been seen. -/
def activeEvent? (limits : Limits) (signal : SignalEnvelope NetworkPayload) (s : State) : Option ActiveEvent :=
  if (markSeen limits signal s).1 then
    match signal.payload with
    | .networkConnectionOpen event => some (.opened event signal.host)
    | .networkConnectionClose event => some (.closed event signal.host)
    | _ => none
  else none

section signals

variable {t : State} {q r r' : List Output × State} {outputs : List Output} {event : Option ActiveEvent}

theorem SameActive.trans (h : SameActive q r) (h' : SameActive r r') : SameActive q r' :=
  ⟨h.connections.trans h'.connections, h.counts.trans h'.counts, h.gauges.trans h'.gauges⟩

/-- Tracking reads and writes nothing else. -/
theorem trackActive?_congr (h : SameActive ([], s) ([], t)) :
    SameActive (trackActive? limits s event) (trackActive? limits t event) := by
  cases s
  obtain ⟨rfl, rfl, -⟩ := h
  rcases event with _ | _ | _
  · exact ⟨rfl, rfl, rfl⟩
  all_goals
    simp only [trackActive?, trackActive, trackActiveOpen, trackActiveClose, updateActiveGauge, Option.elim]
    repeat' split
    all_goals exact ⟨rfl, rfl, rfl⟩

theorem SameActive.prepend (h : SameActive r ([], s)) (h' : SameActive (outputs, t) (trackActive? limits r.2 event)) :
    SameActive (r.1 ++ outputs, t) (trackActive? limits s event) := by
  refine SameActive.trans ⟨h'.connections, h'.counts, ?_⟩ (trackActive?_congr ⟨h.connections, h.counts, rfl⟩)
  rw [filter_append, h.gauges, ← h'.gauges]
  rfl

theorem SameActive.concat (h : SameActive r q) (h' : SameActive (outputs, t) ([], r.2)) :
    SameActive (r.1 ++ outputs, t) q := by
  refine ⟨h'.connections.trans h.connections, h'.counts.trans h.counts, ?_⟩
  rw [filter_append, h.gauges, h'.gauges]
  exact append_nil _

theorem sameActive_observeCounterBy {key : CounterKey} {template : CounterTemplate}
    {windowStart windowEnd value : Nat} :
    SameActive (observeCounterBy limits key template windowStart windowEnd value host s) ([], s) :=
  ⟨rfl, rfl, by simp [observeCounterBy, Output.isGauge]⟩

theorem sameActive_observeDuration {event : NetworkConnectionCloseEvent} :
    SameActive (observeDuration limits event host s) ([], s) := by
  unfold observeDuration updateDuration
  dsimp only
  repeat' split
  all_goals exact ⟨rfl, rfl, rfl⟩

theorem sameActive_flowOutputs {source : Bytes} {event : ConnectionFlowView} {interval : FlowInterval} :
    SameActive (flowOutputs limits source host event interval s) ([], s) := by
  unfold flowOutputs
  split <;> exact ⟨rfl, rfl, by simp [observeCounterBy, Output.isGauge]⟩

theorem sameActive_observeOpen {event : NetworkConnectionOpenEvent} :
    SameActive (observeOpen limits event host s) (trackActive? limits s (some (.opened event host))) := by
  unfold observeOpen
  refine sameActive_observeCounterBy.prepend (sameActive_observeCounterBy.prepend ?_)
  exact sameActive_observeCounterBy.prepend ⟨rfl, rfl, rfl⟩

theorem sameActive_observeClose {source : Bytes} {event : NetworkConnectionCloseEvent} :
    SameActive (observeClose limits source event host s) (trackActive? limits s (some (.closed event host))) := by
  unfold observeClose
  refine sameActive_observeDuration.prepend ?_
  exact SameActive.concat ⟨rfl, rfl, rfl⟩ (sameActive_flowOutputs.trans ⟨rfl, rfl, rfl⟩)

/-- All that a signal does to connections and their gauges is to track its event. -/
theorem sameActive_outputsForSignal (signal : SignalEnvelope NetworkPayload) (s : State) :
    SameActive (outputsForSignal limits signal s) (trackActive? limits s (activeEvent? limits signal s)) := by
  have hmarked : SameActive ([], (markSeen limits signal s).2) ([], s) := by
    unfold markSeen
    split <;> exact ⟨rfl, rfl, rfl⟩
  unfold outputsForSignal activeEvent?
  dsimp only
  split
  · refine SameActive.trans ?_ (trackActive?_congr hmarked)
    cases signal.payload with
    | networkConnectionOpen event => exact sameActive_observeOpen
    | networkConnectionClose event => exact sameActive_observeClose
    | networkConnectionSnapshot event =>
      show SameActive (observeSnapshot limits _ event _ _) ([], _)
      unfold observeSnapshot
      dsimp only
      split
      · exact ⟨rfl, rfl, rfl⟩
      · exact sameActive_flowOutputs.trans ⟨rfl, rfl, rfl⟩
    | networkConnectionFailure event => exact sameActive_observeCounterBy
    | networkTcpStatObservation event =>
      show SameActive (observeTcpStat limits event _ _) ([], _)
      unfold observeTcpStat
      split
      · exact ⟨rfl, rfl, rfl⟩
      · exact sameActive_observeCounterBy
  · exact hmarked

theorem Exact.of_sameActive {moved : Option ConnectionMetricKey} (hsame : SameActive r q)
    (h : Exact limits moved host q) : Exact limits moved host (r.1.filter Output.isGauge, r.2) := by
  obtain ⟨hconnections, hcounts, hgauges⟩ := hsame
  refine ⟨⟨?_, ?_⟩, ?_⟩
  · rw [hconnections, hcounts]
    exact h.value
  · rw [hconnections, hcounts]
    exact h.gauged
  · rw [hgauges, hcounts]
    exact fun output houtput => h.emitted output (mem_filter.mp houtput).1

theorem Balanced.signal (h : Balanced limits s) (hfits : s.activeConnections.entries.length + 1 < 2 ^ 63)
    (signal : SignalEnvelope NetworkPayload) :
    Exact limits ((activeEvent? limits signal s).bind fun event => event.gauge? s) signal.host
      (trackActive? limits s (activeEvent? limits signal s)) := by
  unfold activeEvent?
  split
  · split
    · exact h.opened hfits _
    · exact h.closed hfits _
    · exact h.nil
  · exact h.nil

/-- **Every gauge that the generator emits is exact**, and of the connections that the signal opens or closes. -/
theorem outputsForSignal_gauges (limits : Limits) (signals : List (SignalEnvelope NetworkPayload))
    (hfits : Along (fun s signal => (outputsForSignal limits signal s).2)
      (fun s _ => s.activeConnections.entries.length + 1 < 2 ^ 63) {} signals) :
    Along (fun s signal => (outputsForSignal limits signal s).2)
      (fun s signal => Exact limits ((activeEvent? limits signal s).bind fun event => event.gauge? s) signal.host
        ((outputsForSignal limits signal s).1.filter Output.isGauge,
          (outputsForSignal limits signal s).2)) {} signals := by
  refine Along.of_invariant (fun s signal h hfits => ?_) (balanced_empty limits) hfits
  have hexact := (h.signal hfits signal).of_sameActive (sameActive_outputsForSignal signal s)
  exact ⟨hexact, hexact.toBalanced⟩

end signals

end ENavigator.Metrics.Network
