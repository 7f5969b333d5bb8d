import ENavigator.Metrics.Lifecycle

/-!
# Bytes of a connection

The flow summaries of one connection add up to what its close counts. A snapshot that arrives after the close would be
counted again; it is dropped as long as the connection is among the closed ones that the generator remembers. Those are
kept by the time they closed at, not by the time their close arrived, so a close that arrives late is forgotten at once
when the cache is full of later ones (`not_conserved_overtaken`). `conserved_of_undisturbed` is what holds: when fewer
connections than fit closed later, and when no other connection comes between on the same key.
-/

namespace ENavigator.Metrics.Network

open Signals ClosedConnectionCache History

/-! ## The invariant -/

/-- What has been counted is what the stored snapshot shows; if that is of another connection, nothing. -/
def Counted (connection : Lifecycle) (stored : Option FlowSnapshotState) (sent received : Nat) : Prop :=
  (∃ snapshot, stored = some snapshot ∧ snapshot.openedAtUnixNanos = some connection.openedAtUnixNanos ∧
      sent = snapshot.bytesSent ∧ received = snapshot.bytesReceived) ∨
    sent = 0 ∧ received = 0 ∧ ∀ snapshot ∈ stored,
      snapshot.openedAtUnixNanos ≠ none ∧ snapshot.openedAtUnixNanos ≠ some connection.openedAtUnixNanos

structure Inv (limits : Limits) (connection : Lifecycle) (run : FlowRun) : Prop where
  /-- The close has not been seen before it arrives. -/
  unseen : ∀ fingerprint ∈ run.generator.seenEvents.insertionOrder, fingerprint.kind = .closed →
    fingerprint.connection? = some (connection.key, some connection.openedAtUnixNanos) → run.history.close.isSome
  size : run.generator.flows.closedConnections.entries.entries.length ≤ max limits.maxActiveConnections 1
  fresh : run.history.started = false → run.sent = 0 ∧ run.received = 0 ∧
    ∀ stored ∈ run.generator.flows.flowSnapshots.lookup connection.key,
      stored.openedAtUnixNanos ≠ some connection.openedAtUnixNanos
  live : ∀ last ∈ run.history.lastSnapshot, run.history.close = none → run.history.disturbed = false →
    Counted connection (run.generator.flows.flowSnapshots.lookup connection.key) run.sent run.received ∧
      run.sent ≤ last.bytesSent ∧ run.received ≤ last.bytesReceived
  closed : ∀ close ∈ run.history.close,
    run.sent = close.bytesSent.getD 0 ∧ run.received = close.bytesReceived.getD 0
  remembered : ∀ close ∈ run.history.close, run.history.disturbed = false →
    run.history.later.length < max limits.maxActiveConnections 1 →
      run.generator.flows.closedConnections.entries.lookup connection.key =
        some { openedAtUnixNanos := some connection.openedAtUnixNanos, closedAtUnixNanos := close.closedAtUnixNanos }
  later : ∀ close ∈ run.history.close, ∀ key state,
    run.generator.flows.closedConnections.entries.lookup key = some state → key ≠ connection.key →
      ClosedLater connection close.closedAtUnixNanos key state.closedAtUnixNanos → key ∈ run.history.later

theorem inv_init (limits : Limits) (connection : Lifecycle) : Inv limits connection {} where
  unseen := nofun
  size := Nat.zero_le _
  fresh := fun _ => ⟨rfl, rfl, fun _ h => by rw [AList.lookup_empty] at h; cases h⟩
  live := fun _ h => by cases h
  closed := fun _ h => by cases h
  remembered := fun _ h => by cases h
  later := fun _ h => by cases h

section step

variable {limits : Limits} {connection : Lifecycle} {run run' : FlowRun} {signal : SignalEnvelope NetworkPayload}

variable {stored : Option FlowSnapshotState} {sent received : Nat} {openedAt : Option Nat}

/-- At its own event, the connection has been counted as far as the stored snapshot shows, which is not more than the
event shows. -/
theorem Inv.counted (h : Inv limits connection run) (hundisturbed : Undisturbed limits connection run signal)
    (howns : connection.Owns signal.payload) (hopen : run.history.close = none)
    (hlast : ∀ last ∈ run.history.lastSnapshot, last.bytesSent ≤ sent ∧ last.bytesReceived ≤ received) :
    Counted connection (run.generator.flows.flowSnapshots.lookup connection.key) run.sent run.received ∧
      run.sent ≤ sent ∧ run.received ≤ received := by
  obtain ⟨hdisturbed, hknown, -⟩ := hundisturbed howns
  rcases hsnapshot : run.history.lastSnapshot with _ | last
  · have hfresh : run.history.started = false := by
      rw [History.started, hsnapshot, hopen]
      rfl
    obtain ⟨hsent, hreceived, hother⟩ := h.fresh hfresh
    refine ⟨.inr ⟨hsent, hreceived, fun stored hstored => ?_⟩, by omega, by omega⟩
    exact ⟨hknown hfresh stored hstored, hother stored hstored⟩
  · obtain ⟨hcounted, hsent, hreceived⟩ := h.live last hsnapshot hopen hdisturbed
    obtain ⟨hsent', hreceived'⟩ := hlast last hsnapshot
    exact ⟨hcounted, by omega, by omega⟩

theorem previousOf_of_counted (h : Counted connection stored sent received) :
    (∃ snapshot, previousOf (some connection.openedAtUnixNanos) stored = some snapshot ∧
        sent = snapshot.bytesSent ∧ received = snapshot.bytesReceived) ∨
      previousOf (some connection.openedAtUnixNanos) stored = none ∧ sent = 0 ∧ received = 0 := by
  rcases h with ⟨snapshot, rfl, hopened, hsent, hreceived⟩ | ⟨hsent, hreceived, hother⟩
  · refine .inl ⟨snapshot, ?_, hsent, hreceived⟩
    simp [previousOf, Option.filter, hopened, sameConnectionLifecycle]
  · refine .inr ⟨?_, hsent, hreceived⟩
    rcases stored with _ | snapshot
    · rfl
    · obtain ⟨hknown, hne⟩ := hother snapshot rfl
      obtain ⟨openedAt, hopened⟩ := Option.ne_none_iff_exists'.mp hknown
      have hdiffers : openedAt ≠ connection.openedAtUnixNanos := by
        rintro rfl
        exact hne hopened
      simp [previousOf, Option.filter, hopened, sameConnectionLifecycle, hdiffers]

theorem counterDelta_of_le {current previous : Nat} (h : previous ≤ current) :
    counterDelta current previous = current - previous := by
  simp [counterDelta, checkedSub, h]

theorem add_interval {totalSent totalReceived : Nat}
    (h : Counted connection stored sent received ∧ sent ≤ totalSent ∧ received ≤ totalReceived)
    {i : Option FlowSnapshotState → FlowInterval}
    (hnone : (i none).bytesSent = totalSent ∧ (i none).bytesReceived = totalReceived)
    (hsome : ∀ previous, (i (some previous)).bytesSent = counterDelta totalSent previous.bytesSent ∧
      (i (some previous)).bytesReceived = counterDelta totalReceived previous.bytesReceived) :
    sent + (i (previousOf (some connection.openedAtUnixNanos) stored)).bytesSent = totalSent ∧
      received + (i (previousOf (some connection.openedAtUnixNanos) stored)).bytesReceived = totalReceived := by
  obtain ⟨hcounted, hsent, hreceived⟩ := h
  rcases previousOf_of_counted hcounted with ⟨snapshot, hprevious, rfl, rfl⟩ | ⟨hprevious, rfl, rfl⟩
  · rw [hprevious, (hsome snapshot).1, (hsome snapshot).2, counterDelta_of_le hsent, counterDelta_of_le hreceived]
    omega
  · rw [hprevious, hnone.1, hnone.2]
    omega

/-! ## Steps -/

variable (hrun : run.step limits connection signal = run')
include hrun

theorem generator_step : run'.generator = (outputsForSignal limits signal run.generator).2 :=
  hrun ▸ rfl

theorem unseen_step (h : Inv limits connection run) :
    ∀ fingerprint ∈ run'.generator.seenEvents.insertionOrder, fingerprint.kind = .closed →
      fingerprint.connection? = some (connection.key, some connection.openedAtUnixNanos) →
        run'.history.close.isSome := by
  subst hrun
  intro fingerprint hmem hkind howner
  have hmem : fingerprint ∈ (outputsForSignal limits signal run.generator).2.seenEvents.insertionOrder := hmem
  rw [seenEvents_outputsForSignal] at hmem
  rcases mem_seenEvents_markSeen hmem with hmem | hfingerprint
  · exact isSome_close_observe (h.unseen fingerprint hmem hkind howner)
  · obtain ⟨event, hpayload, hconnection⟩ := close_of_fingerprint hfingerprint hkind
    have howns : connection.Owns (.networkConnectionClose event) := hconnection.symm.trans howner
    show (run.history.observe connection _ signal.payload).close.isSome
    rw [hpayload, observe_of_owns howns]
    rfl

theorem sums_of_not_owns (h : ¬ connection.Owns signal.payload) :
    run'.sent = run.sent ∧ run'.received = run.received := by
  subst hrun
  dsimp only [FlowRun.step]
  rw [if_neg h, if_neg h]
  exact ⟨rfl, rfl⟩

theorem Inv.step_of_none (h : Inv limits connection run) (hnone : connection? signal.payload = none) :
    Inv limits connection run' := by
  have hhistory : run'.history = run.history := by
    subst hrun
    show run.history.observe connection _ signal.payload = _
    rw [History.observe, hnone]
  have hflows : run'.generator.flows = run.generator.flows := hrun ▸ flows_of_connection?_eq_none hnone
  have hother : ¬ connection.Owns signal.payload := by
    intro howns
    cases hnone.symm.trans howns
  obtain ⟨hsent, hreceived⟩ := sums_of_not_owns hrun hother
  refine ⟨unseen_step hrun h, ?_, ?_, ?_, ?_, ?_, ?_⟩
  · rw [hflows]
    exact h.size
  · rw [hhistory, hflows, hsent, hreceived]
    exact h.fresh
  · rw [hhistory, hflows, hsent, hreceived]
    exact h.live
  · rw [hhistory, hsent, hreceived]
    exact h.closed
  · rw [hhistory, hflows]
    exact h.remembered
  · rw [hhistory, hflows]
    exact h.later

/-- Connections on other keys neither count nor, unless they closed later, crowd the cache. -/
theorem Inv.step_of_ne (h : Inv limits connection run) {key : ActiveConnectionKey}
    (hconnection : connection? signal.payload = some (key, openedAt)) (hkey : key ≠ connection.key) :
    Inv limits connection run' := by
  obtain ⟨further, later, hpass, hsubset, hlength⟩ := run.history.pass_eq connection key signal.payload
  have hhistory : run'.history = { run.history with further, later } := by
    subst hrun
    show run.history.observe connection _ signal.payload = _
    simp only [History.observe, hconnection, if_neg hkey, hpass]
  have hnoted : ∀ {event close}, signal.payload = .networkConnectionClose event → run.history.close = some close →
      ClosedLater connection close.closedAtUnixNanos key event.closedAtUnixNanos → key ∈ later := by
    intro event close hpayload hclose hlater
    simp only [hpayload, History.pass, hclose, if_pos hlater] at hpass
    obtain rfl : run.history.later.insert key = later := congrArg History.later hpass
    exact List.mem_insert_self
  have hmove : Move limits key openedAt signal.payload run.generator.flows run'.generator.flows :=
    hrun ▸ move_outputsForSignal hconnection
  have hstored := hmove.others connection.key hkey.symm
  have hother : ¬ connection.Owns signal.payload := by
    intro howns
    cases hconnection.symm.trans howns
    exact hkey rfl
  obtain ⟨hsent, hreceived⟩ := sums_of_not_owns hrun hother
  refine ⟨unseen_step hrun h, ?_, ?_, ?_, ?_, ?_, ?_⟩
  · exact hmove.size h.size
  · rw [hhistory, hstored, hsent, hreceived]
    exact h.fresh
  · rw [hhistory, hstored, hsent, hreceived]
    exact h.live
  · rw [hhistory, hsent, hreceived]
    exact h.closed
  · rw [hhistory]
    intro close hclose hdisturbed hroom
    have hbefore := h.remembered close hclose hdisturbed (hlength.trans_lt hroom)
    rcases hmove.cached with hkept | ⟨event, hpayload, hcache⟩
    · rw [hkept.others _ hkey.symm]
      exact hbefore
    · rw [hcache]
      refine lookup_insert_of_later h.size ?_ ?_ hroom
      · rw [lookup_add_of_ne hkey.symm]
        exact hbefore
      · intro other state hother hne hlater
        by_cases hsame : other = key
        · subst hsame
          rw [lookup_add_self] at hother
          cases hother
          exact hnoted hpayload hclose hlater
        · rw [lookup_add_of_ne hsame] at hother
          exact hsubset (h.later close hclose other state hother hne hlater)
  · rw [hhistory]
    intro close hclose other state hother hne hlater
    rcases hmove.cached with hkept | ⟨event, hpayload, hcache⟩
    · exact hsubset (h.later close hclose other state (hkept.back other state hother) hne hlater)
    · rw [hcache] at hother
      rcases lookup_of_lookup_insert hother with ⟨rfl, rfl⟩ | ⟨-, hother⟩
      · exact hnoted hpayload hclose hlater
      · exact hsubset (h.later close hclose other state hother hne hlater)

/-- Another connection on the key, before the first event of this one or after it. -/
theorem Inv.step_of_key (h : Inv limits connection run)
    (hconnection : connection? signal.payload = some (connection.key, openedAt))
    (hopened : openedAt ≠ some connection.openedAtUnixNanos) :
    Inv limits connection run' := by
  have hhistory : run'.history = run.history.disturb connection openedAt := by
    subst hrun
    show run.history.observe connection _ signal.payload = _
    simp only [History.observe, hconnection, if_true, if_neg hopened]
  have hmove : Move limits connection.key openedAt signal.payload run.generator.flows run'.generator.flows :=
    hrun ▸ move_outputsForSignal hconnection
  have hother : ¬ connection.Owns signal.payload := by
    intro howns
    cases hconnection.symm.trans howns
    exact hopened rfl
  obtain ⟨hsent, hreceived⟩ := sums_of_not_owns hrun hother
  refine ⟨unseen_step hrun h, ?_, ?_, ?_, ?_, ?_, ?_⟩
  · exact hmove.size h.size
  · rw [hhistory, hsent, hreceived]
    intro hfresh
    obtain ⟨hsent, hreceived, hstored⟩ := h.fresh hfresh
    refine ⟨hsent, hreceived, ?_⟩
    intro stored hmem
    rcases hmove.own stored hmem with hmem | hopenedAt
    · exact hstored stored hmem
    · rw [hopenedAt]
      exact hopened
  · rw [hhistory]
    intro last hlast hopen hdisturbed
    -- The first event was before this one, so the connection is disturbed.
    simp [History.disturb, History.started, show run.history.lastSnapshot = some last from hlast] at hdisturbed
  · rw [hhistory, hsent, hreceived]
    exact h.closed
  · rw [hhistory]
    intro close hclose hdisturbed
    simp [History.disturb, History.started, show run.history.close = some close from hclose] at hdisturbed
  · rw [hhistory]
    intro close hclose other state hother hne hlater
    rcases hmove.cached with hkept | ⟨event, -, hcache⟩
    · exact h.later close hclose other state (hkept.back other state hother) hne hlater
    · rw [hcache] at hother
      rcases lookup_of_lookup_insert hother with ⟨rfl, -⟩ | ⟨-, hother⟩
      · exact absurd rfl hne
      · exact h.later close hclose other state hother hne hlater

theorem sums_of_owns (h : connection.Owns signal.payload) :
    run'.sent = run.sent + flowBytes .egress (outputsForSignal limits signal run.generator).1 ∧
      run'.received = run.received + flowBytes .ingress (outputsForSignal limits signal run.generator).1 := by
  subst hrun
  dsimp only [FlowRun.step]
  rw [if_pos h, if_pos h]
  exact ⟨rfl, rfl⟩

section snapshot

variable {event : NetworkConnectionSnapshotEvent} (hpayload : signal.payload = .networkConnectionSnapshot event)
  (howns : connection.Owns signal.payload)
include hpayload howns

theorem history_snapshot : run'.history = { run.history with lastSnapshot := some event } := by
  subst hrun
  refine (observe_of_owns howns).trans ?_
  rw [hpayload]
  rfl

variable (h : Inv limits connection run) (horderly : Orderly limits connection run signal)
  (hundisturbed : Undisturbed limits connection run signal)
include h horderly hundisturbed

/-- Before the close, a snapshot brings what has been counted up to what it shows, or leaves it. -/
theorem Inv.step_snapshot_open (hopen : run.history.close = none) :
    Inv limits connection run' := by
  have hhistory := history_snapshot hrun hpayload howns
  have hmove : Move limits connection.key (some connection.openedAtUnixNanos) signal.payload run.generator.flows
      run'.generator.flows := hrun ▸ move_outputsForSignal howns
  obtain ⟨hsent, hreceived⟩ := sums_of_owns hrun howns
  have hordered := horderly howns
  rw [hpayload] at hordered
  obtain ⟨hpod, hlast, -⟩ := hordered
  have hcounted := h.counted hundisturbed howns hopen fun last hmem => (hlast last hmem).2
  have howns' : connection.Owns (.networkConnectionSnapshot event) := hpayload ▸ howns
  obtain ⟨hkey, hopened⟩ := fromConnection_of_connection? howns'
  have hclosed : ∀ close, close ∉ run'.history.close := by
    intro close hclose
    rw [hhistory] at hclose
    cases hopen.symm.trans hclose
  refine ⟨unseen_step hrun h, hmove.size h.size, ?_, ?_, ?_, ?_, ?_⟩
  · rw [hhistory]
    intro hfresh
    cases hfresh
  · rw [hhistory]
    intro last hmem _ _
    cases hmem
    rw [hsent, hreceived, generator_step hrun]
    rcases outputsForSignal_of_snapshot rfl hpayload hkey hpod with ⟨hstored, hegress, hingress⟩ |
      ⟨hstored, hegress, hingress⟩
    · rw [hegress, hingress, hstored]
      exact hcounted
    · obtain ⟨hsum, hsum'⟩ := add_interval hcounted (i := intervalSince event) ⟨rfl, rfl⟩ fun _ => ⟨rfl, rfl⟩
      rw [hegress, hingress, hopened, hsum, hsum']
      exact ⟨.inl ⟨_, hstored, hopened, rfl, rfl⟩, le_rfl, le_rfl⟩
  all_goals exact fun close hclose => absurd hclose (hclosed close)

theorem Inv.step_snapshot_closed {close : NetworkConnectionCloseEvent} (hclose : run.history.close = some close) :
    Inv limits connection run' := by
  have hhistory := history_snapshot hrun hpayload howns
  obtain ⟨hsent, hreceived⟩ := sums_of_owns hrun howns
  have hordered := horderly howns
  rw [hpayload] at hordered
  obtain ⟨hpod, -, hlast⟩ := hordered
  have howns' : connection.Owns (.networkConnectionSnapshot event) := hpayload ▸ howns
  obtain ⟨hkey, hopened⟩ := fromConnection_of_connection? howns'
  obtain ⟨hdisturbed, -, hroom⟩ := hundisturbed howns
  have hremembered := h.remembered close hclose hdisturbed (hroom (by rw [hclose]; rfl))
  have hlate : lateSnapshot event (run.generator.flows.closedConnections.entries.lookup connection.key) = true := by
    rw [hremembered]
    simp [lateSnapshot, sameConnectionLifecycle, hopened, (hlast close hclose).1]
  obtain ⟨hflows, hegress, hingress⟩ := outputsForSignal_of_late rfl hpayload hkey hpod hlate
  have hflows : run'.generator.flows = run.generator.flows := hrun ▸ hflows
  rw [hegress] at hsent
  rw [hingress] at hreceived
  refine ⟨unseen_step hrun h, ?_, ?_, ?_, ?_, ?_, ?_⟩
  · rw [hflows]
    exact h.size
  · rw [hhistory]
    intro hfresh
    cases hfresh
  · rw [hhistory]
    intro _ _ hopen
    cases hclose.symm.trans hopen
  · rw [hhistory, hsent, hreceived]
    exact h.closed
  · rw [hhistory, hflows]
    exact h.remembered
  · rw [hhistory, hflows]
    exact h.later

end snapshot

/-- The close brings what has been counted up to its totals, and is remembered. -/
theorem Inv.step_close {event : NetworkConnectionCloseEvent} (h : Inv limits connection run)
    (hpayload : signal.payload = .networkConnectionClose event) (howns : connection.Owns signal.payload)
    (horderly : Orderly limits connection run signal) (hundisturbed : Undisturbed limits connection run signal) :
    Inv limits connection run' := by
  have hhistory : run'.history =
      { run.history with
        close := some event
        later := laterCached connection event.closedAtUnixNanos run.generator.flows.closedConnections } := by
    subst hrun
    refine (observe_of_owns howns).trans ?_
    rw [hpayload]
    rfl
  obtain ⟨hsent, hreceived⟩ := sums_of_owns hrun howns
  have hordered := horderly howns
  rw [hpayload] at hordered
  obtain ⟨hpod, hopen, hlast⟩ := hordered
  have hcounted := h.counted hundisturbed howns hopen hlast
  have howns' : connection.Owns (.networkConnectionClose event) := hpayload ▸ howns
  obtain ⟨hkey, hopened⟩ := fromConnection_of_connection? howns'
  -- It is the only close of the connection, so it was not seen.
  have hmarked : (markSeen limits signal run.generator).1 = true := by
    obtain ⟨fingerprint, hfingerprint, hkind, hconnection⟩ := fingerprint_of_close hpayload
    refine markSeen_of_unseen hfingerprint fun hmem => ?_
    have hclosed := h.unseen fingerprint hmem hkind (hconnection.trans howns')
    rw [hopen] at hclosed
    cases hclosed
  obtain ⟨hflows, -, hegress, hingress⟩ := flowEffect_outputsForSignal hmarked
  rw [hpayload, flows_markSeen] at hflows hegress hingress
  rw [FlowState.next, closeFlowInterval_of_key hkey, hopened, ← generator_step hrun] at hflows
  have hegress := hegress hpod
  have hingress := hingress hpod
  rw [FlowState.interval?, closeFlowInterval_of_key hkey, hopened] at hegress hingress
  obtain ⟨hsum, hsum'⟩ := add_interval hcounted (i := intervalToClose event) ⟨rfl, rfl⟩ fun _ => ⟨rfl, rfl⟩
  refine ⟨unseen_step hrun h, ?_, ?_, ?_, ?_, ?_, ?_⟩
  · rw [hflows]
    exact length_insert_le h.size
  · rw [hhistory]
    intro hfresh
    simp [History.started] at hfresh
  · rw [hhistory]
    intro _ _ hopen
    cases hopen
  · rw [hhistory]
    intro close hclose
    cases hclose
    rw [hsent, hreceived, hegress, hingress]
    exact ⟨hsum, hsum'⟩
  · rw [hhistory]
    intro close hclose _ hroom
    cases hclose
    rw [hflows]
    refine lookup_insert_of_later h.size lookup_add_self ?_ hroom
    intro other state hother hne hlater
    rw [lookup_add_of_ne hne] at hother
    exact mem_laterCached hother hlater
  · rw [hhistory, hflows]
    intro close hclose other state hother hne hlater
    cases hclose
    rcases lookup_of_lookup_insert hother with ⟨hsame, -⟩ | ⟨-, hother⟩
    · exact absurd hsame hne
    · exact mem_laterCached hother hlater

theorem inv_step (h : Inv limits connection run) (horderly : Orderly limits connection run signal)
    (hundisturbed : Undisturbed limits connection run signal) : Inv limits connection run' := by
  rcases hconnection : connection? signal.payload with _ | ⟨key, openedAt⟩
  · exact h.step_of_none hrun hconnection
  · by_cases hkey : key = connection.key
    · subst hkey
      by_cases hopened : openedAt = some connection.openedAtUnixNanos
      · subst hopened
        cases hpayload : signal.payload with
        | networkConnectionSnapshot event =>
          rcases hclose : run.history.close with _ | close
          · exact h.step_snapshot_open hrun hpayload hconnection horderly hundisturbed hclose
          · exact h.step_snapshot_closed hrun hpayload hconnection horderly hundisturbed hclose
        | networkConnectionClose event => exact h.step_close hrun hpayload hconnection horderly hundisturbed
        | _ =>
          rw [hpayload] at hconnection
          cases hconnection
      · exact h.step_of_key hrun hconnection hopened
    · exact h.step_of_ne hrun hconnection hkey

end step

/-! ## The bytes of a connection -/

/-- Once the close has arrived, the summaries of the connection add up to its totals, and stay there. -/
theorem conserved_of_undisturbed (limits : Limits) (connection : Lifecycle)
    (signals : List (SignalEnvelope NetworkPayload))
    (h : Along (FlowRun.step limits connection)
      (fun run signal => Orderly limits connection run signal ∧ Undisturbed limits connection run signal) {} signals) :
    ∀ close ∈ (signals.foldl (FlowRun.step limits connection) {}).history.close,
      (signals.foldl (FlowRun.step limits connection) {}).sent = close.bytesSent.getD 0 ∧
        (signals.foldl (FlowRun.step limits connection) {}).received = close.bytesReceived.getD 0 := by
  have hinv : Inv limits connection (signals.foldl (FlowRun.step limits connection) {}) :=
    Along.invariant (fun _ _ hinv hstep => inv_step rfl hinv hstep.1 hstep.2) (inv_init limits connection) h
  exact hinv.closed
/-! A connection whose close arrives when the one place in the cache is taken by a connection that closed later. -/

section overtaken

def socket (fd : Int) : ConnectionIdentity :=
  { process :=
      { pid := 42, ppid := none, uid := none, command := text "api", executable := none, cgroupId := none }
    protocol := .tcp
    addressFamily := .ipv4
    remoteAddress := text "10.0.0.9"
    remotePort := 5432
    fd := some fd
    container := none
    kubernetes := some
      { namespaceName := text "default", podName := text "api-1", podUid := none, containerName := none
        nodeName := none } }

def snapshotSignal (fd : Int) (openedAt observedAt bytes : Nat) : SignalEnvelope NetworkPayload where
  source := text "source.network"
  host := none
  payload := .networkConnectionSnapshot
    { toConnectionIdentity := socket fd
      localAddress := none
      localPort := none
      openedAtUnixNanos := some openedAt
      observedAtUnixNanos := observedAt
      bytesSent := bytes
      bytesReceived := bytes }

def closeSignal (fd : Int) (openedAt closedAt bytes : Nat) : SignalEnvelope NetworkPayload where
  source := text "source.network"
  host := none
  payload := .networkConnectionClose
    { toConnectionIdentity := socket fd
      localAddress := none
      localPort := none
      openedAtUnixNanos := some openedAt
      closedAtUnixNanos := closedAt
      durationNanos := none
      bytesSent := some bytes
      bytesReceived := some bytes }

def overtaken : Lifecycle :=
  { key := { pid := 42, fd := 7, remoteAddress := text "10.0.0.9", remotePort := 5432 }, openedAtUnixNanos := 10 }

def overtakenSignals : List (SignalEnvelope NetworkPayload) :=
  [closeSignal 8 5 100 3, snapshotSignal 7 10 40 10, closeSignal 7 10 50 10, snapshotSignal 7 10 45 10]

/-- With two places, the snapshot that comes last is late. -/
theorem conserved_two_places :
    let run := overtakenSignals.foldl (FlowRun.step { maxMetricKeys := 4096, maxActiveConnections := 2 } overtaken) {}
    run.history.close.isSome ∧ ∀ close ∈ run.history.close,
      run.sent = close.bytesSent.getD 0 ∧ run.received = close.bytesReceived.getD 0 :=
  ⟨by decide +kernel, conserved_of_undisturbed _ overtaken overtakenSignals (by decide +kernel)⟩

/-- With one place the close is forgotten at once, and the ten bytes are counted twice. -/
theorem not_conserved_overtaken :
    Along (FlowRun.step { maxMetricKeys := 4096, maxActiveConnections := 1 } overtaken)
        (Orderly { maxMetricKeys := 4096, maxActiveConnections := 1 } overtaken) {} overtakenSignals ∧
      ¬ ∀ close ∈ (overtakenSignals.foldl
          (FlowRun.step { maxMetricKeys := 4096, maxActiveConnections := 1 } overtaken) {}).history.close,
        (overtakenSignals.foldl
            (FlowRun.step { maxMetricKeys := 4096, maxActiveConnections := 1 } overtaken) {}).sent =
          close.bytesSent.getD 0 := by
  decide +kernel

end overtaken

end ENavigator.Metrics.Network
