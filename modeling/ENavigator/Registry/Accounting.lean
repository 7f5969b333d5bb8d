import ENavigator.Registry.Protocols

/-!
# Requests of a connection, counted

The turns of all protocols keep the account of the queue (`accounts_turn`), and so do the loops over frames and what
`handle_event` does around them. A run of the registry on a connection is a sequence of streams: each starts with an
event and ends with an eviction (`Ledger`). In every run, each request that a stream has taken in has been reported
once, or waits in its queue, or is a Sync that PostgreSQL ignores while it copies in (`accounted_run`). HTTP/2 is not
among the protocols: its requests wait in a table of streams.
-/

namespace ENavigator.Registry

open ENavigator.Correlation ENavigator.Correlation.Tracker ENavigator.Stream List Postgres ProtocolStreamRegistry

theorem requests_erase {Lifecycle : Type} (t : Tracker Lifecycle) : t.erase.requests = t.requests := by
  unfold requests erase
  rw [map_map]
  rfl

theorem accounts_erase {Lifecycle : Type} {taken ignored : List Request} {t t' : Tracker Lifecycle}
    (h : Accounts taken ignored t t') : Accounts taken ignored t.erase t'.erase := by
  obtain ⟨reports, hsignals, hbalances⟩ := h.balances
  refine ⟨⟨reports, hsignals, ?_⟩, fun hbound => ?_⟩
  · rw [requests_erase, requests_erase]
    exact hbalances
  · unfold erase at hbound ⊢
    rw [length_map] at hbound ⊢
    exact h.bound hbound

/-! ## Turns -/

variable {code : ProtocolCode} {direction : StreamDirection} {observed : Nat} {frame : StreamFrame}

theorem accounts_natsTurn (t : Tracker Unit) :
    Accounts (takenNats code direction observed frame) [] t (natsTurn code direction observed frame t) := by
  have hcommand : Accounts [⟨natsCommandOf code frame, observed⟩] [] t
      ((t.count (countNatsCommand code frame)).emitUnmatched (natsCommandOf code frame) observed) :=
    .trans accounts_same (accounts_emitUnmatched carries_buildObservation)
  cases direction with
  | response => exact accounts_same
  | request =>
    cases frame with
    | protocolSwitch bytes protocol => exact accounts_same
    | complete bytes => exact hcommand
    | truncated bytes declared => exact hcommand

namespace ProtocolState

theorem hasQueue_turn [Base64] (state : ProtocolState) :
    (state.turn code direction observed frame).hasQueue = state.hasQueue := by
  cases state <;> rfl

theorem accounts_turn [Base64] {state : ProtocolState} (hqueue : state.hasQueue) :
    Accounts (state.taken code direction observed frame)
      ((state.ignored code direction frame).map InFlightRequest.request)
      state.tracker (state.turn code direction observed frame).tracker := by
  cases state with
  | http2 s => exact absurd hqueue Bool.false_ne_true
  | nats s => exact accounts_natsTurn s
  | http1 s =>
    cases direction with
    | request => exact accounts_erase Http1.accounts_request
    | response => exact accounts_erase Http1.accounts_response
  | kafka s =>
    cases direction with
    | request => exact accounts_erase Kafka.accounts_request
    | response => exact accounts_erase Kafka.accounts_response
  | mongodb s =>
    cases direction with
    | request => exact accounts_erase Mongodb.accounts_request
    | response => exact accounts_erase Mongodb.accounts_response
  | mysql s =>
    cases direction with
    | request => exact accounts_erase Mysql.accounts_request
    | response => exact accounts_erase Mysql.accounts_response
  | postgresql s =>
    cases direction with
    | request => exact accounts_erase counts_request.toAccounts
    | response => exact accounts_erase counts_response.toAccounts
  | redis s =>
    cases direction with
    | request => exact accounts_erase Redis.accounts_request
    | response => exact accounts_erase Redis.accounts_response

/-- The counter of the controls that PostgreSQL ignores while it copies in. -/
def ignoredControls : ProtocolState → Nat
  | .postgresql s => Postgres.ignoredControls s
  | _ => 0

theorem ignoredControls_turn [Base64] (state : ProtocolState) :
    state.ignoredControls + (state.ignored code direction frame).length ≤
      (state.turn code direction observed frame).ignoredControls := by
  cases state with
  | postgresql s =>
    cases direction with
    | request => exact counts_request.controls
    | response =>
      have hcontrols := (@Postgres.counts_response code.config observed frame s).controls
      rw [length_map] at hcontrols
      exact hcontrols
  | _ => exact Nat.le_refl 0

theorem isSync_of_mem_ignored {state : ProtocolState} {entry : Postgres.PostgresRequest}
    (h : entry ∈ state.ignored code direction frame) : entry.response.isSync := by
  cases state with
  | postgresql s =>
    cases direction with
    | request => exact absurd h not_mem_nil
    | response => exact isSync_of_mem_ignoredSyncs h
  | _ => exact absurd h not_mem_nil

end ProtocolState

/-! ## The log of a stream -/

namespace Logged

structure Accounted (l : Logged) : Prop where
  queue : Accounts l.taken (l.ignored.map InFlightRequest.request) {} l.state.tracker
  syncs : ∀ entry ∈ l.ignored, entry.response.isSync
  controls : l.ignored.length ≤ l.state.ignoredControls

/-- A stream with a queue keeps its account, and takes back none of its observations. -/
structure Keeps (l l' : Logged) : Prop where
  hasQueue : l'.state.hasQueue = l.state.hasQueue
  signals : l.state.hasQueue → l.state.tracker.signals <+: l'.state.tracker.signals
  accounted : l.state.hasQueue → l.Accounted → l'.Accounted

theorem Keeps.trans {a b c : Logged} (h : Keeps a b) (h' : Keeps b c) : Keeps a c where
  hasQueue := h'.hasQueue.trans h.hasQueue
  signals := fun hqueue => (h.signals hqueue).trans (h'.signals (h.hasQueue ▸ hqueue))
  accounted := fun hqueue ha => h'.accounted (h.hasQueue ▸ hqueue) (h.accounted hqueue ha)

theorem keeps_same {l : Logged} {before state : ProtocolState} (hstate : l.state = before)
    (hqueue : state.hasQueue = before.hasQueue := by rfl)
    (hrequests : state.tracker.requests = before.tracker.requests := by rfl)
    (hsignals : state.tracker.signals = before.tracker.signals := by rfl)
    (hcontrols : state.ignoredControls = before.ignoredControls := by rfl) : Keeps l { l with state } := by
  subst hstate
  exact ⟨hqueue, fun _ => hsignals ▸ prefix_rfl,
    fun _ ha => ⟨ha.queue.quiet hrequests hsignals, ha.syncs, hcontrols ▸ ha.controls⟩⟩

theorem keeps_turn [Base64] (l : Logged) (frame : StreamFrame) : Keeps l (l.turn code direction observed frame) := by
  refine ⟨l.state.hasQueue_turn, fun hqueue => ?_, fun hqueue ha => ⟨?_, ?_, ?_⟩⟩
  · obtain ⟨reports, hsignals, _⟩ := (ProtocolState.accounts_turn hqueue).balances
    exact ⟨reports, hsignals.symm⟩
  · show Accounts _ ((l.ignored ++ _).map _) _ _
    rw [map_append]
    exact ha.queue.trans (ProtocolState.accounts_turn hqueue)
  · exact forall_mem_append.mpr ⟨ha.syncs, fun _ => ProtocolState.isSync_of_mem_ignored⟩
  · show (l.ignored ++ _).length ≤ _
    rw [length_append]
    exact (Nat.add_le_add_right ha.controls _).trans l.state.ignoredControls_turn

/-- The loop over frames, by induction on them. -/
theorem keeps_turns [Base64] (frames : List StreamFrame) (l : Logged) :
    Keeps l (l.turns code direction observed frames) := by
  induction frames generalizing l with
  | nil => exact keeps_same rfl
  | cons frame rest ih => exact (keeps_turn l frame).trans (ih _)

end Logged

variable (s : ConnectionStream Logged)

theorem keeps_enter : s.rest.Keeps (enter s) := by
  unfold enter
  split
  next hstate => exact Logged.keeps_same hstate
  · exact Logged.keeps_same rfl

variable {l : Logged} {before after : ConnectionStream Logged} {reported : List ProtocolRequestObservation}

theorem keeps_decode {s s' : Mysql.MysqlStream} (hstate : l.state = .mysql s) (h : Mysql.SameQueue s s') :
    l.Keeps { l with state := .mysql s' } := by
  refine Logged.keeps_same hstate rfl ?_ h.signals
  show s'.toTracker.erase.requests = s.toTracker.erase.requests
  rw [requests_erase, requests_erase, requests, requests, h.inFlight]

theorem keeps_runFrames [Base64] (frames : List StreamFrame) (started : Nat) (l : Logged) :
    l.Keeps (runFrames code direction frames started l) := by
  unfold runFrames
  split
  · rename_i s hstate
    split
    · exact Logged.keeps_turns frames l
    · have hdecode := Mysql.decodeMysqlCompressedTransportFrames_queue code.inflate direction started frames s {}
      rcases hdecoded : Mysql.decodeMysqlCompressedTransportFrames code.inflate direction started frames s {} with
        ⟨s', _ | decoded⟩
      all_goals rw [hdecoded] at hdecode
      · exact keeps_decode hstate hdecode
      · exact (keeps_decode hstate hdecode).trans (Logged.keeps_turns decoded.frames _)
  · exact Logged.keeps_turns frames l

theorem keeps_leave (l : Logged) :
    l.Keeps (leave s l).rest ∧ (leave s l).rest.state.tracker.signals = l.state.tracker.signals := by
  unfold leave
  split
  next hstate => exact ⟨Logged.keeps_same hstate, by rw [hstate]; rfl⟩
  next hstate =>
    split
    · exact ⟨Logged.keeps_same hstate, by rw [hstate]; rfl⟩
    · exact ⟨Logged.keeps_same rfl, rfl⟩
  · exact ⟨Logged.keeps_same rfl, rfl⟩
  · exact ⟨Logged.keeps_same rfl, rfl⟩

/-! ## Events -/

/-- The stream has become `after` and has reported what it had not reported before. -/
structure Advances (before after : ConnectionStream Logged) (reported : List ProtocolRequestObservation) : Prop where
  hasQueue : after.rest.state.hasQueue = before.rest.state.hasQueue
  signals : before.rest.state.hasQueue →
    after.rest.state.tracker.signals = before.rest.state.tracker.signals ++ reported
  accounted : before.rest.state.hasQueue → before.rest.Accounted → after.rest.Accounted

theorem advances_same (h : after.rest = before.rest) : Advances before after [] where
  hasQueue := by rw [h]
  signals := fun _ => by rw [h, append_nil]
  accounted := fun _ ha => h ▸ ha

theorem Advances.of_rest {before' : ConnectionStream Logged} (h : Advances before after reported)
    (hrest : before.rest = before'.rest) : Advances before' after reported := by
  obtain ⟨hasQueue, signals, accounted⟩ := h
  rw [hrest] at hasQueue signals accounted
  exact ⟨hasQueue, signals, accounted⟩

theorem advances_handle [Base64] (frames : List StreamFrame) (started : Nat) (s : ConnectionStream Logged) :
    Advances s ((protocolHandlers code).handle direction frames started s).1
      ((protocolHandlers code).handle direction frames started s).2 := by
  have hrun := (keeps_enter s).trans (@keeps_runFrames code direction _ frames started (enter s))
  have hleave := keeps_leave s (runFrames code direction frames started (enter s))
  have hall := hrun.trans hleave.1
  refine ⟨hall.hasQueue, fun hqueue => ?_, hall.accounted⟩
  -- `leave` reports nothing, so the observations are those of the loop
  obtain ⟨reports, hreports⟩ := hrun.signals hqueue
  show (leave s _).rest.state.tracker.signals = _ ++ List.drop _ _
  rw [hleave.2, ← hreports, drop_left]

theorem advances_handleStreamEvent [Base64] (raw : RawSegment) (observed : Nat)
    (found : Option ProtocolDiscoveryMatch) (s : ConnectionStream Logged) (c : Connection Logged) :
    ∃ after, (code.registry.handleStreamEvent direction raw observed found s c).connection.stream = some after ∧
      Advances s after (code.registry.handleStreamEvent direction raw observed found s c).signals := by
  unfold handleStreamEvent
  split
  · exact ⟨s, rfl, advances_same rfl⟩
  split
  · exact ⟨s, rfl, advances_same rfl⟩
  split
  · exact ⟨_, rfl, advances_same rfl⟩
  · have hfed : (s.fed direction raw observed found).1.rest = s.rest := by
      cases direction with
      | request => rfl
      | response => rfl
    exact ⟨_, rfl, (advances_handle _ _ _).of_rest hfed⟩

variable (code)

/-- What an event of any kind does to a connection. -/
inductive Outcome [Base64] (c : Connection Logged) (handled : Handled Logged) : Prop where
  | quiet (hstream : handled.connection.stream = c.stream) (hsignals : handled.signals = [])
  | started (hbefore : c.stream = none) (protocol : StreamProtocol) (observed : Nat) (after : ConnectionStream Logged)
      (hafter : handled.connection.stream = some after)
      (hadvances : Advances (code.registry.newStream protocol observed) after handled.signals)
  | continued (before after : ConnectionStream Logged) (hbefore : c.stream = some before)
      (hafter : handled.connection.stream = some after) (hadvances : Advances before after handled.signals)
  | ended (before : ConnectionStream Logged) (hbefore : c.stream = some before)
      (hafter : handled.connection.stream = none) (hsignals : handled.signals = drain before)

theorem outcome_handleData [Base64] (raw : RawSegment) (observed : Nat) (c : Connection Logged) :
    Outcome code c (code.registry.handleData direction raw observed c) := by
  unfold handleData
  split
  · rename_i s hstream
    split
    · exact .quiet rfl rfl
    · obtain ⟨after, hafter, hadvances⟩ := advances_handleStreamEvent raw observed none (s.seen observed) c
      exact .continued s after hstream hafter (hadvances.of_rest rfl)
  · rename_i hstream
    split
    · exact .quiet rfl rfl
    split
    · exact .quiet rfl rfl
    · rename_i candidate found _ _
      obtain ⟨after, hafter, hadvances⟩ := advances_handleStreamEvent raw observed (some found)
        (code.registry.newStream found.protocol observed)
        { c with
          candidate
          counters := { c.counters with discoveredConnections := c.counters.discoveredConnections + 1 } }
      exact .started hstream found.protocol observed after hafter hadvances

theorem outcome_handleConfigured [Base64] (protocol : StreamProtocol) (raw : RawSegment) (observed : Nat)
    (c : Connection Logged) : Outcome code c (code.registry.handleConfigured protocol direction raw observed c) := by
  unfold handleConfigured
  split
  · exact outcome_handleData code raw observed c
  rename_i hstream
  split
  · exact .quiet rfl rfl
  · obtain ⟨after, hafter, hadvances⟩ := advances_handleStreamEvent raw observed none
      (code.registry.newStream protocol observed) c
    exact .started hstream protocol observed after hafter hadvances

theorem outcome_handleRegistryEvent [Base64] (c : Connection Logged) (e : RegistryEvent) :
    Outcome code c (code.registry.handleRegistryEvent c e) := by
  cases e with
  | configured protocol direction raw observed => exact outcome_handleConfigured code protocol raw observed c
  | connection e =>
    cases e with
    | data direction raw observed => exact outcome_handleData code raw observed c
    | evictCandidate => exact .quiet rfl rfl
    | evictConnection =>
      show Outcome code c (code.registry.evictConnection c)
      unfold evictConnection
      split
      · exact .quiet rfl rfl
      · rename_i s hstream
        exact .ended s hstream rfl rfl

/-! ## Runs -/

/-- A stream and everything that was reported for it. -/
structure Life where
  log : Logged
  reported : List ProtocolRequestObservation

/-- What the stream has taken in has been reported once each, or is among those `waiting`, or is a Sync that was
ignored and counted. -/
structure Life.Accounted (life : Life) (waiting : List Request) : Prop where
  balances : Balances Carries [] life.log.taken life.reported waiting (life.log.ignored.map InFlightRequest.request)
  syncs : ∀ entry ∈ life.log.ignored, entry.response.isSync
  controls : life.log.ignored.length ≤ life.log.state.ignoredControls

/-- A connection with what its stream has reported and the streams it has had before. -/
structure Ledger where
  connection : Connection Logged := {}
  reported : List ProtocolRequestObservation := []
  ended : List Life := []

def Ledger.step [Base64] (l : Ledger) (e : RegistryEvent) : Ledger :=
  let handled := code.registry.handleRegistryEvent l.connection e
  match l.connection.stream, handled.connection.stream with
  | some s, none =>
    { connection := handled.connection
      reported := []
      ended := l.ended ++ [⟨s.rest, l.reported ++ handled.signals⟩] }
  | _, _ => { l with connection := handled.connection, reported := l.reported ++ handled.signals }

structure Ledger.Accounted (l : Ledger) : Prop where
  current : ∀ s, l.connection.stream = some s → s.rest.state.hasQueue →
    Life.Accounted ⟨s.rest, l.reported⟩ s.rest.state.tracker.requests ∧
      s.rest.state.tracker.inFlight.length ≤ maxInFlightRequests
  ended : ∀ life ∈ l.ended, life.log.state.hasQueue → life.Accounted []

theorem accounted_new [Base64] (protocol : StreamProtocol) (observed : Nat) :
    (code.registry.newStream protocol observed).rest.Accounted ∧
      (code.registry.newStream protocol observed).rest.state.tracker.signals = [] := by
  have hnew : (ProtocolState.new code protocol).tracker.requests = [] ∧
      (ProtocolState.new code protocol).tracker.signals = [] := by
    cases protocol <;> exact ⟨rfl, rfl⟩
  refine ⟨⟨accounts_of_requests hnew.1 hnew.2, fun _ h => absurd h not_mem_nil, Nat.zero_le _⟩, hnew.2⟩

theorem life_accounted (h : l.Accounted) : Life.Accounted ⟨l, l.state.tracker.signals⟩ l.state.tracker.requests := by
  obtain ⟨reports, hsignals, hbalances⟩ := h.queue.balances
  refine ⟨?_, h.syncs, h.controls⟩
  rw [hsignals]
  exact hbalances

theorem life_drained {s : ConnectionStream Logged} (h : s.rest.Accounted) (hqueue : s.rest.state.hasQueue) :
    Life.Accounted ⟨s.rest, s.rest.state.tracker.signals ++ drain s⟩ [] := by
  have hdrain : drain s = s.rest.state.tracker.inFlight.map InFlightRequest.unmatched := by
    unfold drain
    split
    · rename_i hstate
      rw [hstate] at hqueue
      exact absurd hqueue Bool.false_ne_true
    · rfl
  have hcarried : List.Forall₂ Carries s.rest.state.tracker.requests (drain s) := by
    rw [hdrain, requests, forall₂_map_left_iff, forall₂_map_right_iff]
    exact forall₂_same.mpr fun _ _ => carries_buildObservation
  have hempty := balances_drain s.rest.state.tracker.requests [] hcarried
  rw [append_nil] at hempty
  have hall := (life_accounted h).balances.trans hempty
  rw [append_nil, append_nil] at hall
  exact ⟨hall, h.syncs, h.controls⟩

/-- What a run keeps: the reports for the stream are the observations in its state. -/
structure Ledger.Holds (l : Ledger) : Prop where
  idle : l.connection.stream = none → l.reported = []
  current : ∀ s, l.connection.stream = some s → s.rest.state.hasQueue →
    s.rest.Accounted ∧ l.reported = s.rest.state.tracker.signals
  ended : ∀ life ∈ l.ended, life.log.state.hasQueue → life.Accounted []

theorem Ledger.Holds.accounted {l : Ledger} (h : l.Holds) : l.Accounted := by
  refine ⟨fun s hstream hqueue => ?_, h.ended⟩
  obtain ⟨ha, hreported⟩ := h.current s hstream hqueue
  rw [hreported]
  exact ⟨life_accounted ha, ha.queue.bound (Nat.zero_le _)⟩

theorem Ledger.Holds.alive {l : Ledger} (h : l.Holds) {signals : List ProtocolRequestObservation}
    (hadvances : Advances before after signals)
    (hbefore : before.rest.state.hasQueue → before.rest.Accounted ∧ l.reported = before.rest.state.tracker.signals)
    {connection : Connection Logged} (hafter : connection.stream = some after) :
    Ledger.Holds { l with connection, reported := l.reported ++ signals } := by
  refine ⟨fun hnone => absurd (hafter.symm.trans hnone) (Option.some_ne_none after), fun s hs hqueue => ?_, h.ended⟩
  cases Option.some.inj (hafter.symm.trans hs)
  rw [hadvances.hasQueue] at hqueue
  obtain ⟨ha, hreported⟩ := hbefore hqueue
  refine ⟨hadvances.accounted hqueue ha, ?_⟩
  rw [hadvances.signals hqueue, hreported]

theorem Ledger.Holds.step [Base64] {l : Ledger} (h : l.Holds) (e : RegistryEvent) : (l.step code e).Holds := by
  unfold Ledger.step
  dsimp only
  cases outcome_handleRegistryEvent code l.connection e with
  | quiet hstream hsignals =>
    rw [hstream, hsignals, append_nil]
    rcases l.connection.stream with _ | s
    all_goals exact ⟨fun hnone => h.idle (hstream ▸ hnone), fun s hs => h.current s (hstream ▸ hs), h.ended⟩
  | started hbefore protocol observed after hafter hadvances =>
    rw [hbefore, hafter]
    obtain ⟨hnew, hsilent⟩ := accounted_new code protocol observed
    exact h.alive hadvances (fun _ => ⟨hnew, (h.idle hbefore).trans hsilent.symm⟩) hafter
  | continued before after hbefore hafter hadvances =>
    rw [hbefore, hafter]
    exact h.alive hadvances (h.current before hbefore) hafter
  | ended before hbefore hafter hsignals =>
    rw [hbefore, hafter]
    refine ⟨fun _ => rfl, fun s hs => absurd (hs.symm.trans hafter) (Option.some_ne_none s),
      forall_mem_append.mpr ⟨h.ended, forall_mem_singleton.mpr fun hqueue => ?_⟩⟩
    obtain ⟨ha, hreported⟩ := h.current before hbefore hqueue
    rw [hreported, hsignals]
    exact life_drained ha hqueue

/-- **No request is lost or reported twice**, in any run of the registry on a connection. -/
theorem accounted_run [Base64] (events : List RegistryEvent) : (events.foldl (Ledger.step code) {}).Accounted := by
  have hstart : ({} : Ledger).Holds :=
    ⟨fun _ => rfl, fun s hs => absurd hs.symm (Option.some_ne_none s), fun _ h => absurd h not_mem_nil⟩
  have hrun : (events.foldl (Ledger.step code) {}).Holds :=
    List.foldlRecOn events (Ledger.step code) hstart fun l hl e _ => hl.step code e
  exact hrun.accounted

end ENavigator.Registry
