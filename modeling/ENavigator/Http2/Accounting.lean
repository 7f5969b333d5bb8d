import ENavigator.Correlation.Accounting
import ENavigator.Http2.Integrity

/-!
# Requests of an HTTP/2 connection, counted

Every request that a header block opens on a stream is in the table of streams, under its stream and with what responses
have added to it, or has left it with one observation (`Accounted`). That holds as long as no block of a request names a
stream that is in the table (`accounted_of_fresh`). A block that does takes the place of what is there
(`trailers_overwrite`).
-/

namespace ENavigator.Http2

open ENavigator.Correlation ENavigator.Stream List SortedMap

variable (config : ProtocolExtractionConfig)

/-- The connection is dropped, and every request of its table with it; the next frame starts a new one. -/
def evictConnection (s : Http2Stream) : Http2Stream where
  counters := { s.counters with
    evictedConnections := s.counters.evictedConnections + 1
    unmatchedEvicted := s.counters.unmatchedEvicted + s.http2.streams.entries.length }
  signals := s.signals ++ s.http2.streams.entries.map fun e => e.2.unmatched

inductive ConnectionEvent where
  | frame (direction : StreamDirection) (frame : StreamFrame) (observed : Nat)
  | evict

def Http2Stream.step (s : Http2Stream) : ConnectionEvent → Http2Stream
  | .frame direction frame observed => handleHttp2Frame config direction observed frame s
  | .evict => evictConnection s

/-- The stream and the request that an event opens. -/
def opening (s : Http2Stream) : ConnectionEvent → Option (Nat × Request)
  | .frame .request frame observed =>
    match readFrame .request frame s.counters with
    | (_, none) => none
    | (counters, some read) =>
      match takeRequestHeaders config observed read.header read.payload read.truncated { s with counters } with
      | (_, none) => none
      | (s, some taken) =>
        some (taken.header.streamId, ⟨(parseRequestHeaders config read.truncated taken s).2, taken.startedUnixNanos⟩)
  | _ => none

/-- A connection with all requests that were opened on it, and their streams. -/
structure Ledger where
  stream : Http2Stream := {}
  opened : List (Nat × Request) := []

def Ledger.step (l : Ledger) (e : ConnectionEvent) : Ledger where
  stream := l.stream.step config e
  opened := l.opened ++ (opening config l.stream e).toList

/-- The entry of the table is the request of its stream, as the responses so far have left it. -/
structure Waits (x : Nat × Request) (e : Nat × StreamRequest) : Prop where
  streamId : e.1 = x.1
  started : e.2.startedUnixNanos = x.2.startedUnixNanos
  answered : Answered config.maxAttributes x.2.parsed e.2.parsed

/-- The requests that wait, in any order. -/
def Stored (waiting : List (Nat × Request)) (s : Http2Stream) : Prop :=
  ∃ entries, List.Forall₂ (Waits config) waiting entries ∧ entries.Perm s.http2.streams.entries

/-- Each request that was opened waits in the table or has left it with one observation, and none has twice. -/
def Ledger.Accounted (l : Ledger) : Prop :=
  ∃ waiting, Stored config waiting l.stream ∧
    Balances (fun x => Carries x.2) [] l.opened l.stream.signals waiting []

/-- A stream that is in the table does not push another one out of it. -/
def Ledger.Undisturbed (l : Ledger) (e : ConnectionEvent) : Prop :=
  ∀ x ∈ opening config l.stream e, x.1 ∈ l.stream.http2.streams.keys →
    ∀ k ∈ l.stream.http2.streams.keys, k ∈ (l.stream.step config e).http2.streams.keys

/-- A request is opened on a stream that is not in the table. -/
def Ledger.Fresh (l : Ledger) (e : ConnectionEvent) : Prop :=
  ∀ x ∈ opening config l.stream e, x.1 ∉ l.stream.http2.streams.keys

instance (l : Ledger) (e : ConnectionEvent) : Decidable (l.Fresh config e) :=
  inferInstanceAs (Decidable (∀ x ∈ opening config l.stream e, x.1 ∉ l.stream.http2.streams.keys))

instance (l : Ledger) (e : ConnectionEvent) : Decidable (l.Undisturbed config e) :=
  inferInstanceAs (Decidable (∀ x ∈ opening config l.stream e, x.1 ∈ l.stream.http2.streams.keys →
    ∀ k ∈ l.stream.http2.streams.keys, k ∈ (l.stream.step config e).http2.streams.keys))

/-! ## What an event does to the table -/

variable {config} {s s' : Http2Stream} {observed : Nat} {waiting opened : List (Nat × Request)} {x : Nat × Request}
  {streamId : Nat} {entry entry' : StreamRequest}

/-- What happens to the requests that wait: those `opened` join them, and those that leave are reported. -/
def Keeps (config : ProtocolExtractionConfig) (opened : List (Nat × Request)) (s s' : Http2Stream) : Prop :=
  ∀ waiting, Stored config waiting s → ∃ waiting' reports, Stored config waiting' s' ∧
    s'.signals = s.signals ++ reports ∧ Balances (fun x => Carries x.2) waiting opened reports waiting' []

theorem Keeps.trans {opened' : List (Nat × Request)} {s'' : Http2Stream} (h : Keeps config opened s s')
    (h' : Keeps config opened' s' s'') : Keeps config (opened ++ opened') s s'' := by
  intro waiting hstored
  obtain ⟨waiting', reports, hstored', hsignals, hbalances⟩ := h waiting hstored
  obtain ⟨waiting'', reports', hstored'', hsignals', hbalances'⟩ := h' waiting' hstored'
  refine ⟨waiting'', reports ++ reports', hstored'', ?_, hbalances.trans hbalances'⟩
  rw [hsignals', hsignals, append_assoc]

theorem SameTable.keeps (h : SameTable s s') : Keeps config [] s s' := by
  intro waiting hstored
  refine ⟨waiting, [], ?_, ?_, balances_refl waiting⟩
  · rw [Stored, h.streams]
    exact hstored
  · rw [h.signals, append_nil]

theorem Stored.erase (h : Stored config waiting s)
    (hentry : (streamId, entry) ∈ s.http2.streams.entries) :
    ∃ x rest, waiting.Perm (x :: rest) ∧ Waits config x (streamId, entry) ∧
      List.Forall₂ (Waits config) rest (s.http2.streams.erase streamId).entries := by
  obtain ⟨entries, hwaits, hperm⟩ := h
  have hcomp : (Relation.Comp (List.Forall₂ (Waits config)) List.Perm) waiting
      ((streamId, entry) :: (s.http2.streams.erase streamId).entries) :=
    ⟨entries, hwaits, hperm.trans (perm_erase hentry)⟩
  rw [forall₂_comp_perm_eq_perm_comp_forall₂] at hcomp
  obtain ⟨all, hall, hwaits⟩ := hcomp
  obtain ⟨x, rest, hx, hrest, rfl⟩ := forall₂_cons_right_iff.mp hwaits
  exact ⟨x, rest, hall, hx, hrest⟩

theorem Waits.carries (h : Waits config x (streamId, entry)) (ended : Option Nat) :
    Carries x.2 (buildObservation entry.parsed entry.startedUnixNanos ended) :=
  ⟨_, _, ended, h.answered, by rw [← h.started]⟩

theorem Waits.answer (h : Waits config x (streamId, entry))
    (hanswered : Answered config.maxAttributes entry.parsed entry'.parsed)
    (hstarted : entry'.startedUnixNanos = entry.startedUnixNanos) : Waits config x (streamId, entry') :=
  ⟨h.streamId, hstarted.trans h.started, h.answered.trans hanswered⟩

theorem keeps_report {ended : Option Nat} {counters : ProtocolRegistryCounters}
    (hentry : (streamId, entry) ∈ s.http2.streams.entries)
    (hanswered : Answered config.maxAttributes entry.parsed entry'.parsed)
    (hstarted : entry'.startedUnixNanos = entry.startedUnixNanos) :
    Keeps config [] s
      { s with
        http2 := { s.http2 with streams := s.http2.streams.erase streamId }
        counters
        signals := s.signals ++ [buildObservation entry'.parsed entry'.startedUnixNanos ended] } := by
  intro waiting hstored
  obtain ⟨x, rest, hwaiting, hx, hrest⟩ := hstored.erase hentry
  refine ⟨rest, _, ⟨_, hrest, .refl _⟩, rfl, [x], .cons ((hx.answer hanswered hstarted).carries ended) .nil, ?_⟩
  rw [append_nil, append_nil]
  exact hwaiting

theorem keeps_evictStream (s : Http2Stream) : Keeps config [] s (evictStream s) := by
  unfold evictStream
  split
  · split
    next streamId entry hfirst =>
      have hmem : (streamId, entry) ∈ s.http2.streams.entries := mem_of_mem_head? (Option.mem_def.mpr hfirst)
      exact keeps_report hmem (answered_refl _ _) rfl
    · exact SameTable.keeps ⟨rfl, rfl⟩
  · exact SameTable.keeps ⟨rfl, rfl⟩

theorem evictStream_keys {k : Nat} (h : k ∈ (evictStream s).http2.streams.keys) : k ∈ s.http2.streams.keys := by
  unfold evictStream at h
  split at h
  · split at h
    · exact (mem_keys_erase.mp h).2
    · exact h
  · exact h

theorem keeps_openStream {taken : RequestHeaders} (hnew : taken.header.streamId ∉ s.http2.streams.keys)
    (parsed : ParsedRequestFrame) :
    Keeps config [(taken.header.streamId, ⟨parsed, taken.startedUnixNanos⟩)] s (openStream taken parsed s) := by
  refine (keeps_evictStream s).trans fun waiting hstored => ?_
  obtain ⟨entries, hwaits, hperm⟩ := hstored
  have hinserted := insert_perm (fun h => hnew (evictStream_keys h))
    (⟨parsed, taken.startedUnixNanos, ()⟩ : StreamRequest)
  refine ⟨(taken.header.streamId, ⟨parsed, taken.startedUnixNanos⟩) :: waiting, [],
    ⟨_, .cons ⟨rfl, rfl, answered_refl _ _⟩ hwaits, (hperm.cons _).trans hinserted.symm⟩, (append_nil _).symm,
      [], .nil, ?_⟩
  rw [append_nil, nil_append]
  exact perm_append_singleton _ _

theorem keeps_settleStream {taken : ResponseHeaders}
    (hentry : (taken.header.streamId, entry) ∈ s.http2.streams.entries)
    (hanswered : Answered config.maxAttributes entry.parsed entry'.parsed)
    (hstarted : entry'.startedUnixNanos = entry.startedUnixNanos) :
    Keeps config [] s (settleStream observed taken entry' s) := by
  unfold settleStream
  split
  · exact keeps_report hentry hanswered hstarted
  · intro waiting hstored
    obtain ⟨x, rest, hwaiting, hx, hrest⟩ := hstored.erase hentry
    have habsent : taken.header.streamId ∉ (s.http2.streams.erase taken.header.streamId).keys :=
      fun h => (mem_keys_erase.mp h).1 rfl
    refine ⟨x :: rest, [], ⟨_, .cons (hx.answer hanswered hstarted) hrest, (insert_perm habsent entry').symm⟩,
      (append_nil _).symm, [], .nil, ?_⟩
    rw [append_nil, nil_append, append_nil]
    exact hwaiting

theorem keeps_handleRequestFrame {frame : StreamFrame}
    (hfresh : ∀ x ∈ opening config s (.frame .request frame observed), x.1 ∉ s.http2.streams.keys) :
    Keeps config (opening config s (.frame .request frame observed)).toList s
      (handleHttp2Frame config .request observed frame s) := by
  simp only [opening, handleHttp2Frame] at hfresh ⊢
  rcases hread : readFrame .request frame s.counters with ⟨counters, _ | read⟩
  · exact SameTable.keeps ⟨rfl, rfl⟩
  rw [hread] at hfresh
  dsimp only at hfresh ⊢
  unfold handleRequestFrame
  have htake := (takeRequestHeaders_spec config observed read { s with counters }).1
  rcases htaken : takeRequestHeaders config observed read.header read.payload read.truncated { s with counters } with
    ⟨s', _ | taken⟩
  · rw [htaken] at htake
    exact SameTable.keeps ⟨htake.streams, htake.signals⟩
  rw [htaken] at hfresh htake
  have hparse := htake.trans (parseRequestHeaders_side config read.truncated taken s' rfl).2.2
  have hnew : taken.header.streamId ∉ (parseRequestHeaders config read.truncated taken s').1.http2.streams.keys := by
    rw [hparse.streams]
    exact hfresh _ rfl
  exact (SameTable.keeps ⟨hparse.streams, hparse.signals⟩).trans
    (keeps_openStream hnew (parseRequestHeaders config read.truncated taken s').2)

theorem keeps_handleResponseFrame (s : Http2Stream) (frame : StreamFrame) (observed : Nat) :
    Keeps config [] s (handleHttp2Frame config .response observed frame s) := by
  unfold handleHttp2Frame
  rcases readFrame .response frame s.counters with ⟨counters, _ | read⟩
  · exact SameTable.keeps ⟨rfl, rfl⟩
  dsimp only
  unfold handleResponseFrame
  have htake := (takeResponseHeaders_spec config read { s with counters }).1
  rcases htaken : takeResponseHeaders config read.header read.payload read.truncated { s with counters } with
    ⟨s', _ | taken⟩
  · rw [htaken] at htake
    exact SameTable.keeps ⟨htake.streams, htake.signals⟩
  rw [htaken] at htake
  have hstart : Keeps config [] s s' := SameTable.keeps ⟨htake.streams, htake.signals⟩
  dsimp only
  rcases hlookup : s'.http2.streams.lookup taken.header.streamId with _ | entry
  · dsimp only
    split
    · exact hstart.trans (SameTable.keeps ⟨rfl, rfl⟩)
    · exact hstart
  · obtain ⟨-, -, hparse, hanswered, hstarted⟩ := parseResponseHeaders_side config read.truncated taken entry s' rfl
    have hentry := mem_entries_of_lookup hlookup
    rw [← hparse.streams] at hentry
    exact hstart.trans (hparse.keeps.trans (keeps_settleStream hentry hanswered hstarted))

theorem keeps_evictConnection (s : Http2Stream) : Keeps config [] s (evictConnection s) := by
  intro waiting hstored
  obtain ⟨all, hall, hwaits⟩ :
      Relation.Comp List.Perm (List.Forall₂ (Waits config)) waiting s.http2.streams.entries := by
    rw [← forall₂_comp_perm_eq_perm_comp_forall₂]
    exact hstored
  refine ⟨[], _, ⟨[], .nil, .refl _⟩, rfl, all, ?_, ?_⟩
  · exact forall₂_map_right_iff.mpr (hwaits.imp fun x e h => h.carries none)
  · rw [append_nil, append_nil, append_nil]
    exact hall

/-! ## Runs -/

theorem Ledger.Accounted.step {l : Ledger} {e : ConnectionEvent} (h : l.Accounted config) (hfresh : l.Fresh config e) :
    (l.step config e).Accounted config := by
  have hkeeps : Keeps config (opening config l.stream e).toList l.stream (l.stream.step config e) := by
    rcases e with ⟨_ | _, frame, observed⟩ | _
    · exact keeps_handleRequestFrame hfresh
    · exact keeps_handleResponseFrame l.stream frame observed
    · exact keeps_evictConnection l.stream
  obtain ⟨waiting, hstored, hbalances⟩ := h
  obtain ⟨waiting', reports, hstored', hsignals, hbalances'⟩ := hkeeps waiting hstored
  refine ⟨waiting', hstored', ?_⟩
  rw [Ledger.step, hsignals]
  exact hbalances.trans hbalances'

theorem accounted_start : ({} : Ledger).Accounted config := ⟨[], ⟨[], .nil, .refl _⟩, balances_refl []⟩

/-- As many requests as were opened are reported or wait. -/
theorem Ledger.Accounted.length {l : Ledger} (h : l.Accounted config) :
    l.opened.length = l.stream.signals.length + l.stream.http2.streams.entries.length := by
  obtain ⟨waiting, ⟨entries, hwaits, hperm⟩, left, hleft, hall⟩ := h
  have hopened := hall.length_eq
  rw [nil_append, append_nil, length_append] at hopened
  rw [← hperm.length_eq, ← hwaits.length_eq, ← hleft.length_eq]
  exact hopened

theorem accounted_of_fresh {events : List ConnectionEvent}
    (h : Along (Ledger.step config) (Ledger.Fresh config) {} events) :
    (events.foldl (Ledger.step config) {}).Accounted config ∧
      Along (Ledger.step config) (Ledger.Undisturbed config) {} events := by
  refine ⟨h.invariant (fun l e => Ledger.Accounted.step) accounted_start, ?_⟩
  refine h.imp fun l e hfresh x hx hmem => ?_
  exact absurd hmem (hfresh x hx)

/-! ### Trailers -/

def headersBytes (flags streamId : UInt8) (block : Bytes) : Bytes :=
  [0, 0, UInt8.ofNat block.length, http2FrameTypeHeaders, flags, 0, 0, 0, streamId] ++ block

def requestAt (streamId : UInt8) (observed : Nat) : ConnectionEvent :=
  .frame .request (.complete (headersBytes http2FlagEndHeaders streamId getBlock)) observed

/-- The trailers that end it: `x: y`. -/
def trailersAt (streamId : UInt8) (observed : Nat) : ConnectionEvent :=
  .frame .request (.complete (headersBytes (http2FlagEndHeaders ||| http2FlagEndStream) streamId
    [0x00, 1, 120, 1, 121])) observed

def responseAt (streamId : UInt8) (status : String) (observed : Nat) : ConnectionEvent :=
  .frame .response (.complete (headersFrame streamId (statusBlock status)).bytes) observed

theorem accounted_of_fresh_interleaved :
    let events := [requestAt 1 0, requestAt 3 1, responseAt 3 "200" 2, requestAt 5 3, responseAt 1 "404" 4, .evict]
    (events.foldl (Ledger.step {}) {}).Accounted {} ∧ Along (Ledger.step {}) (Ledger.Undisturbed {}) {} events :=
  accounted_of_fresh (by decide +kernel)

def fullTable : List ConnectionEvent := (List.range 32).map fun i => requestAt (UInt8.ofNat (2 * i + 1)) i

/-- The trailers of a stream take the place of its request, which is reported by no one; in a full table they push
another stream out. -/
theorem trailers_overwrite :
    let l := [requestAt 1 0, trailersAt 1 5].foldl (Ledger.step {}) {}
    (l.opened.map (fun x => (x.1, x.2.startedUnixNanos, x.2.parsed.operation)) =
        [(1, 0, some (text "GET")), (1, 5, none)] ∧
      l.stream.signals = [] ∧
      l.stream.http2.streams.entries =
        [(1, { parsed := { protocol := .http }, startedUnixNanos := 5, response := () })] ∧
      ¬ l.Accounted {}) ∧
      ¬ (fullTable.foldl (Ledger.step {}) {}).Undisturbed {} (trailersAt 63 40) := by
  intro l
  refine ⟨⟨by decide +kernel, by decide +kernel, by decide +kernel, fun h => ?_⟩, by decide +kernel⟩
  exact absurd h.length (by decide +kernel)

end ENavigator.Http2
