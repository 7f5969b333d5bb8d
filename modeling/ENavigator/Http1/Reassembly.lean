import ENavigator.Http1.Parser
import ENavigator.Lib.SortedMap
import Mathlib.Data.List.MinMax

/-!
# Requests from the reads of a server

`HttpRequestReassembler` joins the reads of each connection until the head of a request is complete, hands the head
out and skips the body. All that it knows of a connection is `HttpStreamState`; `HttpStreamState.push` is one read of
a connection that is alone, and `push_alone` says that the reassembler does then what it does.
-/

namespace ENavigator.Http1

open ENavigator.Correlation SortedMap
open ENavigator.Http2 (parseUnsigned)

def httpReassemblyStaleNanos : Nat := 5 * 60 * 1000000000

def http2Preface : Bytes := text "PRI * HTTP/2.0\r\n\r\nSM\r\n\r\n"

/-- What reassembly looks at in a captured read; `key` is the connection it belongs to. -/
structure RawHttpRequestEvent (Key : Type) where
  key : Key
  timestampUnixNanos : Nat
  requestTotalLen : Nat

inductive RawHttpDecodeError (Key : Type) where
  | reassemblyGap (sample : RawHttpRequestEvent Key)
  | reassemblyLimit (sample : RawHttpRequestEvent Key)
  | httpExtraction (reason : HttpExtraction) (sample : RawHttpRequestEvent Key)

structure HttpStreamState where
  buffer : Bytes := []
  bufferFirstMonotonicNanos : Nat := 0
  bodyBytesRemaining : Nat := 0
  lastSeenUnixNanos : Nat := 0

structure HttpReassemblyOutcome (Key : Type) where
  requests : List Bytes := []
  errors : List (RawHttpDecodeError Key) := []
  evictedStreams : Nat := 0

/-! ## Heads -/

def findHttpHeaderEnd (bytes : Bytes) : Option Nat := (findDoubleCrlf bytes).map (· + 4)

def startsWithHttpRequest (bytes : Bytes) : Bool :=
  match findByte bytes 32 with
  | none => false
  | some space => 0 < space && space ≤ 16 && (bytes.take space).all fun b => isAsciiUppercase b || b == 45

/-- The first length that can be read; a header of that name with another value is passed over. -/
def httpContentLength (request : Bytes) : Option Nat :=
  if !validUtf8 request then none
  else (splitCrlf request).tail.findSome? fun line =>
    (splitOnce 58 line).bind fun (name, value) =>
      if eqIgnoreAsciiCase name (text "content-length") then parseUnsigned usizeBound (trim value) else none

/-! ## One connection -/

namespace HttpStreamState

variable {Key : Type}

def clear (state : HttpStreamState) : HttpStreamState :=
  { state with buffer := [], bufferFirstMonotonicNanos := 0, bodyBytesRemaining := 0 }

/-- Where the bytes of a read go: behind the buffer, in front of it if they are older, or in its place. -/
def join (state : HttpStreamState) (visible : Bytes) (nanos : Nat) : HttpStreamState :=
  let alone := { state with buffer := visible, bufferFirstMonotonicNanos := nanos }
  let inFront := { state with buffer := visible ++ state.buffer, bufferFirstMonotonicNanos := nanos }
  if state.buffer.isEmpty then alone
  else if startsWithHttpRequest visible then
    if !startsWithHttpRequest state.buffer && nanos < state.bufferFirstMonotonicNanos then inFront else alone
  else if nanos < state.bufferFirstMonotonicNanos then inFront
  else { state with buffer := state.buffer ++ visible }

/-- One turn of the loop over the heads in the buffer for every unit of fuel; a turn takes a head out of it. -/
def extract (maxHeaderBytes : Nat) (config : ProtocolExtractionConfig) (raw : RawHttpRequestEvent Key) :
    Nat → HttpStreamState → Nat → HttpReassemblyOutcome Key → HttpStreamState × HttpReassemblyOutcome Key
  | 0, state, _, outcome => (state, outcome)
  | fuel + 1, state, uncaptured, outcome =>
    let fail (e : RawHttpDecodeError Key) := (state.clear, { outcome with errors := outcome.errors ++ [e] })
    if state.buffer.length > maxHeaderBytes then fail (.reassemblyLimit raw)
    else match findHttpHeaderEnd state.buffer with
    | none => if uncaptured > 0 then fail (.reassemblyGap raw) else (state, outcome)
    | some headerEnd =>
      let request := state.buffer.take headerEnd
      match parseHttpRequest request config with
      | .error reason => fail (.httpExtraction reason raw)
      | .ok _ =>
        let bodyLen := (httpContentLength request).getD 0
        let rest := state.buffer.drop headerEnd
        let missing := bodyLen - rest.length
        let state := { state with buffer := rest.drop bodyLen, bodyBytesRemaining := missing - uncaptured }
        let uncaptured := uncaptured - missing
        let outcome := { outcome with requests := outcome.requests ++ [request] }
        if state.bodyBytesRemaining > 0 then (state, outcome)
        else if state.buffer.isEmpty then
          let outcome :=
            if uncaptured > 0 then { outcome with errors := outcome.errors ++ [.reassemblyGap raw] } else outcome
          ({ state with bufferFirstMonotonicNanos := 0 }, outcome)
        else extract maxHeaderBytes config raw fuel state uncaptured outcome

variable (maxHeaderBytes : Nat) (config : ProtocolExtractionConfig) (raw : RawHttpRequestEvent Key)

/-- The bytes of a read behind the body that was still to come. -/
def accept (state : HttpStreamState) (visible : Bytes) (uncaptured : Nat) :
    HttpStreamState × HttpReassemblyOutcome Key :=
  if http2Preface.isPrefixOf visible then (state.clear, {})
  else
    let state := state.join visible raw.timestampUnixNanos
    if !startsWithHttpRequest state.buffer then
      (if state.buffer.length > maxHeaderBytes ∨ uncaptured > 0 then state.clear else state, {})
    else extract maxHeaderBytes config raw (state.buffer.length + 1) state uncaptured {}

def receive (captured : Bytes) (state : HttpStreamState) : HttpStreamState × HttpReassemblyOutcome Key :=
  let uncaptured := max raw.requestTotalLen captured.length - captured.length
  if state.bodyBytesRemaining > 0 then
    let visible := captured.drop state.bodyBytesRemaining
    let missing := state.bodyBytesRemaining - captured.length
    let state := { state with bodyBytesRemaining := missing - uncaptured }
    let uncaptured := uncaptured - missing
    if state.bodyBytesRemaining > 0 then (state, {})
    else if visible.isEmpty then
      if uncaptured > 0 then
        ({ state with buffer := [], bufferFirstMonotonicNanos := 0 }, { errors := [.reassemblyGap raw] })
      else (state, {})
    else state.accept maxHeaderBytes config raw visible uncaptured
  else state.accept maxHeaderBytes config raw captured uncaptured

/-- A connection that was not seen for long is forgotten. -/
def fresh (observed : Nat) (state : HttpStreamState) : Bool :=
  observed - state.lastSeenUnixNanos ≤ httpReassemblyStaleNanos

def settled (state : HttpStreamState) : Bool := state.buffer.isEmpty && state.bodyBytesRemaining = 0

def push (captured : Bytes) (observed : Nat) (state : HttpStreamState) :
    HttpStreamState × HttpReassemblyOutcome Key :=
  let state := { (if state.fresh observed then state else {}) with lastSeenUnixNanos := observed }
  let (state, outcome) := state.receive maxHeaderBytes config raw captured
  (if state.settled then {} else state, outcome)

end HttpStreamState

/-! ## All connections -/

structure HttpRequestReassembler (Key : Type) [LinearOrder Key] where
  maxStreams : Nat
  maxHeaderBytes : Nat
  streams : SortedMap Key HttpStreamState

namespace HttpRequestReassembler

variable {Key : Type} [LinearOrder Key]

def new (maxStreams maxHeaderBytes : Nat) : HttpRequestReassembler Key :=
  ⟨max maxStreams 1, max maxHeaderBytes 1, .empty⟩

def reapStale (r : HttpRequestReassembler Key) (observed : Nat) : HttpRequestReassembler Key :=
  { r with streams := r.streams.filter fun e => e.2.fresh observed }

/-- The connection that was seen the longest time ago, if a new one has no room. -/
def evicted (r : HttpRequestReassembler Key) (key : Key) : Option Key :=
  if (r.streams.lookup key).isNone && r.maxStreams ≤ r.streams.entries.length then
    (r.streams.entries.argmin fun e => e.2.lastSeenUnixNanos).map Prod.fst
  else none

def push (r : HttpRequestReassembler Key) (raw : RawHttpRequestEvent Key) (captured : Bytes) (observed : Nat)
    (config : ProtocolExtractionConfig) : HttpRequestReassembler Key × HttpReassemblyOutcome Key :=
  let r := r.reapStale observed
  let evicted := r.evicted raw.key
  let streams := (evicted.map r.streams.erase).getD r.streams
  let state := { (streams.lookup raw.key).getD {} with lastSeenUnixNanos := observed }
  let (state, outcome) := state.receive r.maxHeaderBytes config raw captured
  let streams := streams.insert raw.key state
  ({ r with streams := if state.settled then streams.erase raw.key else streams },
    if evicted.isSome then { outcome with evictedStreams := 1 } else outcome)

def current (r : HttpRequestReassembler Key) (key : Key) : HttpStreamState := (r.streams.lookup key).getD {}

structure Alone (r : HttpRequestReassembler Key) (key : Key) : Prop where
  keys : ∀ k ∈ r.streams.keys, k = key
  room : 1 ≤ r.maxStreams

theorem alone_new (maxStreams maxHeaderBytes : Nat) (key : Key) :
    (new maxStreams maxHeaderBytes : HttpRequestReassembler Key).Alone key where
  keys := nofun
  room := Nat.le_max_right _ _

theorem push_alone {r : HttpRequestReassembler Key} {raw : RawHttpRequestEvent Key} (h : r.Alone raw.key)
    (captured : Bytes) (observed : Nat) (config : ProtocolExtractionConfig) :
    (r.push raw captured observed config).1.Alone raw.key ∧
      (r.push raw captured observed config).1.maxHeaderBytes = r.maxHeaderBytes ∧
      ((r.push raw captured observed config).1.current raw.key, (r.push raw captured observed config).2) =
        (r.current raw.key).push r.maxHeaderBytes config raw captured observed := by
  have hstreams := eq_nil_or_singleton h.keys
  -- the connection is there as it was, or it was stale
  have hreaped : ∀ k ∈ (r.reapStale observed).streams.keys, k = raw.key := by
    intro k hk
    obtain ⟨e, he, rfl⟩ := List.mem_map.mp hk
    exact h.keys e.1 (List.mem_map_of_mem (List.mem_of_mem_filter he))
  have hfound : ((r.reapStale observed).streams.lookup raw.key).getD {} =
      if (r.current raw.key).fresh observed then r.current raw.key else {} := by
    rcases hstreams with hnil | ⟨state, hone⟩
    · simp only [reapStale, current, SortedMap.lookup, SortedMap.filter, hnil, List.filter_nil, List.find?_nil,
        Option.map_none, Option.getD_none, ite_self]
    · rcases hfresh : state.fresh observed with _ | _
      all_goals simp [reapStale, current, SortedMap.lookup, SortedMap.filter, hone, hfresh]
  have hevicted : (r.reapStale observed).evicted raw.key = none := by
    refine if_neg fun hfull => ?_
    rw [Bool.and_eq_true, decide_eq_true_eq] at hfull
    obtain ⟨hnone, hlength⟩ := hfull
    rcases eq_nil_or_singleton hreaped with hnil | ⟨state, hone⟩
    · have hroom : 1 ≤ (r.reapStale observed).maxStreams := h.room
      rw [hnil, List.length_nil] at hlength
      omega
    · simp [SortedMap.lookup, hone] at hnone
  have hlimit : (r.reapStale observed).maxHeaderBytes = r.maxHeaderBytes := rfl
  simp only [push, HttpStreamState.push, hevicted, hlimit, Option.map_none, Option.getD_none, hfound,
    Option.isSome_none, Bool.false_eq_true, if_false]
  generalize HttpStreamState.receive _ config raw captured _ = received
  refine ⟨⟨fun k hk => ?_, h.room⟩, trivial, Prod.ext ?_ rfl⟩
  · have hinserted : ∀ k ∈ ((r.reapStale observed).streams.insert raw.key received.1).keys, k = raw.key := by
      intro k hk
      rcases mem_keys_insert.mp hk with hk | hk
      · exact hk
      · exact hreaped k hk
    split at hk
    · exact hinserted k (mem_keys_erase.mp hk).2
    · exact hinserted k hk
  · dsimp only [current]
    split
    · rw [lookup_erase_self]
      rfl
    · rw [lookup_insert_self]
      rfl

end HttpRequestReassembler

end ENavigator.Http1
