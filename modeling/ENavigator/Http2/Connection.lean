import ENavigator.Http2.Headers
import ENavigator.Lib.SortedMap
import Mathlib.Data.Nat.Basic

/-!
# An HTTP/2 connection

One turn of the loop over the frames of a direction. Each direction has a header decoder and a block
assembler of its own; the requests in flight, by stream, are shared. A frame goes through two parts: which
header block it completes (`takeRequestHeaders`, `takeResponseHeaders`), and what becomes of its stream.

`fedBlock` names the block that a frame hands to the header decoder of its direction, and
`handleHttp2Frame_hpack` says that this is all a frame does to the decoders.
-/

namespace ENavigator.Http2

open ENavigator.Correlation ENavigator.Stream

variable (config : ProtocolExtractionConfig) (direction : StreamDirection) (observed : Nat)

/-- A request of a stream. No response lifecycle belongs to it. -/
abbrev StreamRequest := InFlightRequest Unit

structure Http2ConnectionState where
  requestHpack : HpackDecoder := .new
  responseHpack : HpackDecoder := .new
  requestHeaders : Http2HeaderBlockAssembler := {}
  responseHeaders : Http2HeaderBlockAssembler := {}
  requestHeadersStartedUnixNanos : Option Nat := none
  streams : SortedMap Nat StreamRequest := .empty

/-- The connection with what its frames left behind. -/
structure Http2Stream where
  http2 : Http2ConnectionState := {}
  counters : ProtocolRegistryCounters := {}
  signals : List ProtocolRequestObservation := []

/-! ## Requests -/

/-- The block that a request frame completes: its header, its octets unless they were lost, and the time of
its first frame. -/
structure RequestHeaders where
  header : Http2FrameHeader
  block : Option Bytes
  startedUnixNanos : Nat

variable (header : Http2FrameHeader)

/-- The frame of a request stream before its block is read. -/
def takeRequestHeaders
    (payload : Bytes) (truncated : Bool) (s : Http2Stream) : Http2Stream × Option RequestHeaders :=
  let http2 := s.http2
  if header.streamId = 0 then
    ({ s with counters.responseContinuations := s.counters.responseContinuations + 1 }, none)
  else if truncated then
    let s := { s with
      http2 := { http2 with requestHeaders := http2.requestHeaders.reset, requestHeadersStartedUnixNanos := none }
      counters.unparsedFrames := s.counters.unparsedFrames + 1 }
    (s, if header.isHeaders then some ⟨header, none, observed⟩ else none)
  else if !header.isHeaderFrame && !http2.requestHeaders.isPending then
    ({ s with counters.responseContinuations := s.counters.responseContinuations + 1 }, none)
  else match http2.requestHeaders.pushFrame header payload config.maxHeaderBytes with
  | (.ok (some assembled), requestHeaders) =>
    ({ s with http2 := { http2 with requestHeaders, requestHeadersStartedUnixNanos := none } },
      some ⟨assembled.header, some assembled.block, http2.requestHeadersStartedUnixNanos.getD observed⟩)
  | (.ok none, requestHeaders) =>
    let started := if header.isHeaders then some observed else http2.requestHeadersStartedUnixNanos
    ({ s with http2 := { http2 with requestHeaders, requestHeadersStartedUnixNanos := started } }, none)
  | (.error _, requestHeaders) =>
    let s := { s with
      http2 := { http2 with requestHeaders, requestHeadersStartedUnixNanos := none }
      counters.unparsedFrames := s.counters.unparsedFrames + 1 }
    (s, if header.isHeaders then some ⟨header, none, observed⟩ else none)

def requestFrameOf (parsed : ParsedHttp2Request) : ParsedRequestFrame where
  protocol := parsed.protocol
  operation := parsed.method
  traceId := parsed.traceContext.map (·.traceId)
  spanId := parsed.traceContext.map (·.spanId)
  warning := parsed.warning
  attributes := parsed.attributes

/-- The request that a block opens; without a block, or when it cannot be read, a placeholder. -/
def parseRequestHeaders (truncated : Bool) (taken : RequestHeaders)
    (s : Http2Stream) : Http2Stream × ParsedRequestFrame :=
  match taken.block with
  | none => (s, placeholderRequest .http2 (if truncated then "truncated_request_frame" else "unparsed_request_frame"))
  | some block =>
    match parseHttp2RequestHeadersFrame s.http2.requestHpack taken.header block config with
    | (.ok parsed, requestHpack) => ({ s with http2 := { s.http2 with requestHpack } }, requestFrameOf parsed)
    | (.error _, requestHpack) =>
      ({ s with
        http2 := { s.http2 with requestHpack }
        counters.unparsedFrames := s.counters.unparsedFrames + 1 },
        placeholderRequest .http2 "unparsed_request_frame")

/-- When the table of streams is full its first entry leaves it without a response. -/
def evictStream (s : Http2Stream) : Http2Stream :=
  if s.http2.streams.entries.length ≥ maxInFlightRequests then
    match s.http2.streams.first? with
    | some (streamId, entry) =>
      { http2 := { s.http2 with streams := s.http2.streams.erase streamId }
        counters := { s.counters with unmatchedOverflow := s.counters.unmatchedOverflow + 1 }
        signals := s.signals ++ [entry.unmatched] }
    | none => s
  else s

def openStream (taken : RequestHeaders) (parsed : ParsedRequestFrame) (s : Http2Stream) : Http2Stream :=
  let s := evictStream s
  { s with http2 := { s.http2 with
    streams := s.http2.streams.insert taken.header.streamId ⟨parsed, taken.startedUnixNanos, ()⟩ } }

def handleRequestFrame (payload : Bytes) (truncated : Bool) (s : Http2Stream) : Http2Stream :=
  match takeRequestHeaders config observed header payload truncated s with
  | (s, none) => s
  | (s, some taken) =>
    let (s, parsed) := parseRequestHeaders config truncated taken s
    openStream taken parsed s

/-! ## Responses -/

structure ResponseHeaders where
  header : Http2FrameHeader
  block : Option Bytes

def takeResponseHeaders (payload : Bytes)
    (truncated : Bool) (s : Http2Stream) : Http2Stream × Option ResponseHeaders :=
  let http2 := s.http2
  if header.streamId = 0 then
    ({ s with counters.responseContinuations := s.counters.responseContinuations + 1 }, none)
  else if truncated then
    let s := { s with
      http2 := { http2 with responseHeaders := http2.responseHeaders.reset }
      counters.unparsedResponses := s.counters.unparsedResponses + 1 }
    (s, if header.isHeaders then some ⟨header, none⟩ else none)
  else if header.isHeaderFrame || http2.responseHeaders.isPending then
    match http2.responseHeaders.pushFrame header payload config.maxHeaderBytes with
    | (.ok (some assembled), responseHeaders) =>
      ({ s with http2 := { http2 with responseHeaders } }, some ⟨assembled.header, some assembled.block⟩)
    | (.ok none, responseHeaders) => ({ s with http2 := { http2 with responseHeaders } }, none)
    | (.error _, responseHeaders) =>
      let s := { s with
        http2 := { http2 with responseHeaders }
        counters.unparsedResponses := s.counters.unparsedResponses + 1 }
      (s, if header.isHeaders then some ⟨header, none⟩ else none)
  else (s, some ⟨header, none⟩)

/-- A response frame of a stream that waits for one: the status it brings joins the request. -/
def parseResponseHeaders (truncated : Bool) (taken : ResponseHeaders)
    (entry : StreamRequest) (s : Http2Stream) : Http2Stream × StreamRequest :=
  if taken.header.isHeaders then
    match taken.block with
    | none =>
      let warning := if truncated then "truncated_response_frame" else "unparsed_response_frame"
      (s, { entry with parsed := entry.parsed.warn warning })
    | some block =>
      match parseHttp2ResponseHeadersFrame s.http2.responseHpack taken.header block config with
      | (.ok response, responseHpack) =>
        let attributes := mergeAttributes config.maxAttributes entry.parsed.attributes response.attributes
        let protocol := if response.protocol = .grpc then .grpc else entry.parsed.protocol
        ({ s with
          http2 := { s.http2 with responseHpack }
          counters.matchedResponses := s.counters.matchedResponses + 1 },
          { entry with parsed := { entry.parsed with protocol, attributes } })
      | (.error _, responseHpack) =>
        ({ s with
          http2 := { s.http2 with responseHpack }
          counters.unparsedResponses := s.counters.unparsedResponses + 1 },
          { entry with parsed := entry.parsed.warn "unparsed_response_frame" })
  else (s, entry)

/-- The stream ends and is reported, or stays in the table. -/
def settleStream (taken : ResponseHeaders) (entry : StreamRequest) (s : Http2Stream) : Http2Stream :=
  if taken.header.endStream then
    { s with
      http2 := { s.http2 with streams := s.http2.streams.erase taken.header.streamId }
      signals := s.signals ++ [buildObservation entry.parsed entry.startedUnixNanos (some observed)] }
  else { s with http2 := { s.http2 with
    streams := (s.http2.streams.erase taken.header.streamId).insert taken.header.streamId entry } }

def handleResponseFrame (payload : Bytes) (truncated : Bool) (s : Http2Stream) : Http2Stream :=
  match takeResponseHeaders config header payload truncated s with
  | (s, none) => s
  | (s, some taken) =>
    match s.http2.streams.lookup taken.header.streamId with
    | none =>
      -- a response without a request; its block does not reach the decoder
      if taken.header.isHeaders then
        { s with counters.orphanResponses := s.counters.orphanResponses + 1 }
      else s
    | some entry =>
      let (s, entry) := parseResponseHeaders config truncated taken entry s
      settleStream observed taken entry s

/-! ## Frames of either direction -/

def http2PrefaceStart : Bytes := text "PRI * HTTP/2.0"

structure ReadFrame where
  header : Http2FrameHeader
  payload : Bytes
  truncated : Bool

/-- What a frame's bytes say, unless they are no HTTP/2 frame. -/
def readFrame (frame : StreamFrame) (counters : ProtocolRegistryCounters) :
    ProtocolRegistryCounters × Option ReadFrame :=
  let read (bytes : Bytes) (truncated : Bool) (counters : ProtocolRegistryCounters) :=
    -- the client connection preface is not a frame
    if direction = .request && http2PrefaceStart.isPrefixOf bytes then (counters, none)
    else match parseHttp2FrameHeader bytes with
    | .error _ => ({ counters with unparsedFrames := counters.unparsedFrames + 1 }, none)
    | .ok header => (counters, some ⟨header, bytes.drop http2FrameHeaderBytes, truncated⟩)
  match frame with
  | .complete bytes => read bytes false counters
  | .truncated bytes _ => read bytes true { counters with truncatedFrames := counters.truncatedFrames + 1 }
  | .protocolSwitch _ _ => ({ counters with unparsedFrames := counters.unparsedFrames + 1 }, none)

def handleHttp2Frame (frame : StreamFrame) (s : Http2Stream) : Http2Stream :=
  match readFrame direction frame s.counters with
  | (counters, none) => { s with counters }
  | (counters, some read) =>
    match direction with
    | .request => handleRequestFrame config observed read.header read.payload read.truncated { s with counters }
    | .response => handleResponseFrame config observed read.header read.payload read.truncated { s with counters }

def handleHttp2Frames (frames : List StreamFrame) (s : Http2Stream) : Http2Stream :=
  frames.foldl (fun s frame => handleHttp2Frame config direction observed frame s) s

/-! ## What a frame does to the header decoders -/

/-- The header decoder and the block assembler of one direction. -/
structure HeaderSide where
  decoder : HpackDecoder := .new
  assembler : Http2HeaderBlockAssembler := {}

def Http2ConnectionState.side (http2 : Http2ConnectionState) : StreamDirection → HeaderSide
  | .request => ⟨http2.requestHpack, http2.requestHeaders⟩
  | .response => ⟨http2.responseHpack, http2.responseHeaders⟩

/-- The assembler after a frame, and the block that the frame completed. -/
def outcome : Except Http2Extraction (Option AssembledHttp2HeaderBlock) × Http2HeaderBlockAssembler →
    Http2HeaderBlockAssembler × Option AssembledHttp2HeaderBlock
  | (.ok block, a) => (a, block)
  | (.error _, a) => (a, none)

/-- What both directions make of a frame: the part of a step before the block is read. -/
def intake (a : Http2HeaderBlockAssembler) (read : ReadFrame) :
    Http2HeaderBlockAssembler × Option AssembledHttp2HeaderBlock :=
  if read.header.streamId = 0 then (a, none)
  else if read.truncated then (a.reset, none)
  else if read.header.isHeaderFrame || a.isPending then
    outcome (a.pushFrame read.header read.payload config.maxHeaderBytes)
  else (a, none)

/-- Whether a complete block of a stream goes on to the decoder: requests always do, responses when the
stream is known. -/
def reaches (http2 : Http2ConnectionState) (streamId : Nat) : Bool :=
  direction = .request || (http2.streams.lookup streamId).isSome

def fedBlock (frame : StreamFrame) (http2 : Http2ConnectionState) : Option Bytes :=
  (readFrame direction frame {}).2.bind fun read =>
    (intake config (http2.side direction).assembler read).2.bind fun b =>
      if reaches direction http2 b.header.streamId then some b.block else none

def HpackDecoder.feed (decoder : HpackDecoder) : Option Bytes → HpackDecoder
  | none => decoder
  | some block => (decoder.decodeHeaderBlock block).2

theorem finish_of_intake {config : ProtocolExtractionConfig} {a a' : Http2HeaderBlockAssembler} {read : ReadFrame}
    {b : AssembledHttp2HeaderBlock} (h : intake config a read = (a', some b)) :
    ∃ p : AssembledHttp2HeaderBlock, b = p.finish ∧ p.block.length ≤ config.maxHeaderBytes := by
  unfold intake at h
  split at h
  · cases h
  split at h
  · cases h
  split at h
  · rcases hpush : a.pushFrame read.header read.payload config.maxHeaderBytes with ⟨_ | block, a₁⟩
    all_goals rw [hpush] at h
    · cases h
    · obtain ⟨rfl, rfl⟩ := Prod.mk.inj h
      exact Http2HeaderBlockAssembler.finish_of_pushFrame hpush
  · cases h

/-- The table of streams and the reports have not changed. -/
structure SameTable (s s' : Http2Stream) : Prop where
  streams : s'.http2.streams = s.http2.streams
  signals : s'.signals = s.signals

theorem SameTable.trans {a b c : Http2Stream} (hab : SameTable a b) (hbc : SameTable b c) : SameTable a c :=
  ⟨hbc.streams.trans hab.streams, hbc.signals.trans hab.signals⟩

variable (read : ReadFrame) (s : Http2Stream)

/-- The part of a step before the block is read, as both directions have it: the assembler takes the frame
in and the rest of the connection stays. -/
theorem takeRequestHeaders_spec :
    let after := takeRequestHeaders config observed read.header read.payload read.truncated s
    let taken := intake config s.http2.requestHeaders read
    SameTable s after.1 ∧ after.1.http2.side .request = ⟨s.http2.requestHpack, taken.1⟩ ∧
      after.1.http2.side .response = s.http2.side .response ∧
      after.2.bind (fun t => t.block.map fun block => (t.header, block)) =
        taken.2.map fun b => (b.header, b.block) := by
  intro after taken
  have hskip : (!read.header.isHeaderFrame && !s.http2.requestHeaders.isPending) =
      !(read.header.isHeaderFrame || s.http2.requestHeaders.isPending) := (Bool.not_or _ _).symm
  simp only [after, taken, takeRequestHeaders, intake, hskip]
  split
  · exact ⟨⟨rfl, rfl⟩, rfl, rfl, rfl⟩
  split
  · refine ⟨⟨rfl, rfl⟩, rfl, rfl, ?_⟩
    split <;> rfl
  cases read.header.isHeaderFrame || s.http2.requestHeaders.isPending with
  | false => exact ⟨⟨rfl, rfl⟩, rfl, rfl, rfl⟩
  | true =>
    rcases s.http2.requestHeaders.pushFrame read.header read.payload config.maxHeaderBytes with
      ⟨_ | _ | assembled, a⟩
    · refine ⟨⟨rfl, rfl⟩, rfl, rfl, ?_⟩
      show Option.bind (ite _ _ _) _ = none
      split <;> rfl
    · exact ⟨⟨rfl, rfl⟩, rfl, rfl, rfl⟩
    · exact ⟨⟨rfl, rfl⟩, rfl, rfl, rfl⟩

theorem takeResponseHeaders_spec :
    let after := takeResponseHeaders config read.header read.payload read.truncated s
    let taken := intake config s.http2.responseHeaders read
    SameTable s after.1 ∧ after.1.http2.side .response = ⟨s.http2.responseHpack, taken.1⟩ ∧
      after.1.http2.side .request = s.http2.side .request ∧
      after.2.bind (fun t => t.block.map fun block => (t.header, block)) =
        taken.2.map fun b => (b.header, b.block) := by
  intro after taken
  simp only [after, taken, takeResponseHeaders, intake]
  split
  · exact ⟨⟨rfl, rfl⟩, rfl, rfl, rfl⟩
  split
  · refine ⟨⟨rfl, rfl⟩, rfl, rfl, ?_⟩
    split <;> rfl
  split
  · rcases s.http2.responseHeaders.pushFrame read.header read.payload config.maxHeaderBytes with
      ⟨_ | _ | assembled, a⟩
    · refine ⟨⟨rfl, rfl⟩, rfl, rfl, ?_⟩
      dsimp only
      split <;> rfl
    · exact ⟨⟨rfl, rfl⟩, rfl, rfl, rfl⟩
    · exact ⟨⟨rfl, rfl⟩, rfl, rfl, rfl⟩
  · exact ⟨⟨rfl, rfl⟩, rfl, rfl, rfl⟩

theorem openStream_side (taken : RequestHeaders) (parsed : ParsedRequestFrame) (s : Http2Stream)
    (direction : StreamDirection) : (openStream taken parsed s).http2.side direction = s.http2.side direction := by
  have hevict : (evictStream s).http2.side direction = s.http2.side direction := by
    unfold evictStream
    split
    · split
      · cases direction <;> rfl
      · rfl
    · rfl
  cases direction <;> exact hevict

theorem settleStream_side (taken : ResponseHeaders) (entry : StreamRequest) (s : Http2Stream)
    (direction : StreamDirection) :
    (settleStream observed taken entry s).http2.side direction = s.http2.side direction := by
  unfold settleStream
  split <;> cases direction <;> rfl

theorem parseRequestHeaders_side (truncated : Bool) (taken : RequestHeaders) (s : Http2Stream)
    {r : Http2Stream × ParsedRequestFrame} (hparse : parseRequestHeaders config truncated taken s = r) :
    r.1.http2.side .request =
        ⟨match taken.block with
          | none => s.http2.requestHpack
          | some block => (parseHttp2RequestHeadersFrame s.http2.requestHpack taken.header block config).2,
          s.http2.requestHeaders⟩ ∧
      r.1.http2.side .response = s.http2.side .response ∧ SameTable s r.1 := by
  subst hparse
  unfold parseRequestHeaders
  split
  · exact ⟨rfl, rfl, rfl, rfl⟩
  next block _ =>
    rcases parseHttp2RequestHeadersFrame s.http2.requestHpack taken.header block config with ⟨_ | parsed, decoder⟩
    · exact ⟨rfl, rfl, rfl, rfl⟩
    · exact ⟨rfl, rfl, rfl, rfl⟩

theorem parseResponseHeaders_side (truncated : Bool) (taken : ResponseHeaders) (entry : StreamRequest)
    (s : Http2Stream) {r : Http2Stream × StreamRequest}
    (hparse : parseResponseHeaders config truncated taken entry s = r) :
    r.1.http2.side .response =
        ⟨if taken.header.isHeaders then
          match taken.block with
          | none => s.http2.responseHpack
          | some block => (parseHttp2ResponseHeadersFrame s.http2.responseHpack taken.header block config).2
          else s.http2.responseHpack,
          s.http2.responseHeaders⟩ ∧
      r.1.http2.side .request = s.http2.side .request ∧ SameTable s r.1 ∧
      Answered config.maxAttributes entry.parsed r.2.parsed ∧ r.2.startedUnixNanos = entry.startedUnixNanos := by
  subst hparse
  unfold parseResponseHeaders
  split
  · split
    · exact ⟨rfl, rfl, ⟨rfl, rfl⟩, answered_warn _ _ _, rfl⟩
    next block _ =>
      rcases parseHttp2ResponseHeadersFrame s.http2.responseHpack taken.header block config with
        ⟨_ | response, decoder⟩
      · exact ⟨rfl, rfl, ⟨rfl, rfl⟩, answered_warn _ _ _, rfl⟩
      · exact ⟨rfl, rfl, ⟨rfl, rfl⟩, ⟨rfl, rfl, rfl, .inl rfl, response.attributes, rfl⟩, rfl⟩
  · exact ⟨rfl, rfl, ⟨rfl, rfl⟩, answered_refl _ _, rfl⟩

/-- The direction after a block was completed, or none was. -/
def HeaderSide.after (side : HeaderSide) (taken : Http2HeaderBlockAssembler × Option AssembledHttp2HeaderBlock)
    (reaches : Nat → Bool) : HeaderSide where
  decoder := side.decoder.feed (taken.2.bind fun b => if reaches b.header.streamId then some b.block else none)
  assembler := taken.1

theorem handleRequestFrame_side :
    let after := handleRequestFrame config observed read.header read.payload read.truncated s
    after.http2.side .request =
        (s.http2.side .request).after (intake config s.http2.requestHeaders read) (fun _ => true) ∧
      after.http2.side .response = s.http2.side .response := by
  intro after
  obtain ⟨-, hside, hother, hblock⟩ := takeRequestHeaders_spec config observed read s
  simp only [after, handleRequestFrame]
  rcases htake : takeRequestHeaders config observed read.header read.payload read.truncated s with ⟨s', _ | taken⟩
  all_goals rw [htake] at hside hother hblock
  · -- nothing taken: no block was completed
    have hnone : (intake config s.http2.requestHeaders read).2 = none := Option.map_eq_none_iff.mp hblock.symm
    refine ⟨?_, hother⟩
    rw [hside, HeaderSide.after, hnone]
    rfl
  · have hdecoder : s'.http2.requestHpack = s.http2.requestHpack := congrArg HeaderSide.decoder hside
    have hassembler := congrArg HeaderSide.assembler hside
    obtain ⟨hparse, hparse', -⟩ := parseRequestHeaders_side config read.truncated taken s' rfl
    rw [openStream_side, openStream_side, hparse, hparse', hdecoder]
    refine ⟨?_, hother⟩
    congr 1
    rcases hb : intake config s.http2.requestHeaders read with ⟨a, _ | b⟩
    all_goals rw [hb] at hblock
    · have htb : taken.block = none := Option.map_eq_none_iff.mp hblock
      rw [htb]
      rfl
    · obtain ⟨p, rfl, hlen⟩ := finish_of_intake hb
      obtain ⟨block, htb, hpair⟩ := Option.map_eq_some_iff.mp hblock
      obtain ⟨hheader, rfl⟩ := Prod.mk.inj hpair
      rw [htb, hheader]
      exact parseHttp2RequestHeadersFrame_snd _ p hlen

theorem handleResponseFrame_side :
    let after := handleResponseFrame config observed read.header read.payload read.truncated s
    after.http2.side .response =
        (s.http2.side .response).after (intake config s.http2.responseHeaders read)
          (fun streamId => (s.http2.streams.lookup streamId).isSome) ∧
      after.http2.side .request = s.http2.side .request := by
  intro after
  obtain ⟨⟨hstreams, -⟩, hside, hother, hblock⟩ := takeResponseHeaders_spec config read s
  simp only [after, handleResponseFrame]
  rcases htake : takeResponseHeaders config read.header read.payload read.truncated s with ⟨s', _ | taken⟩
  all_goals rw [htake] at hside hother hstreams hblock
  · have hnone : (intake config s.http2.responseHeaders read).2 = none := Option.map_eq_none_iff.mp hblock.symm
    refine ⟨?_, hother⟩
    rw [hside, HeaderSide.after, hnone]
    rfl
  have hdecoder : s'.http2.responseHpack = s.http2.responseHpack := congrArg HeaderSide.decoder hside
  have hassembler : s'.http2.responseHeaders = _ := congrArg HeaderSide.assembler hside
  dsimp only at hstreams ⊢
  rw [hstreams]
  rcases hb : intake config s.http2.responseHeaders read with ⟨a, _ | b⟩
  all_goals rw [hb] at hblock hassembler
  · -- no block: whatever happens to the stream, the decoder sees nothing
    have htb : taken.block = none := Option.map_eq_none_iff.mp hblock
    split
    · split
      all_goals exact ⟨by rw [hside, hb]; rfl, hother⟩
    next entry _ =>
      obtain ⟨hparse, hparse', -⟩ := parseResponseHeaders_side config read.truncated taken entry s' rfl
      rw [settleStream_side, settleStream_side, hparse, hparse', htb, hdecoder, hassembler, ite_self]
      exact ⟨rfl, hother⟩
  · obtain ⟨p, rfl, hlen⟩ := finish_of_intake hb
    obtain ⟨block, htb, hpair⟩ := Option.map_eq_some_iff.mp hblock
    obtain ⟨hheader, rfl⟩ := Prod.mk.inj hpair
    rw [hheader]
    split
    next hlookup =>
      -- an orphan: the block stops here
      have hafter : (s.http2.side .response).after (a, some p.finish)
          (fun streamId => (s.http2.streams.lookup streamId).isSome) = ⟨s.http2.responseHpack, a⟩ := by
        simp [HeaderSide.after, hlookup, HpackDecoder.feed, Http2ConnectionState.side]
      split
      all_goals exact ⟨by rw [hafter, hside, hb], hother⟩
    next entry hlookup =>
      obtain ⟨hparse, hparse', -⟩ := parseResponseHeaders_side config read.truncated taken entry s' rfl
      have hheaders : p.finish.header.isHeaders = true := p.isHeaders
      rw [settleStream_side, settleStream_side, hparse, hparse', htb, hdecoder, hassembler, hheader,
        if_pos hheaders]
      refine ⟨?_, hother⟩
      have hfed := parseHttp2ResponseHeadersFrame_snd s.http2.responseHpack p hlen
      simpa [HeaderSide.after, hlookup, HpackDecoder.feed, Http2ConnectionState.side] using hfed

theorem readFrame_snd (frame : StreamFrame) (counters : ProtocolRegistryCounters) :
    (readFrame direction frame counters).2 = (readFrame direction frame {}).2 := by
  cases frame <;> simp only [readFrame]
  all_goals
    split
    · rfl
    · split <;> rfl

/-- All that a frame does to the header decoders and the assemblers: the assembler of its direction takes it
in, the decoder of its direction gets the block it completed if that block goes on, and the other direction
stays. -/
theorem handleHttp2Frame_side (frame : StreamFrame) (s : Http2Stream) :
    let after := handleHttp2Frame config direction observed frame s
    after.http2.side direction =
        ⟨(s.http2.side direction).decoder.feed (fedBlock config direction frame s.http2),
          match (readFrame direction frame {}).2 with
          | none => (s.http2.side direction).assembler
          | some read => (intake config (s.http2.side direction).assembler read).1⟩ ∧
      ∀ other ≠ direction, after.http2.side other = s.http2.side other := by
  intro after
  have hsnd := readFrame_snd direction frame s.counters
  simp only [after, handleHttp2Frame, fedBlock]
  rcases hread : readFrame direction frame s.counters with ⟨counters, _ | read⟩
  all_goals
    rw [hread] at hsnd
    rw [← hsnd]
  · exact ⟨rfl, fun _ _ => rfl⟩
  · cases direction with
    | request =>
      obtain ⟨hside, hother⟩ := handleRequestFrame_side config observed read { s with counters }
      refine ⟨hside, fun other hne => ?_⟩
      cases other with
      | request => exact (hne rfl).elim
      | response => exact hother
    | response =>
      obtain ⟨hside, hother⟩ := handleResponseFrame_side config observed read { s with counters }
      refine ⟨hside, fun other hne => ?_⟩
      cases other with
      | request => exact hother
      | response => exact (hne rfl).elim

end ENavigator.Http2
