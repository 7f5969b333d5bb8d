import ENavigator.Http1.Reassembly
import ENavigator.Mysql.Parser
import ENavigator.Postgres.Connection
import ENavigator.Redis.Parser
import ENavigator.Stream.Segments

/-!
# One connection of the registry

What `handle_event` does for a connection. On a port without a configured protocol, until the protocol is known the
bytes of one direction are collected (`appendDiscoveryPayload`) and read by every parser (`classifyProtocolPrefix`).
The event that decides it starts a stream with the bytes collected so far; later events are spliced into the stream
of their direction. What becomes of the frames is the business of the protocol, and a parameter here (`Handlers`).

The counters are those that `handle_event` itself counts; a protocol keeps its own in its state.
-/

namespace ENavigator.Registry

open ENavigator.Correlation ENavigator.Postgres ENavigator.Stream

def rawProtocolDataBytes : Nat := 256
def rawProtocolMaxCaptureBytes : Nat := 16 * rawProtocolDataBytes

/-! ## Classification -/

/-- Whether a parser accepts the bytes, for the protocols whose parsers are not modelled. -/
structure PrefixParsers where
  kafkaRequest : Bytes → ProtocolExtractionConfig → Bool
  mongodbMessage : Bytes → ProtocolExtractionConfig → Bool
  natsCommand : Bytes → ProtocolExtractionConfig → Bool
  mongodbResponse : Bytes → ProtocolExtractionConfig → Bool
  natsResponse : Bytes → ProtocolExtractionConfig → Bool

def isOk {ε α : Type} : Except ε α → Bool
  | .ok _ => true
  | .error _ => false

/-- The protocol found so far, and whether a second one was. -/
def recordMatch (state : Option StreamProtocol × Bool) (candidate : StreamProtocol × Bool) :
    Option StreamProtocol × Bool :=
  if !candidate.2 then state
  else if state.1.any (· ≠ candidate.1) then (state.1, true)
  else (some candidate.1, state.2)

def prefixCandidates (parsers : PrefixParsers) (bytes : Bytes) (config : ProtocolExtractionConfig) :
    StreamDirection → List (StreamProtocol × Bool)
  | .request =>
    [(.http1, isOk (Http1.parseHttpRequest bytes config)), (.kafka, parsers.kafkaRequest bytes config),
      (.mongodb, parsers.mongodbMessage bytes config), (.mysql, isOk (Mysql.parseMysqlCommand bytes config)),
      (.nats, parsers.natsCommand bytes config), (.postgresql, isOk (parsePostgresMessage bytes config)),
      (.redis, (text "*").isPrefixOf bytes && isOk (Redis.parseRedisCommand bytes config))]
  | .response =>
    [(.http1, isOk (Http1.parseHttpResponse bytes config)), (.mongodb, parsers.mongodbResponse bytes config),
      (.mysql, isOk (Mysql.parseMysqlResponse bytes config)), (.nats, parsers.natsResponse bytes config),
      (.postgresql, isOk (parsePostgresResponse bytes config)), (.redis, isOk (Redis.parseRedisResponse bytes config))]

def classifyProtocolPrefix (parsers : PrefixParsers) (bytes : Bytes) (direction : StreamDirection)
    (config : ProtocolExtractionConfig) : Option StreamProtocol :=
  if bytes.length > config.maxHeaderBytes || bytes.isEmpty then none
  else if direction = .request && eqIgnoreAsciiCase bytes (text "PING\r\n") then none
  else if direction = .request && Http1.http2Preface.isPrefixOf bytes then some .http2
  else
    let (found, ambiguous) := (prefixCandidates parsers bytes config direction).foldl recordMatch (none, false)
    if ambiguous then none else found

/-! ## Discovery -/

structure ProtocolDiscoveryCandidate where
  direction : StreamDirection
  bytes : Bytes
  startedUnixNanos : Nat
  lastSeenUnixNanos : Nat
  segments : Option SegmentProgress

structure ProtocolDiscoveryMatch where
  protocol : StreamProtocol
  bytes : Bytes
  startedUnixNanos : Nat
  deriving DecidableEq, Repr

/-- A candidate without bytes, as a segment at `observed` starts one. -/
def ProtocolDiscoveryCandidate.restart (candidate : ProtocolDiscoveryCandidate) (direction : StreamDirection)
    (observed : Nat) : ProtocolDiscoveryCandidate :=
  { candidate with direction, bytes := [], startedUnixNanos := observed, segments := none }

/-- The segment joins the candidate; `none` if the candidate is given up. -/
def appendDiscoveryPayload (candidate : ProtocolDiscoveryCandidate) (raw : RawSegment) (direction : StreamDirection)
    (observed maxBytes : Nat) : Option ProtocolDiscoveryCandidate :=
  let candidate := if candidate.direction ≠ direction then candidate.restart direction observed else candidate
  if raw.payloadCapturedLen ≠ raw.payloadTotalLen then none
  else if raw.payloadOffset ≠ 0 && !candidate.segments.any (·.continuedBy raw) then none
  else
    -- A new system call while one is unfinished: what was collected has a hole behind it.
    let candidate :=
      if raw.payloadOffset = 0 && candidate.segments.isSome then candidate.restart direction observed else candidate
    if candidate.bytes.length + raw.payload.length > maxBytes then none
    else some { candidate with bytes := candidate.bytes ++ raw.payload, segments := raw.progress }

def discoverProtocol (parsers : PrefixParsers) (config : ProtocolExtractionConfig) (raw : RawSegment)
    (direction : StreamDirection) (observed : Nat) (candidate : Option ProtocolDiscoveryCandidate) :
    Option ProtocolDiscoveryCandidate × Option ProtocolDiscoveryMatch :=
  let candidate := candidate.getD ⟨direction, [], observed, observed, none⟩
  match appendDiscoveryPayload { candidate with lastSeenUnixNanos := observed } raw direction observed
      (min config.maxHeaderBytes rawProtocolMaxCaptureBytes) with
  | none => (none, none)
  | some candidate =>
    match classifyProtocolPrefix parsers candidate.bytes direction config with
    | none => (some candidate, none)
    | some protocol => (none, some ⟨protocol, candidate.bytes, candidate.startedUnixNanos⟩)

/-! ## Streams -/

/-- One direction of a stream: its decoder with the segment progress, and when its unfinished frame started. -/
structure StreamSide where
  feed : SegmentFeed
  frameStartedUnixNanos : Option Nat

def StreamSide.new (protocol : StreamProtocol) (direction : StreamDirection) (limits : StreamDecodeLimits) :
    StreamSide where
  feed := ⟨.new protocol direction limits, none, 0⟩
  frameStartedUnixNanos := none

/-- A stream with the state `rest` that its protocol keeps. -/
structure ConnectionStream (σ : Type) where
  protocol : StreamProtocol
  request : StreamSide
  response : StreamSide
  postgresNegotiation : Option PostgresNegotiation
  postgresTransportOpaque : Bool
  mysqlOpaque : Bool
  rest : σ
  lastSeenUnixNanos : Nat

variable [Base64] {σ : Type}

variable (s : ConnectionStream σ) (direction : StreamDirection)

namespace ConnectionStream

def side : StreamDirection → StreamSide
  | .request => s.request
  | .response => s.response

def withSide (side : StreamSide) : ConnectionStream σ :=
  match direction with
  | .request => { s with request := side }
  | .response => { s with response := side }

def seen (observed : Nat) : ConnectionStream σ := { s with lastSeenUnixNanos := observed }

def pending : Option SegmentProgress :=
  (s.side direction).feed.pending

end ConnectionStream

/-- What `handle_event` leaves to the code of the protocols: the state of a new stream, the handling of frames with
the time at which the first of them started, and what an evicted stream still reports. -/
structure Handlers (σ : Type) where
  new : StreamProtocol → σ
  handle : StreamDirection → List StreamFrame → Nat → ConnectionStream σ →
    ConnectionStream σ × List ProtocolRequestObservation
  drain : ConnectionStream σ → List ProtocolRequestObservation
  /-- the handlers leave the segment progress of a direction as it is or drop it -/
  pending_handle : ∀ direction frames started s d,
    ((handle direction frames started s).1.pending d = s.pending d) ∨
      (handle direction frames started s).1.pending d = none

structure ProtocolStreamRegistry (σ : Type) where
  extraction : ProtocolExtractionConfig
  limits : StreamDecodeLimits
  parsers : PrefixParsers
  handlers : Handlers σ

structure Connection (σ : Type) where
  candidate : Option ProtocolDiscoveryCandidate := none
  stream : Option (ConnectionStream σ) := none
  counters : ProtocolRegistryCounters := {}

/-- An event for the connection, or the loss of what the registry holds for it. -/
inductive ConnectionEvent where
  | data (direction : StreamDirection) (raw : RawSegment) (observed : Nat)
  | evictCandidate
  | evictConnection

/-- An event on a port that may have a configured protocol. -/
inductive RegistryEvent where
  | configured (protocol : StreamProtocol) (direction : StreamDirection) (raw : RawSegment) (observed : Nat)
  | connection (e : ConnectionEvent)

/-- The outcome of an event: the chunks it pushed into the decoder of its direction and what it reported. -/
structure Handled (σ : Type) where
  connection : Connection σ
  pushes : List Push := []
  signals : List ProtocolRequestObservation := []

namespace ConnectionStream

/-- The response to a negotiation is one byte; anything else ends the reading of the connection. -/
def invalidNegotiationResponse (negotiation : PostgresNegotiation) (raw : RawSegment) : Bool :=
  raw.payloadOffset != 0
    || (raw.payload.isEmpty && decide (raw.payloadTotalLen > 0))
    || raw.payload.head?.any (fun b => !negotiation.accepts b && b != 78 && b != 69)
    || (raw.payload.head?.any (fun b => negotiation.accepts b || b == 78) && raw.payloadTotalLen != 1)

def failsNegotiation (raw : RawSegment) : Bool :=
  s.protocol = .postgresql && direction = .response
    && s.postgresNegotiation.any (invalidNegotiationResponse · raw)

def isOpaque : Bool :=
  (s.protocol = .mysql && s.mysqlOpaque) || (s.protocol = .postgresql && s.postgresTransportOpaque)

/-- The chunks that an event pushes: what was collected if it is the one that found the protocol. -/
def chunks (raw : RawSegment) : Option ProtocolDiscoveryMatch → List Push
  | some found => [⟨found.bytes, found.bytes.length, true⟩]
  | none => segmentPushes (s.pending direction) raw

/-- The stream with the event's chunks in its decoder, the frames they gave and the time the first one started. -/
def fed (raw : RawSegment) (observed : Nat)
    (found : Option ProtocolDiscoveryMatch) : ConnectionStream σ × List StreamFrame × Nat :=
  let side := s.side direction
  let pushes := s.chunks direction raw found
  let inputStarted := (found.map (·.startedUnixNanos)).getD observed
  let started := side.frameStartedUnixNanos.getD inputStarted
  let (decoder, frames) := pushAll side.feed.decoder pushes
  let frameStarted :=
    if decoder.buffer.length = 0 then none
    else if decoder.stats.completeFrames > side.feed.decoder.stats.completeFrames then some inputStarted
    else some started
  let feed :=
    { decoder
      pending := if found.isSome then side.feed.pending else raw.progress
      segmentGaps := side.feed.segmentGaps + (pushes.filter (!·.isPayload)).length }
  (s.withSide direction ⟨feed, frameStarted⟩, frames, started)

end ConnectionStream

namespace ProtocolStreamRegistry

variable (registry : ProtocolStreamRegistry σ)

def newStream (protocol : StreamProtocol) (observed : Nat) : ConnectionStream σ where
  protocol := protocol
  request := .new protocol .request registry.limits
  response := .new protocol .response registry.limits
  postgresNegotiation := none
  postgresTransportOpaque := false
  mysqlOpaque := false
  rest := registry.handlers.new protocol
  lastSeenUnixNanos := observed

def handleStreamEvent (direction : StreamDirection) (raw : RawSegment) (observed : Nat)
    (found : Option ProtocolDiscoveryMatch) (s : ConnectionStream σ) (c : Connection σ) : Handled σ :=
  if s.protocol = .mysql && s.mysqlOpaque then
    ⟨{ c with
        stream := some s
        counters := { c.counters with mysqlCompressionOpaqueEvents := c.counters.mysqlCompressionOpaqueEvents + 1 } },
        [], []⟩
  else if s.protocol = .postgresql && s.postgresTransportOpaque then
    ⟨{ c with
        stream := some s
        counters := { c.counters with
          postgresEncryptedTransportEvents := c.counters.postgresEncryptedTransportEvents + 1 } }, [], []⟩
  else if s.failsNegotiation direction raw then
    ⟨{ c with
        stream := some { s with postgresNegotiation := none, postgresTransportOpaque := true }
        counters := { c.counters with postgresNegotiationFailures := c.counters.postgresNegotiationFailures + 1 } },
        [], []⟩
  else
    let (fed, frames, started) := s.fed direction raw observed found
    let (s', signals) := registry.handlers.handle direction frames started fed
    ⟨{ c with stream := some s' }, s.chunks direction raw found, signals⟩

/-- `handle_event` without what concerns other connections. -/
def handleData (direction : StreamDirection) (raw : RawSegment) (observed : Nat) (c : Connection σ) : Handled σ :=
  match c.stream with
  | some s =>
    if direction = .response && s.protocol = .nats then
      ⟨{ c with counters := { c.counters with ignoredReadEvents := c.counters.ignoredReadEvents + 1 } }, [], []⟩
    else registry.handleStreamEvent direction raw observed none (s.seen observed) c
  | none =>
    match discoverProtocol registry.parsers registry.extraction raw direction observed c.candidate with
    | (candidate, none) =>
      ⟨{ c with
          candidate
          counters := { c.counters with
            discoveryUnclassifiedEvents := c.counters.discoveryUnclassifiedEvents + 1 } }, [], []⟩
    | (candidate, some found) =>
      if direction = .response && found.protocol = .nats then
        ⟨{ c with
            candidate
            counters := { c.counters with ignoredReadEvents := c.counters.ignoredReadEvents + 1 } }, [], []⟩
      else
        registry.handleStreamEvent direction raw observed (some found) (registry.newStream found.protocol observed)
          { c with
            candidate
            counters := { c.counters with discoveredConnections := c.counters.discoveredConnections + 1 } }

def evictConnection (c : Connection σ) : Handled σ :=
  match c.stream with
  | none => ⟨{ c with candidate := none }, [], []⟩
  | some s =>
    ⟨{ candidate := none
       stream := none
       counters := { c.counters with
         evictedConnections := c.counters.evictedConnections + 1
         unmatchedEvicted := c.counters.unmatchedEvicted + (registry.handlers.drain s).length } }, [],
      registry.handlers.drain s⟩

def handleEvent (c : Connection σ) : ConnectionEvent → Handled σ
  | .data direction raw observed => registry.handleData direction raw observed c
  | .evictCandidate => ⟨{ c with candidate := none }, [], []⟩
  | .evictConnection => registry.evictConnection c

def step (c : Connection σ) (e : ConnectionEvent) : Connection σ := (registry.handleEvent c e).connection

/-- `handle_event` on a port with a configured protocol: there is nothing to find out. -/
def handleConfigured (protocol : StreamProtocol) (direction : StreamDirection) (raw : RawSegment) (observed : Nat)
    (c : Connection σ) : Handled σ :=
  match c.stream with
  | some _ => registry.handleData direction raw observed c
  | none =>
    if direction = .response && protocol = .nats then
      ⟨{ c with counters := { c.counters with ignoredReadEvents := c.counters.ignoredReadEvents + 1 } }, [], []⟩
    else registry.handleStreamEvent direction raw observed none (registry.newStream protocol observed) c

/-- `handle_event` on any port. -/
def handleRegistryEvent (c : Connection σ) : RegistryEvent → Handled σ
  | .configured protocol direction raw observed => registry.handleConfigured protocol direction raw observed c
  | .connection e => registry.handleEvent c e

end ProtocolStreamRegistry

end ENavigator.Registry
