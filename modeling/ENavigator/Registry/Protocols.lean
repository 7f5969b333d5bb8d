import ENavigator.Http2.Connection
import ENavigator.Registry.Connection
import ENavigator.Registry.Turns

/-!
# The protocols of a registry

The code of the protocols put into the place that `Registry.Connection` leaves for it: `ProtocolState` is what a stream
keeps for its protocol, `turn` is one turn of the loops over frames, and `protocolHandlers` are the loops, with what
they do to the decoders and to the stream around them.

Beside the state of the protocol a stream carries a log of the requests that it has taken in and of those that it has
dropped (`Logged`). Nothing reads it but the statements about whole runs.
-/

namespace ENavigator.Registry

open ENavigator.Correlation ENavigator.Stream

/-- The configuration of a registry and the code that is not modelled. -/
structure ProtocolCode where
  config : ProtocolExtractionConfig := {}
  limits : StreamDecodeLimits := {}
  kafka : Kafka.KafkaParsers
  mongodb : Mongodb.MongodbParsers
  nats : Bytes → ProtocolExtractionConfig → Option ParsedRequestFrame
  inflate : Mysql.Inflate
  prefixes : PrefixParsers

inductive ProtocolState where
  | http1 (s : Http1.Http1Stream)
  | http2 (s : Http2.Http2Stream)
  | kafka (s : Kafka.KafkaStream)
  | mongodb (s : Mongodb.MongodbStream)
  | mysql (s : Mysql.MysqlStream)
  | nats (s : Tracker Unit)
  | postgresql (s : Postgres.PostgresStream)
  | redis (s : Redis.RedisStream)

/-! ## Turns -/

variable [Base64] (code : ProtocolCode) (direction : StreamDirection) (observed : Nat)

/-- The command of a frame of NATS; a placeholder if it cannot be read. -/
def natsCommandOf : StreamFrame → ParsedRequestFrame
  | .complete bytes => (code.nats bytes code.config).getD (placeholderRequest .nats "unparsed_request_frame")
  | _ => placeholderRequest .nats "truncated_request_frame"

def countNatsCommand (frame : StreamFrame) (c : ProtocolRegistryCounters) : ProtocolRegistryCounters :=
  match frame with
  | .complete bytes =>
    match code.nats bytes code.config with
    | some _ => c
    | none => { c with unparsedFrames := c.unparsedFrames + 1 }
  | .truncated _ _ => { c with truncatedFrames := c.truncatedFrames + 1 }
  | .protocolSwitch _ _ => { c with unparsedFrames := c.unparsedFrames + 1 }

/-- A command of NATS is reported at once. -/
def natsTurn (frame : StreamFrame) (s : Tracker Unit) : Tracker Unit :=
  match direction, frame with
  | .request, .protocolSwitch _ _ => s.count (countNatsCommand code frame)
  | .request, _ => (s.count (countNatsCommand code frame)).emitUnmatched (natsCommandOf code frame) observed
  -- responses do not get here
  | .response, _ => s

def takenNats (frame : StreamFrame) : List Request :=
  match direction, frame with
  | .request, .protocolSwitch _ _ => []
  | .request, _ => [⟨natsCommandOf code frame, observed⟩]
  | .response, _ => []

namespace ProtocolState

def new : StreamProtocol → ProtocolState
  | .http1 => .http1 {}
  | .webSocket => .http1 { protocol := .webSocket }
  | .http2 => .http2 {}
  | .kafka => .kafka {}
  | .mongodb => .mongodb {}
  | .mysql | .mysqlCompressed => .mysql { limits := code.limits }
  | .nats => .nats {}
  | .postgresql => .postgresql {}
  | .redis => .redis {}

def turn (frame : StreamFrame) : ProtocolState → ProtocolState
  | .http1 s => .http1 (match direction with
    | .request => Http1.handleRequestFrame code.config observed frame s
    | .response => Http1.handleResponseFrame code.config observed frame s)
  | .http2 s => .http2 (Http2.handleHttp2Frame code.config direction observed frame s)
  | .kafka s => .kafka (match direction with
    | .request => Kafka.handleRequestFrame code.kafka code.config observed frame s
    | .response => Kafka.handleResponseFrame code.kafka code.config observed frame s)
  | .mongodb s => .mongodb (match direction with
    | .request => Mongodb.handleRequestFrame code.mongodb code.config observed frame s
    | .response => Mongodb.handleResponseFrame code.mongodb code.config observed frame s)
  | .mysql s => .mysql (match direction with
    | .request => Mysql.handleRequestFrame code.config observed frame s
    | .response => Mysql.handleResponseFrame code.config observed frame s)
  | .nats s => .nats (natsTurn code direction observed frame s)
  | .postgresql s => .postgresql (match direction with
    | .request => Postgres.handleRequestFrame code.config observed frame s
    | .response => Postgres.handleResponseFrame code.config observed frame s)
  | .redis s => .redis (match direction with
    | .request => Redis.handleRequestFrame code.config observed frame s
    | .response => Redis.handleResponseFrame code.config observed frame s)

/-- The requests of every protocol but HTTP/2 wait in the queue of the stream. -/
def hasQueue : ProtocolState → Bool
  | .http2 _ => false
  | _ => true

/-- The queue and the observations of a state, without what the protocol keeps for an entry. -/
def tracker : ProtocolState → Tracker Unit
  | .http1 s => s.toTracker.erase
  | .http2 s => { counters := s.counters, signals := s.signals }
  | .kafka s => s.erase
  | .mongodb s => s.erase
  | .mysql s => s.toTracker.erase
  | .nats s => s
  | .postgresql s => s.toTracker.erase
  | .redis s => s.toTracker.erase

/-- The requests that a frame brings in. -/
def taken (frame : StreamFrame) : ProtocolState → List Request
  | .http1 s => Http1.taken code.config observed frame s direction
  | .http2 _ => []
  | .kafka _ => match direction with
    | .request => Kafka.taken code.kafka code.config observed frame
    | .response => []
  | .mongodb _ => match direction with
    | .request => Mongodb.taken code.mongodb code.config observed frame
    | .response => []
  | .mysql s => match direction with
    | .request => Mysql.taken code.config observed frame s
    | .response => []
  | .nats _ => takenNats code direction observed frame
  | .postgresql s => match direction with
    | .request => Postgres.taken code.config observed frame s
    | .response => []
  | .redis _ => match direction with
    | .request => Redis.taken code.config observed frame
    | .response => []

/-- The entries that a frame makes leave without an observation. -/
def ignored (frame : StreamFrame) : ProtocolState → List Postgres.PostgresRequest
  | .postgresql s => match direction with
    | .request => []
    | .response => Postgres.ignoredSyncs code.config frame s
  | _ => []

end ProtocolState

structure Logged where
  state : ProtocolState
  taken : List Request := []
  ignored : List Postgres.PostgresRequest := []

namespace Logged

def turn (l : Logged) (frame : StreamFrame) : Logged where
  state := l.state.turn code direction observed frame
  taken := l.taken ++ l.state.taken code direction observed frame
  ignored := l.ignored ++ l.state.ignored code direction frame

def turns (frames : List StreamFrame) (l : Logged) : Logged :=
  frames.foldl (turn code direction observed) l

end Logged

/-! ## The loops and the stream around them -/

/-- The state takes over what `handle_event` may have changed. -/
def enter (s : ConnectionStream Logged) : Logged :=
  match s.rest.state with
  | .postgresql p =>
    { s.rest with state := .postgresql { p with
        negotiation := s.postgresNegotiation
        transportOpaque := s.postgresTransportOpaque } }
  | _ => s.rest

/-- The loop over the frames; those of a compressed stream are opened first. -/
def runFrames (frames : List StreamFrame) (started : Nat) (l : Logged) : Logged :=
  match l.state with
  | .mysql s =>
    if s.compression.isNone then l.turns code direction started frames
    else match Mysql.decodeMysqlCompressedTransportFrames code.inflate direction started frames s {} with
    | (s, none) => { l with state := .mysql s }
    | (s, some decoded) =>
      { l with state := .mysql s }.turns code direction (decoded.startedUnixNanos.getD started) decoded.frames
  | _ => l.turns code direction started frames

def StreamSide.switch (side : StreamSide) (protocol : Option StreamProtocol) : StreamSide :=
  match protocol with
  | none => side
  | some protocol => { side with feed := { side.feed with decoder := side.feed.decoder.switchProtocol protocol } }

/-- The decoder of a direction changes to the compressed stream and forgets the system call it is in. -/
def StreamSide.compress (side : StreamSide) : StreamSide where
  feed := { side.feed with decoder := side.feed.decoder.switchProtocol .mysqlCompressed, pending := none }
  frameStartedUnixNanos := none

def StreamSide.expectNegotiation (side : StreamSide) : StreamSide :=
  { side with feed := { side.feed with decoder := side.feed.decoder.expectPostgresNegotiationResponse } }

/-- What the protocol asks of the stream around it is done. -/
def leave (s : ConnectionStream Logged) (l : Logged) : ConnectionStream Logged :=
  match l.state with
  | .http1 h =>
    { s with
      protocol := h.protocol
      request := s.request.switch h.switchRequest
      response := s.response.switch h.switchResponse
      rest := { l with state := .http1 { h with switchRequest := none, switchResponse := none } } }
  | .mysql m =>
    if m.switchCompressed then
      { s with
        request := s.request.compress
        response := s.response.compress
        mysqlOpaque := m.isOpaque
        rest := { l with state := .mysql { m with switchCompressed := false } } }
    else { s with mysqlOpaque := m.isOpaque, rest := l }
  | .postgresql p =>
    { s with
      response :=
        if s.postgresNegotiation.isNone && p.negotiation.isSome then s.response.expectNegotiation else s.response
      postgresNegotiation := p.negotiation
      postgresTransportOpaque := p.transportOpaque
      rest := l }
  | _ => { s with rest := l }

/-- What an evicted stream reports of the requests it still holds. -/
def drain (s : ConnectionStream Logged) : List ProtocolRequestObservation :=
  match s.rest.state with
  | .http2 h => h.http2.streams.entries.map fun e => e.2.unmatched
  | state => state.tracker.inFlight.map InFlightRequest.unmatched

omit [Base64] in
theorem pending_leave (s : ConnectionStream Logged) (l : Logged) (d : StreamDirection) :
    (leave s l).pending d = s.pending d ∨ (leave s l).pending d = none := by
  have hswitch : ∀ (side : StreamSide) protocol, (side.switch protocol).feed.pending = side.feed.pending := by
    intro side protocol
    cases protocol with
    | none => rfl
    | some protocol => rfl
  unfold leave
  split
  · left
    cases d with
    | request => exact hswitch _ _
    | response => exact hswitch _ _
  · split
    · right
      cases d with
      | request => rfl
      | response => rfl
    · left
      cases d with
      | request => rfl
      | response => rfl
  · left
    cases d with
    | request => rfl
    | response =>
      split
      · rfl
      · rfl
  · left
    cases d with
    | request => rfl
    | response => rfl

def protocolHandlers : Handlers Logged where
  new := fun protocol => { state := .new code protocol }
  handle := fun direction frames started s =>
    let after := runFrames code direction frames started (enter s)
    (leave s after, after.state.tracker.signals.drop s.rest.state.tracker.signals.length)
  drain := drain
  pending_handle := fun _ _ _ s d => pending_leave s _ d

def ProtocolCode.registry : ProtocolStreamRegistry Logged where
  extraction := code.config
  limits := code.limits
  parsers := code.prefixes
  handlers := protocolHandlers code

end ENavigator.Registry
