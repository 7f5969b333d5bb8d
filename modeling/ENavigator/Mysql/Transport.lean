import ENavigator.Correlation.Queue
import ENavigator.Mysql.Lifecycle
import ENavigator.Stream.Decoder

/-!
# Handshake and compression of a MySQL connection

Before the first command the two sides greet each other and authenticate; the tracker follows them to learn whether
what comes after is compressed (`MysqlConnectionPhase`). A compressed stream carries the ordinary packets inside
packets of its own, which `decodeMysqlCompressedTransportFrames` opens. Anything that does not fit makes the connection
opaque for good. Inflating is a parameter.
-/

namespace ENavigator.Mysql

open ENavigator.Correlation ENavigator.Stream

/-! ## The handshake -/

def mysqlCompressedPacketHeaderBytes : Nat := 7
def mysqlProtocolVersion10 : UInt8 := 10
def mysqlClientCompress : Nat := 2 ^ 5
def mysqlClientProtocol41 : Nat := 2 ^ 9
def mysqlClientZstdCompressionAlgorithm : Nat := 2 ^ 26
def mysqlHandshakeResponseFixedBytes : Nat := 32

inductive MysqlCompressionAlgorithm where
  | disabled | zlib | zstd
  deriving DecidableEq, Repr

inductive MysqlCompressionExtraction where
  | packetTooLong | malformedPacket | malformedHandshake | unexpectedSequence | unsupportedProtocol
  | decompressionFailed | lengthMismatch

structure MysqlServerGreeting where
  capabilities : Nat
  deriving DecidableEq, Repr

structure MysqlClientHandshakeResponse where
  sequenceId : UInt8
  capabilities : Nat

structure MysqlPacketMetadata where
  sequenceId : UInt8
  firstPayloadByte : Option UInt8

variable (bytes : Bytes) (maxPacketBytes : Nat)

def exactPacketParts : Except MysqlCompressionExtraction (UInt8 × Bytes) :=
  match packetParts bytes maxPacketBytes with
  | .error .packetTooLong => .error .packetTooLong
  | .error _ => .error .malformedPacket
  | .ok (sequence, payload) =>
    if payload.length + mysqlPacketHeaderBytes ≠ bytes.length then .error .malformedPacket else .ok (sequence, payload)

def parseMysqlPacketMetadata : Except MysqlCompressionExtraction MysqlPacketMetadata :=
  (exactPacketParts bytes maxPacketBytes).map fun (sequence, payload) => ⟨sequence, payload.head?⟩

def parseMysqlServerGreeting : Except MysqlCompressionExtraction MysqlServerGreeting := do
  let (sequence, payload) ← exactPacketParts bytes maxPacketBytes
  if sequence ≠ 0 then throw .unexpectedSequence
  if payload.head? ≠ some mysqlProtocolVersion10 then throw .unsupportedProtocol
  match findByte (payload.drop 1) 0 with
  | none => throw .malformedHandshake
  | some versionLen =>
    if versionLen = 0 then throw .malformedHandshake
    -- connection id, authentication data, filler, capabilities, charset, status and the reserved bytes
    let fixed := (payload.drop (versionLen + 2)).take 31
    if fixed.length < 31 then throw .malformedHandshake
    if fixed.getD 12 0 ≠ 0 ∨ (fixed.drop 21).any (· != 0) then throw .malformedHandshake
    let capabilities := leNat ((fixed.drop 13).take 2) + leNat ((fixed.drop 18).take 2) * 2 ^ 16
    if capabilities &&& mysqlClientProtocol41 = 0 then throw .unsupportedProtocol
    pure ⟨capabilities⟩

def parseMysqlClientHandshakeResponse : Except MysqlCompressionExtraction MysqlClientHandshakeResponse := do
  let (sequence, payload) ← exactPacketParts bytes maxPacketBytes
  if sequence ≠ 1 ∧ sequence ≠ 2 then throw .unexpectedSequence
  if payload.length ≤ mysqlHandshakeResponseFixedBytes
      ∨ ((payload.take mysqlHandshakeResponseFixedBytes).drop 9).any (· != 0)
      ∨ !(payload.drop mysqlHandshakeResponseFixedBytes).contains 0 then throw .malformedHandshake
  let capabilities := leNat (payload.take 4)
  if capabilities &&& mysqlClientProtocol41 = 0 then throw .unsupportedProtocol
  pure ⟨sequence, capabilities⟩

def compressionOf (capabilities : Nat) : MysqlCompressionAlgorithm :=
  if capabilities &&& mysqlClientCompress ≠ 0 then .zlib
  else if capabilities &&& mysqlClientZstdCompressionAlgorithm ≠ 0 then .zstd
  else .disabled

def negotiateMysqlCompression (server : MysqlServerGreeting) (client : MysqlClientHandshakeResponse) :
    MysqlCompressionAlgorithm :=
  compressionOf (server.capabilities &&& client.capabilities)

def mysqlRequestedCompression (client : MysqlClientHandshakeResponse) : MysqlCompressionAlgorithm :=
  compressionOf client.capabilities

/-! ## The connection -/

inductive MysqlConnectionPhase where
  | unknown
  | awaitClientHandshake (server : MysqlServerGreeting)
  | authenticating (algorithm : MysqlCompressionAlgorithm) (nextSequence : UInt8) (serverVerified : Bool)
  | command
  | transportOpaque
  deriving DecidableEq, Repr

/-- One direction inside the compressed stream. -/
structure CompressedSide where
  decoder : ProtocolStreamDecoder
  frameStartedUnixNanos : Option Nat := none

structure MysqlCompressedTransport where
  request : CompressedSide
  response : CompressedSide
  nextSequence : UInt8 := 0

namespace MysqlCompressedTransport

def new (limits : StreamDecodeLimits) : MysqlCompressedTransport where
  request := { decoder := .new .mysql .request limits }
  response := { decoder := .new .mysql .response limits }

def side (transport : MysqlCompressedTransport) : StreamDirection → CompressedSide
  | .request => transport.request
  | .response => transport.response

def withSide (transport : MysqlCompressedTransport) (direction : StreamDirection) (side : CompressedSide) :
    MysqlCompressedTransport :=
  match direction with
  | .request => { transport with request := side }
  | .response => { transport with response := side }

end MysqlCompressedTransport

structure MysqlStream extends Tracker (Option MysqlResponseLifecycle) where
  phase : MysqlConnectionPhase := .unknown
  compression : Option MysqlCompressedTransport := none
  limits : StreamDecodeLimits := {}
  /-- both decoders are to change to the compressed stream -/
  switchCompressed : Bool := false

namespace MysqlStream

variable (s : MysqlStream)

def count (add : ProtocolRegistryCounters → ProtocolRegistryCounters) : MysqlStream :=
  { s with counters := add s.counters }

def isOpaque : Bool := s.phase = .transportOpaque

def markConnectionOpaque : MysqlStream :=
  { s with phase := .transportOpaque, compression := none }

def markTransportOpaque : MysqlStream :=
  s.markConnectionOpaque.count fun c => { c with mysqlCompressionFailures := c.mysqlCompressionFailures + 1 }

def markHandshakeOpaque : MysqlStream :=
  s.markConnectionOpaque.count fun c => { c with mysqlHandshakeFailures := c.mysqlHandshakeFailures + 1 }

def authPacket : MysqlStream :=
  s.count fun c => { c with mysqlAuthPackets := c.mysqlAuthPackets + 1 }

end MysqlStream

def beginMysqlAuthentication (client : MysqlClientHandshakeResponse) (server : Option MysqlServerGreeting)
    (s : MysqlStream) : MysqlStream :=
  let (algorithm, serverVerified) := match server with
    | none => (mysqlRequestedCompression client, false)
    | some server => (negotiateMysqlCompression server client, true)
  { s with phase := .authenticating algorithm (client.sequenceId + 1) serverVerified }.count fun c =>
    { c with mysqlClientHandshakes := c.mysqlClientHandshakes + 1 }

def activateMysqlCompression (algorithm : MysqlCompressionAlgorithm) (serverVerified : Bool) (s : MysqlStream) :
    MysqlStream :=
  if !serverVerified && algorithm ≠ .disabled then
    { s with phase := .transportOpaque }.count fun c =>
      { c with mysqlCompressionUnverifiedRejections := c.mysqlCompressionUnverifiedRejections + 1 }
  else match algorithm with
  | .disabled => { s with phase := .command }
  | .zlib =>
    { s with phase := .command, compression := some (.new s.limits), switchCompressed := true }.count fun c =>
      { c with mysqlCompressionZlibConnections := c.mysqlCompressionZlibConnections + 1 }
  | .zstd =>
    { s with phase := .transportOpaque }.count fun c =>
      { c with mysqlCompressionZstdRejections := c.mysqlCompressionZstdRejections + 1 }

/-- A packet in the middle of the authentication, if it is the one that is due. -/
def expectedPacket (config : ProtocolExtractionConfig) (nextSequence : UInt8) : StreamFrame →
    Option (Bytes × MysqlPacketMetadata)
  | .complete bytes =>
    match parseMysqlPacketMetadata bytes config.maxHeaderBytes with
    | .ok metadata => if metadata.sequenceId ≠ nextSequence then none else some (bytes, metadata)
    | .error _ => none
  | _ => none

/-- The packets of the client that belong to the handshake; none for a frame that is left to the commands. -/
def handleMysqlConnectionRequestFrame (config : ProtocolExtractionConfig) (frame : StreamFrame) (s : MysqlStream) :
    MysqlStream × Bool :=
  match s.phase with
  | .command => (s, false)
  | .transportOpaque => (s, true)
  | .unknown =>
    match frame with
    | .truncated _ _ => ({ s with phase := .command }, false)
    | .protocolSwitch _ _ => (s.markHandshakeOpaque, true)
    | .complete bytes =>
      match parseMysqlClientHandshakeResponse bytes config.maxHeaderBytes with
      | .ok client => (beginMysqlAuthentication client none s, true)
      | .error _ =>
        match parseMysqlPacketMetadata bytes config.maxHeaderBytes with
        | .ok metadata => (if metadata.sequenceId = 0 then { s with phase := .command } else s, false)
        | .error _ => (s, false)
  | .awaitClientHandshake server =>
    match frame with
    | .complete bytes =>
      match parseMysqlClientHandshakeResponse bytes config.maxHeaderBytes with
      | .ok client => (beginMysqlAuthentication client (some server) s, true)
      | .error _ => (s.markHandshakeOpaque, true)
    | _ => (s.markHandshakeOpaque, true)
  | .authenticating algorithm nextSequence serverVerified =>
    match expectedPacket config nextSequence frame with
    | none => (s.markHandshakeOpaque, true)
    | some _ =>
      ({ s with phase := .authenticating algorithm (nextSequence + 1) serverVerified }.authPacket, true)

/-- The server's packet of an authentication, by its first byte. -/
def authenticationResponse (config : ProtocolExtractionConfig) (algorithm : MysqlCompressionAlgorithm)
    (nextSequence : UInt8) (serverVerified : Bool) (bytes : Bytes) (metadata : MysqlPacketMetadata) (s : MysqlStream) :
    MysqlStream :=
  let hasError := (parseMysqlResponse bytes config).toOption.map fun response => response.errorType.isSome
  if metadata.firstPayloadByte = some 0x00 ∧ hasError = some false then
    activateMysqlCompression algorithm serverVerified s
  else if metadata.firstPayloadByte = some 0xff ∧ hasError = some true then s.markConnectionOpaque
  else if metadata.firstPayloadByte = some 0x01 ∨ metadata.firstPayloadByte = some 0xfe then
    { s with phase := .authenticating algorithm (nextSequence + 1) serverVerified }
  else s.markHandshakeOpaque

/-- The packets of the server that belong to the handshake. -/
def handleMysqlConnectionResponseFrame (config : ProtocolExtractionConfig) (frame : StreamFrame) (s : MysqlStream) :
    MysqlStream × Bool :=
  match s.phase with
  | .command => (s, false)
  | .transportOpaque => (s, true)
  | .unknown =>
    match frame with
    | .complete bytes =>
      match parseMysqlServerGreeting bytes config.maxHeaderBytes with
      | .ok server =>
        ({ s with phase := .awaitClientHandshake server }.count fun c =>
          { c with mysqlServerGreetings := c.mysqlServerGreetings + 1 }, true)
      | .error _ => (s, false)
    | _ => (s, false)
  | .awaitClientHandshake _ => (s.markHandshakeOpaque, true)
  | .authenticating algorithm nextSequence serverVerified =>
    match expectedPacket config nextSequence frame with
    | none => (s.markHandshakeOpaque, true)
    | some (bytes, metadata) =>
      (authenticationResponse config algorithm nextSequence serverVerified bytes metadata s.authPacket, true)

/-! ## Compressed packets -/

/-- What zlib makes of octets that are to give so many. -/
abbrev Inflate := Bytes → Nat → Except MysqlCompressionExtraction Bytes

/-- The sequence number and the octets of one compressed packet; an inflated length of zero stands for octets that are
not compressed. -/
def decodeMysqlCompressedPacket (inflate : Inflate) (bytes : Bytes) (maxPayloadBytes : Nat) :
    Except MysqlCompressionExtraction (UInt8 × Bytes) :=
  if bytes.length < mysqlCompressedPacketHeaderBytes then .error .malformedPacket
  else
    let compressedLen := leNat (bytes.take 3)
    let uncompressedLen := leNat ((bytes.drop 4).take 3)
    let compressed := bytes.drop mysqlCompressedPacketHeaderBytes
    if compressedLen + mysqlCompressedPacketHeaderBytes ≠ bytes.length ∨ compressedLen = 0 then .error .malformedPacket
    else if compressedLen > maxPayloadBytes then .error .packetTooLong
    else if uncompressedLen = 0 then .ok (bytes.getD 3 0, compressed)
    else if uncompressedLen > maxPayloadBytes then .error .packetTooLong
    else (inflate compressed uncompressedLen).map fun payload => (bytes.getD 3 0, payload)

/-- The ordinary frames that were found, and the time at which the first of them started. -/
structure DecodedFrames where
  frames : List StreamFrame := []
  startedUnixNanos : Option Nat := none

/-- The octets of one compressed packet reach the decoder of their direction. -/
def pushCompressed [Base64] (direction : StreamDirection) (inputStarted : Nat) (sequence : UInt8) (payload : Bytes)
    (transport : MysqlCompressedTransport) (decoded : DecodedFrames) : MysqlCompressedTransport × DecodedFrames :=
  let side := transport.side direction
  let started := side.frameStartedUnixNanos.getD inputStarted
  let (decoder, frames) := side.decoder.pushChunk payload payload.length
  let pending :=
    if decoder.buffer.length = 0 then none
    else if decoder.stats.completeFrames > side.decoder.stats.completeFrames then some inputStarted
    else some started
  ({ transport with nextSequence := sequence + 1 }.withSide direction ⟨decoder, pending⟩,
    { frames := decoded.frames ++ frames
      startedUnixNanos :=
        if !frames.isEmpty && decoded.startedUnixNanos.isNone then some started else decoded.startedUnixNanos })

/-- Nothing is under way, so that a request may start counting anew. -/
def exchangeIdle (s : MysqlStream) : Bool :=
  s.inFlight.isEmpty && s.compression.any fun transport =>
    transport.request.decoder.buffer.isEmpty && transport.response.decoder.buffer.isEmpty

/-- A packet of the compressed stream; nothing if the connection is opaque from here on. -/
def decodeCompressedFrame [Base64] (inflate : Inflate) (direction : StreamDirection) (inputStarted : Nat)
    (frame : StreamFrame) (s : MysqlStream) (decoded : DecodedFrames) : MysqlStream × Option DecodedFrames :=
  match frame with
  | .truncated _ _ =>
    ((s.count fun c => { c with truncatedFrames := c.truncatedFrames + 1 }).markTransportOpaque, none)
  | .protocolSwitch _ _ =>
    ((s.count fun c => { c with unparsedFrames := c.unparsedFrames + 1 }).markTransportOpaque, none)
  | .complete bytes =>
    match decodeMysqlCompressedPacket inflate bytes s.limits.maxBufferedBytes, s.compression with
    | .ok (sequence, payload), some transport =>
      if sequence ≠ transport.nextSequence ∧ ¬ (direction = .request ∧ exchangeIdle s = true ∧ sequence = 0) then
        (s.markTransportOpaque, none)
      else
        let (transport, decoded) := pushCompressed direction inputStarted sequence payload transport decoded
        ({ s with compression := some transport }.count fun c =>
          { c with mysqlCompressedPackets := c.mysqlCompressedPackets + 1 }, some decoded)
    | _, _ => (s.markTransportOpaque, none)

def decodeMysqlCompressedTransportFrames [Base64] (inflate : Inflate) (direction : StreamDirection)
    (inputStarted : Nat) : List StreamFrame → MysqlStream → DecodedFrames → MysqlStream × Option DecodedFrames
  | [], s, decoded => (s, some decoded)
  | frame :: frames, s, decoded =>
    match decodeCompressedFrame inflate direction inputStarted frame s decoded with
    | (s, none) => (s, none)
    | (s, some decoded) => decodeMysqlCompressedTransportFrames inflate direction inputStarted frames s decoded

/-! ## What the transport leaves alone -/

/-- The queue and what was reported are the same. -/
structure SameQueue (s s' : MysqlStream) : Prop where
  inFlight : s'.inFlight = s.inFlight
  signals : s'.signals = s.signals

theorem SameQueue.trans {a b c : MysqlStream} (h : SameQueue a b) (h' : SameQueue b c) : SameQueue a c :=
  ⟨h'.inFlight.trans h.inFlight, h'.signals.trans h.signals⟩

theorem activateMysqlCompression_queue (algorithm : MysqlCompressionAlgorithm) (serverVerified : Bool)
    (s : MysqlStream) : SameQueue s (activateMysqlCompression algorithm serverVerified s) := by
  unfold activateMysqlCompression
  split
  · exact ⟨rfl, rfl⟩
  cases algorithm with
  | disabled => exact ⟨rfl, rfl⟩
  | zlib => exact ⟨rfl, rfl⟩
  | zstd => exact ⟨rfl, rfl⟩

variable (config : ProtocolExtractionConfig)

theorem authenticationResponse_queue (algorithm : MysqlCompressionAlgorithm)
    (nextSequence : UInt8) (serverVerified : Bool) (bytes : Bytes) (metadata : MysqlPacketMetadata) (s : MysqlStream) :
    SameQueue s (authenticationResponse config algorithm nextSequence serverVerified bytes metadata s) := by
  unfold authenticationResponse
  dsimp only
  split
  · exact activateMysqlCompression_queue algorithm serverVerified s
  split
  · exact ⟨rfl, rfl⟩
  split
  · exact ⟨rfl, rfl⟩
  · exact ⟨rfl, rfl⟩

theorem handleMysqlConnectionRequestFrame_queue (frame : StreamFrame) (s : MysqlStream) :
    SameQueue s (handleMysqlConnectionRequestFrame config frame s).1 := by
  unfold handleMysqlConnectionRequestFrame
  split
  · exact ⟨rfl, rfl⟩
  · exact ⟨rfl, rfl⟩
  · split
    · exact ⟨rfl, rfl⟩
    · exact ⟨rfl, rfl⟩
    · split
      · exact ⟨rfl, rfl⟩
      · split
        · dsimp only
          split
          · exact ⟨rfl, rfl⟩
          · exact ⟨rfl, rfl⟩
        · exact ⟨rfl, rfl⟩
  · split
    · split
      · exact ⟨rfl, rfl⟩
      · exact ⟨rfl, rfl⟩
    · exact ⟨rfl, rfl⟩
  · split
    · exact ⟨rfl, rfl⟩
    · exact ⟨rfl, rfl⟩

theorem handleMysqlConnectionResponseFrame_queue (frame : StreamFrame)
    (s : MysqlStream) : SameQueue s (handleMysqlConnectionResponseFrame config frame s).1 := by
  unfold handleMysqlConnectionResponseFrame
  split
  · exact ⟨rfl, rfl⟩
  · exact ⟨rfl, rfl⟩
  · split
    · split
      · exact ⟨rfl, rfl⟩
      · exact ⟨rfl, rfl⟩
    · exact ⟨rfl, rfl⟩
  · exact ⟨rfl, rfl⟩
  next algorithm nextSequence serverVerified _ =>
    split
    · exact ⟨rfl, rfl⟩
    next bytes metadata _ =>
      have hauth : SameQueue s s.authPacket := ⟨rfl, rfl⟩
      exact hauth.trans (authenticationResponse_queue config algorithm nextSequence serverVerified bytes metadata _)

variable [Base64] (inflate : Inflate) (direction : StreamDirection) (inputStarted : Nat)

theorem decodeCompressedFrame_queue (frame : StreamFrame) (s : MysqlStream) (decoded : DecodedFrames) :
    SameQueue s (decodeCompressedFrame inflate direction inputStarted frame s decoded).1 := by
  unfold decodeCompressedFrame
  split
  · exact ⟨rfl, rfl⟩
  · exact ⟨rfl, rfl⟩
  · split
    · split
      · exact ⟨rfl, rfl⟩
      · exact ⟨rfl, rfl⟩
    · exact ⟨rfl, rfl⟩

theorem decodeMysqlCompressedTransportFrames_queue (frames : List StreamFrame) (s : MysqlStream)
    (decoded : DecodedFrames) :
    SameQueue s (decodeMysqlCompressedTransportFrames inflate direction inputStarted frames s decoded).1 := by
  induction frames generalizing s decoded with
  | nil => exact ⟨rfl, rfl⟩
  | cons frame frames ih =>
    have hframe := decodeCompressedFrame_queue inflate direction inputStarted frame s decoded
    unfold decodeMysqlCompressedTransportFrames
    split
    next s' hdecoded =>
      rw [hdecoded] at hframe
      exact hframe
    next s' decoded' hdecoded =>
      rw [hdecoded] at hframe
      exact hframe.trans (ih s' decoded')

end ENavigator.Mysql
