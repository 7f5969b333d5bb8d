import ENavigator.Correlation.Queue
import ENavigator.Stream.Decoder

/-!
# A Kafka connection

One turn of the loops over request and response frames, on a connection that speaks Kafka. Requests wait with their
correlation id; a response completes the one entry that has its id, wherever it stands in the queue. How the frames
are parsed is a parameter.
-/

namespace ENavigator.Kafka

open ENavigator.Correlation ENavigator.Stream

structure KafkaParsers where
  parseRequest : Bytes → ProtocolExtractionConfig → Option ParsedRequestFrame
  parseRequestCorrelationId : Bytes → ProtocolExtractionConfig → Option Int
  parseResponseCorrelationId : Bytes → ProtocolExtractionConfig → Option Int
  /-- the response to a request with this key and version -/
  parseResponseForApiKey : Int → Int → Bytes → ProtocolExtractionConfig → Option ParsedResponseFrame

structure KafkaHeader where
  apiKey : Int := -1
  apiVersion : Int := -1
  correlationId : Option Int := none

abbrev KafkaRequest := InFlightRequest KafkaHeader
abbrev KafkaStream := Tracker KafkaHeader

def correlationMismatch (s : KafkaStream) : KafkaStream :=
  s.count fun c => { c with kafkaCorrelationMismatches := c.kafkaCorrelationMismatches + 1 }

variable (parsers : KafkaParsers) (config : ProtocolExtractionConfig)

/-! ## Requests -/

/-- An integer of two octets in two's complement. -/
def readI16 (bytes : Bytes) (start : Nat) : Int :=
  let value := beNat ((bytes.drop start).take 2)
  if value < 2 ^ 15 then value else value - 2 ^ 16

def kafkaRequestHeaderPrefix (bytes : Bytes) : Option KafkaHeader :=
  if bytes.length < 8 then none
  else (parsers.parseRequestCorrelationId bytes config).map fun correlationId =>
    ⟨readI16 bytes 4, readI16 bytes 6, some correlationId⟩

def frameRequest : StreamFrame → ParsedRequestFrame
  | .complete bytes => (parsers.parseRequest bytes config).getD (placeholderRequest .kafka "unparsed_request_frame")
  | _ => placeholderRequest .kafka "truncated_request_frame"

def countRequest (frame : StreamFrame) (c : ProtocolRegistryCounters) : ProtocolRegistryCounters :=
  match frame with
  | .complete bytes =>
    if (parsers.parseRequest bytes config).isSome then c else { c with unparsedFrames := c.unparsedFrames + 1 }
  | .truncated _ _ => { c with truncatedFrames := c.truncatedFrames + 1 }
  | .protocolSwitch _ _ => { c with unparsedFrames := c.unparsedFrames + 1 }

def handleRequestFrame (observed : Nat) (frame : StreamFrame) (s : KafkaStream) : KafkaStream :=
  let s := s.count (countRequest parsers config frame)
  match frame with
  | .protocolSwitch _ _ => s
  | _ =>
    s.enqueue observed (frameRequest parsers config frame)
      ((kafkaRequestHeaderPrefix parsers config (frameBytes frame)).getD {})

/-! ## Responses -/

/-- The entry has left the queue, from between `front` and `back`. -/
def completeEntry (observed : Nat) (bytes : Bytes) (front : List KafkaRequest) (entry : KafkaRequest)
    (back : List KafkaRequest) (s : KafkaStream) : KafkaStream :=
  match parsers.parseResponseForApiKey entry.response.apiKey entry.response.apiVersion bytes config with
  | some response =>
    { inFlight := front ++ back
      counters := { s.counters with matchedResponses := s.counters.matchedResponses + 1 }
      signals := s.signals ++ [buildObservation
        (mergeResponseAttributes { entry.parsed with statusCode := response.signalStatusCode } response
          config.maxAttributes)
        entry.startedUnixNanos (some observed)] }
  | none =>
    { inFlight := front ++ back
      counters := { s.counters with unparsedResponses := s.counters.unparsedResponses + 1 }
      signals := s.signals ++ [buildObservation (entry.parsed.warn "kafka_response") entry.startedUnixNanos
        (some observed)] }

/-- An id that no entry has, or more than one, completes nothing. -/
def handleKafkaResponseFrame (observed : Nat) (bytes : Bytes) (truncated : Bool) (s : KafkaStream) : KafkaStream :=
  if truncated then s.unparsedResponse
  else match parsers.parseResponseCorrelationId bytes config with
  | none => s.unparsedResponse
  | some correlationId =>
    let hasId : KafkaRequest → Bool := fun entry => entry.response.correlationId = some correlationId
    match splitFirst hasId s.inFlight with
    | none =>
      if s.inFlight.isEmpty then s.orphanResponse else correlationMismatch s
    | some (front, entry, back) =>
      if back.any hasId then correlationMismatch s else completeEntry parsers config observed bytes front entry back s

def handleResponseFrame (observed : Nat) (frame : StreamFrame) (s : KafkaStream) : KafkaStream :=
  match frame with
  | .protocolSwitch _ _ =>
    s.count fun c => { c with websocketTransitionRejections := c.websocketTransitionRejections + 1 }
  | .complete bytes => handleKafkaResponseFrame parsers config observed bytes false s
  | .truncated bytes _ =>
    handleKafkaResponseFrame parsers config observed bytes true
      (s.count fun c => { c with truncatedFrames := c.truncatedFrames + 1 })

end ENavigator.Kafka
