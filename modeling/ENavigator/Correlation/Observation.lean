import ENavigator.Stream.Types

/-!
# Requests in flight and what is reported about them

The records that the protocol tracker passes around: a request as its frame was parsed, a response, the
entry that waits for a response and the observation that leaves the tracker. What an observation copies
from the connection alone (process, container, peer) is the same for every observation of a connection
and left out.

Texts that the source writes as literals are strings; texts read from a connection are octets.
-/

namespace ENavigator.Correlation

open ENavigator.Stream (StreamProtocol)

inductive ProtocolKind where
  | http | grpc | kafka | mongodb | mysql | nats | postgresql | redis | websocket | unknown
  deriving DecidableEq, Repr

structure TraceAttribute where
  key : String
  value : Bytes
  deriving DecidableEq, Repr

structure ProtocolExtractionConfig where
  maxHeaderBytes : Nat := 8 * 1024
  maxRequestLineBytes : Nat := 1024
  maxAttributes : Nat := 8
  maxTracestateBytes : Nat := 512

def maxInFlightRequests : Nat := 32
def requestMatchTimeoutNanos : Nat := 30 * 1000000000

/-! ## Attributes -/

variable (maxAttributes : Nat)

/-- The attribute, unless the list is full or there is no value. -/
def pushAttribute (key : String) (value : Option Bytes) (attributes : List TraceAttribute) : List TraceAttribute :=
  if attributes.length ≥ maxAttributes then attributes
  else match value with
  | some value => attributes ++ [⟨key, value⟩]
  | none => attributes

/-- The attribute, unless the list is full or has the key. -/
def pushUniqueAttribute (key : String) (value : Bytes) (attributes : List TraceAttribute) : List TraceAttribute :=
  if attributes.length ≥ maxAttributes || attributes.any (·.key == key) then attributes
  else attributes ++ [⟨key, value⟩]

/-- The attributes of a response join those of the request whose keys they do not repeat. -/
def mergeAttributes (maxAttributes : Nat) : List TraceAttribute → List TraceAttribute → List TraceAttribute
  | attributes, [] => attributes
  | attributes, candidate :: rest =>
    if attributes.length ≥ maxAttributes then attributes
    else if attributes.any (·.key == candidate.key) then mergeAttributes maxAttributes attributes rest
    else mergeAttributes maxAttributes (attributes ++ [candidate]) rest

/-! ## Requests and responses -/

structure ParsedRequestFrame where
  protocol : ProtocolKind
  operation : Option Bytes := none
  statusCode : Option Nat := none
  traceId : Option Bytes := none
  spanId : Option Bytes := none
  warning : Option String := none
  attributes : List TraceAttribute := []
  websocketUpgrade : Bool := false
  deriving DecidableEq, Repr

/-- `get_or_insert`: a warning that is already there stays. -/
def ParsedRequestFrame.warn (parsed : ParsedRequestFrame) (warning : String) : ParsedRequestFrame :=
  { parsed with warning := some (parsed.warning.getD warning) }

def protocolKind : StreamProtocol → ProtocolKind
  | .http1 => .http
  | .http2 => .http
  | .webSocket => .websocket
  | .kafka => .kafka
  | .mongodb => .mongodb
  | .mysql => .mysql
  | .mysqlCompressed => .mysql
  | .nats => .nats
  | .postgresql => .postgresql
  | .redis => .redis

/-- What stands for a request whose frame could not be read. -/
def placeholderRequest (protocol : StreamProtocol) (warning : String) : ParsedRequestFrame :=
  { protocol := protocolKind protocol, warning := some warning }

structure ParsedResponseFrame where
  protocol : Option ProtocolKind := none
  signalStatusCode : Option Nat := none
  statusCode : Option Bytes := none
  errorType : Option Bytes := none
  attributes : List TraceAttribute := []

def mergeResponseAttributes (parsed : ParsedRequestFrame) (response : ParsedResponseFrame)
    (maxAttributes : Nat) : ParsedRequestFrame :=
  { parsed with attributes := mergeAttributes maxAttributes parsed.attributes response.attributes }

/-- A request that waits for its response, with the response state its protocol keeps for it. -/
structure InFlightRequest (Lifecycle : Type) where
  parsed : ParsedRequestFrame
  startedUnixNanos : Nat
  response : Lifecycle
  deriving DecidableEq, Repr

/-! ## Observations -/

inductive TraceConfidence where
  | high | low

structure ProtocolRequestObservation where
  protocol : ProtocolKind
  startUnixNanos : Nat
  endUnixNanos : Option Nat
  durationNanos : Option Nat
  traceId : Option Bytes
  spanId : Option Bytes
  confidence : TraceConfidence
  method : Option Bytes
  statusCode : Option Nat
  attributes : List TraceAttribute

def buildObservation (parsed : ParsedRequestFrame) (startUnixNanos : Nat) (endUnixNanos : Option Nat) :
    ProtocolRequestObservation where
  protocol := parsed.protocol
  startUnixNanos := startUnixNanos
  endUnixNanos := endUnixNanos
  durationNanos := endUnixNanos.map (· - startUnixNanos)
  traceId := parsed.traceId
  spanId := parsed.spanId
  confidence := if parsed.warning.isNone then .high else .low
  method := parsed.operation
  statusCode := parsed.statusCode
  attributes := parsed.attributes

/-- The observation without the times it was made at. -/
def ProtocolRequestObservation.timeless (o : ProtocolRequestObservation) : ProtocolRequestObservation :=
  { o with startUnixNanos := 0, endUnixNanos := none, durationNanos := none }

def InFlightRequest.unmatched {Lifecycle : Type} (entry : InFlightRequest Lifecycle) :
    ProtocolRequestObservation :=
  buildObservation entry.parsed entry.startedUnixNanos none

/-! ## What responses do to a request -/

theorem mergeAttributes_append (attributes added more : List TraceAttribute) :
    mergeAttributes maxAttributes (mergeAttributes maxAttributes attributes added) more =
      mergeAttributes maxAttributes attributes (added ++ more) := by
  have hfull : ∀ {attributes : List TraceAttribute} (more : List TraceAttribute), attributes.length ≥ maxAttributes →
      mergeAttributes maxAttributes attributes more = attributes := by
    intro attributes more h
    cases more with
    | nil => rfl
    | cons candidate rest => rw [mergeAttributes, if_pos h]
  induction added generalizing attributes with
  | nil => rfl
  | cons candidate rest ih =>
    rw [List.cons_append, mergeAttributes, mergeAttributes]
    split
    next h => exact hfull more h
    · split
      · exact ih _
      · exact ih _

theorem mergeAttributes_prefix (attributes added : List TraceAttribute) :
    attributes <+: mergeAttributes maxAttributes attributes added := by
  induction added generalizing attributes with
  | nil => exact List.prefix_rfl
  | cons candidate rest ih =>
    unfold mergeAttributes
    split
    · exact List.prefix_rfl
    split
    · exact ih attributes
    · exact (List.prefix_append attributes [candidate]).trans (ih _)

/-- Responses have changed the protocol and the status of a request and put their attributes behind those of the
request, as far as there is room and the request does not have the key; a warning was left unless there was one. -/
structure Answered (maxAttributes : Nat) (parsed parsed' : ParsedRequestFrame) : Prop where
  operation : parsed'.operation = parsed.operation
  traceId : parsed'.traceId = parsed.traceId
  spanId : parsed'.spanId = parsed.spanId
  warning : parsed'.warning = parsed.warning ∨ parsed.warning = none
  attributes : ∃ added, parsed'.attributes = mergeAttributes maxAttributes parsed.attributes added

theorem answered_refl (parsed : ParsedRequestFrame) : Answered maxAttributes parsed parsed :=
  ⟨rfl, rfl, rfl, .inl rfl, [], rfl⟩

theorem answered_warn (parsed : ParsedRequestFrame) (warning : String) :
    Answered maxAttributes parsed (parsed.warn warning) := by
  refine ⟨rfl, rfl, rfl, ?_, [], rfl⟩
  cases hwarning : parsed.warning with
  | none => exact .inr rfl
  | some text =>
    left
    rw [ParsedRequestFrame.warn, hwarning]
    rfl

theorem Answered.trans {maxAttributes : Nat} {a b c : ParsedRequestFrame} (h : Answered maxAttributes a b)
    (h' : Answered maxAttributes b c) : Answered maxAttributes a c := by
  obtain ⟨added, hadded⟩ := h.attributes
  obtain ⟨more, hmore⟩ := h'.attributes
  refine ⟨h'.operation.trans h.operation, h'.traceId.trans h.traceId, h'.spanId.trans h.spanId, ?_, added ++ more, ?_⟩
  · rcases h.warning with hwarning | hnone
    · rcases h'.warning with hwarning' | hnone
      · exact .inl (hwarning'.trans hwarning)
      · exact .inr (hwarning.symm.trans hnone)
    · exact .inr hnone
  · rw [hmore, hadded, mergeAttributes_append]

structure ProtocolRegistryCounters where
  truncatedFrames : Nat := 0
  unparsedFrames : Nat := 0
  responseContinuations : Nat := 0
  matchedResponses : Nat := 0
  orphanResponses : Nat := 0
  unparsedResponses : Nat := 0
  unmatchedExpired : Nat := 0
  unmatchedOverflow : Nat := 0
  unmatchedEvicted : Nat := 0
  evictedConnections : Nat := 0
  grpcWebRequests : Nat := 0
  websocketUpgrades : Nat := 0
  websocketFrames : Nat := 0
  websocketTransitionRejections : Nat := 0
  redisAmbiguousStateTransitions : Nat := 0
  postgresSkippedRequests : Nat := 0
  postgresCopyIgnoredControls : Nat := 0
  postgresStartupAuthMessages : Nat := 0
  postgresEncryptionNegotiationAccepted : Nat := 0
  postgresEncryptionNegotiationRejected : Nat := 0
  postgresNegotiationFailures : Nat := 0
  ignoredReadEvents : Nat := 0
  discoveredConnections : Nat := 0
  discoveryUnclassifiedEvents : Nat := 0
  mysqlCompressionOpaqueEvents : Nat := 0
  postgresEncryptedTransportEvents : Nat := 0
  kafkaCorrelationMismatches : Nat := 0
  mongodbCorrelationMismatches : Nat := 0
  mongodbFireAndForgetRequests : Nat := 0
  mongodbResponseContinuations : Nat := 0
  mongodbLifecycleFailures : Nat := 0
  mysqlLocalInfilePackets : Nat := 0
  mysqlLocalInfileBytes : Nat := 0
  mysqlLogicalRequestContinuations : Nat := 0
  mysqlLogicalResponseContinuations : Nat := 0
  mysqlLogicalSequenceFailures : Nat := 0
  mysqlServerGreetings : Nat := 0
  mysqlClientHandshakes : Nat := 0
  mysqlAuthPackets : Nat := 0
  mysqlCompressionZlibConnections : Nat := 0
  mysqlCompressionZstdRejections : Nat := 0
  mysqlCompressionUnverifiedRejections : Nat := 0
  mysqlCompressedPackets : Nat := 0
  mysqlCompressionFailures : Nat := 0
  mysqlHandshakeFailures : Nat := 0

end ENavigator.Correlation
