import ENavigator.Correlation.Queue
import ENavigator.Postgres.Lifecycle

/-!
# A PostgreSQL connection

One turn of the loops over request and response frames, on a connection that speaks PostgreSQL. A message that
expects an answer waits with its lifecycle; an error in an extended query gives up what follows it in the queue up
to a Sync, and what is still to come up to one (`discardingUntilSync`).
-/

namespace ENavigator.Postgres

open ENavigator.Correlation ENavigator.Stream

variable (config : ProtocolExtractionConfig) (observed : Nat)

def postgresSkippedAfterErrorWarning : String := "postgres_skipped_after_error"

/-- The response state of an entry; a message that the tracker accepts sets one of the three. -/
structure PostgresLifecycles where
  startup : Option PostgresStartupLifecycle := none
  simple : Option PostgresSimpleQueryLifecycle := none
  request : Option PostgresRequestLifecycle := none
  deriving DecidableEq, Repr

def PostgresLifecycles.isSync (lifecycles : PostgresLifecycles) : Bool :=
  lifecycles.request.any PostgresRequestLifecycle.isSync

abbrev PostgresRequest := InFlightRequest PostgresLifecycles

inductive PostgresNegotiation where
  | ssl | gssEncryption

def PostgresNegotiation.accepts (negotiation : PostgresNegotiation) (response : UInt8) : Bool :=
  match negotiation with
  | .ssl => response = 83
  | .gssEncryption => response = 71

structure PostgresStream extends Tracker PostgresLifecycles where
  discardingUntilSync : Bool := false
  negotiation : Option PostgresNegotiation := none
  transportOpaque : Bool := false
  copyIn : Bool := false

variable (frame : StreamFrame) (s : PostgresStream)

namespace PostgresStream

def count (add : ProtocolRegistryCounters → ProtocolRegistryCounters) : PostgresStream :=
  { s with counters := add s.counters }

def unparsedResponse : PostgresStream :=
  s.count fun c => { c with unparsedResponses := c.unparsedResponses + 1 }

def responseContinuation : PostgresStream :=
  s.count fun c => { c with responseContinuations := c.responseContinuations + 1 }

def orphanResponse : PostgresStream :=
  s.count fun c => { c with orphanResponses := c.orphanResponses + 1 }

def negotiationFailure : PostgresStream :=
  s.count fun c => { c with postgresNegotiationFailures := c.postgresNegotiationFailures + 1 }

def emitUnmatched (parsed : ParsedRequestFrame) (observed : Nat) : PostgresStream :=
  { s with toTracker := s.toTracker.emitUnmatched parsed observed }

end PostgresStream

/-! ## Requests -/

def beginPostgresNegotiation (negotiation : PostgresNegotiation) (s : PostgresStream) : PostgresStream :=
  if s.negotiation.isSome || !s.inFlight.isEmpty then { s with transportOpaque := true }.negotiationFailure
  else { s with negotiation := some negotiation }

def messageFrame (parsed : ParsedPostgresQuery) : ParsedRequestFrame :=
  { protocol := .postgresql, operation := parsed.operation, attributes := parsed.attributes }

def postgresStartupRequestFrame (parsed : ParsedPostgresStartup) : ParsedRequestFrame :=
  { protocol := .postgresql, operation := parsed.operation, attributes := parsed.attributes }

def parseRequestFrame (bytes : Bytes) (config : ProtocolExtractionConfig) :
    Except PostgresExtraction ParsedRequestFrame :=
  if bytes.head? = some 0 then (parsePostgresStartupMessage bytes config).map postgresStartupRequestFrame
  else (parsePostgresMessage bytes config).map messageFrame

def messageOf : StreamFrame → ParsedRequestFrame
  | .complete bytes =>
    match parseRequestFrame bytes config with
    | .ok parsed => parsed
    | .error _ => placeholderRequest .postgresql "unparsed_request_frame"
  | _ => placeholderRequest .postgresql "truncated_request_frame"

def countRequest (c : ProtocolRegistryCounters) : ProtocolRegistryCounters :=
  match frame with
  | .complete bytes =>
    match parseRequestFrame bytes config with
    | .ok _ => c
    | .error _ => { c with unparsedFrames := c.unparsedFrames + 1 }
  | .truncated _ _ => { c with truncatedFrames := c.truncatedFrames + 1 }
  | .protocolSwitch _ _ => { c with unparsedFrames := c.unparsedFrames + 1 }

def lifecyclesOf : PostgresLifecycles where
  startup := (PostgresStartupLifecycle.fromRequest (frameBytes frame) config).toOption
  simple := (PostgresSimpleQueryLifecycle.fromRequest (frameBytes frame) config).toOption
  request := (PostgresRequestLifecycle.fromRequest (frameBytes frame) config).toOption

/-- A message joins the queue, unless the backend will skip it or does not answer it. -/
def queueMessage (parsed : ParsedRequestFrame) (lifecycles : PostgresLifecycles)
    (s : PostgresStream) : PostgresStream :=
  if s.discardingUntilSync && !lifecycles.isSync then
    (s.count fun c => { c with postgresSkippedRequests := c.postgresSkippedRequests + 1 }).emitUnmatched
      (parsed.warn postgresSkippedAfterErrorWarning) observed
  else if lifecycles = {} then s.emitUnmatched parsed observed
  else if lifecycles.request.any (fun lifecycle => !lifecycle.expectsResponse) then s.emitUnmatched parsed observed
  else
    { s with
      toTracker := s.toTracker.enqueue observed parsed lifecycles
      discardingUntilSync := s.discardingUntilSync && !lifecycles.isSync }

/-- A message that is none of the startup phase. -/
def handleMessage : PostgresStream :=
  queueMessage observed (messageOf config frame) (lifecyclesOf config frame) (s.count (countRequest config frame))

/-- What the copy mode makes of a message: whether it is skipped, and the mode behind it. -/
def copyControl (copyIn : Bool) (messageType : Option UInt8) : Bool × Bool :=
  if copyIn then
    match messageType with
    | some 83 | some 72 => (true, true)
    | some 99 | some 102 => (false, false)
    | _ => (false, true)
  else (false, false)

def startupOf (bytes : Bytes) : Option ParsedPostgresStartup :=
  if bytes.head? = some 0 then (parsePostgresStartupMessage bytes config).toOption else none

def frontInStartup : Bool := s.inFlight.head?.any fun entry => entry.response.startup.isSome

def handleWholeMessage (bytes : Bytes) (s : PostgresStream) : PostgresStream :=
  if frontInStartup s && bytes.head? = some 112 then
    s.count fun c => { c with postgresStartupAuthMessages := c.postgresStartupAuthMessages + 1 }
  else
    match copyControl s.copyIn bytes.head? with
    | (true, _) => s.count fun c => { c with postgresCopyIgnoredControls := c.postgresCopyIgnoredControls + 1 }
    | (false, copyIn) => handleMessage config observed (.complete bytes) { s with copyIn := copyIn }

def handleRequestFrame : PostgresStream :=
  match frame with
  | .protocolSwitch _ _ => s.count (countRequest config frame)
  | .truncated _ _ => handleMessage config observed frame s
  | .complete bytes =>
    match startupOf config bytes with
    | some startup =>
      match startup.kind with
      | .sslRequest => beginPostgresNegotiation .ssl s
      | .gssEncryptionRequest => beginPostgresNegotiation .gssEncryption s
      | .cancelRequest => s.emitUnmatched (postgresStartupRequestFrame startup) observed
      | .startup => handleWholeMessage config observed bytes s
    | none => handleWholeMessage config observed bytes s

def handleRequestFrames (frames : List StreamFrame) (s : PostgresStream) : PostgresStream :=
  frames.foldl (fun s frame => handleRequestFrame config observed frame s) s

/-! ## Responses -/

/-- The frame belongs to a negotiation that is under way. -/
def handlePostgresNegotiationResponse (negotiation : PostgresNegotiation) (bytes : Bytes) (truncated : Bool)
    (s : PostgresStream) : PostgresStream :=
  let s := { s with negotiation := none }
  let failed := { s with transportOpaque := true }.negotiationFailure
  if truncated then failed
  else match bytes with
  | [response] =>
    if response = 78 then
      s.count fun c => { c with postgresEncryptionNegotiationRejected := c.postgresEncryptionNegotiationRejected + 1 }
    else if negotiation.accepts response then
      { s with transportOpaque := true }.count fun c =>
        { c with postgresEncryptionNegotiationAccepted := c.postgresEncryptionNegotiationAccepted + 1 }
    else failed
  | _ => failed

/-- The Syncs behind the head, which the backend ignores while it copies in; the rest and their number. -/
def dropIgnoredSyncs : List PostgresRequest → List PostgresRequest × Nat
  | [] => ([], 0)
  | entry :: rest =>
    if entry.response.isSync then
      let (rest, ignored) := dropIgnoredSyncs rest
      (rest, ignored + 1)
    else (entry :: rest, 0)

def enterPostgresCopyIn : PostgresStream :=
  match s.inFlight with
  | [] => { s with copyIn := true }
  | entry :: rest =>
    let (rest, ignored) := dropIgnoredSyncs rest
    { s with copyIn := true, inFlight := entry :: rest }.count fun c =>
      { c with postgresCopyIgnoredControls := c.postgresCopyIgnoredControls + ignored }

/-- The entries up to a Sync leave the queue. -/
def discardUntilSync (s : PostgresStream) : List PostgresRequest → PostgresStream
  | [] => { s with inFlight := [], discardingUntilSync := true }
  | entry :: rest =>
    if entry.response.isSync then { s with inFlight := entry :: rest, discardingUntilSync := false }
    else
      discardUntilSync
        ((s.count fun c => { c with postgresSkippedRequests := c.postgresSkippedRequests + 1 }).emitUnmatched
          (entry.parsed.warn postgresSkippedAfterErrorWarning) entry.startedUnixNanos) rest

def discardPostgresPipelineUntilSync : PostgresStream := discardUntilSync s s.inFlight

def responseFrame (response : ParsedPostgresResponse) : ParsedResponseFrame :=
  { statusCode := some response.statusCode, errorType := response.errorType, attributes := response.attributes }

/-- What the front of the queue makes of a backend message; the lifecycles are asked in this order. -/
def observeFront (bytes : Bytes) (lifecycles : PostgresLifecycles) :
    Option (Except PostgresExtraction (PostgresProgress × PostgresLifecycles)) :=
  match lifecycles.startup, lifecycles.simple, lifecycles.request with
  | some _, _, _ =>
    some ((PostgresStartupLifecycle.observeResponse bytes config).map fun progress => (progress, lifecycles))
  | none, some simple, _ =>
    some ((simple.observeResponse bytes config).map fun (progress, simple) =>
      (progress, { lifecycles with simple := some simple }))
  | none, none, some request =>
    some ((request.observeResponse bytes config).map fun (progress, request) =>
      (progress, { lifecycles with request := some request }))
  | none, none, none => none

/-- A response to the front of the queue, by what its lifecycle makes of it. -/
def advanceFront (bytes : Bytes) (entry : PostgresRequest) (rest : List PostgresRequest) (s : PostgresStream) :
    Except PostgresExtraction (PostgresProgress × PostgresLifecycles) → PostgresStream
  | .error _ => s.unparsedResponse
  | .ok (.continue, lifecycles) =>
    let s := { s with inFlight := { entry with response := lifecycles } :: rest }
    (if bytes.head? = some 71 then enterPostgresCopyIn s else s).responseContinuation
  | .ok (.complete response discard, _) =>
    let s := { s with inFlight := rest }
    let s := { s with toTracker := s.toTracker.emitCompletedRequest config observed entry (responseFrame response) }
    if discard then discardPostgresPipelineUntilSync s else s

/-- A frame that no lifecycle takes: the generic matcher. -/
def popFront (bytes : Bytes) (truncated : Bool) (s : PostgresStream) : PostgresStream :=
  if bytes.head? ∈ [some 65, some 75, some 78, some 82, some 83, some 118] then s.responseContinuation
  else match s.inFlight with
  | [] => s.orphanResponse
  | entry :: rest =>
    let s := { s with inFlight := rest }
    let failed (reason : String) : PostgresStream :=
      { s with signals := s.signals ++
        [buildObservation (entry.parsed.warn reason) entry.startedUnixNanos (some observed)] }.unparsedResponse
    if truncated then failed "truncated_response_frame"
    else match parsePostgresResponse bytes config with
    | .ok response =>
      let entry := { entry with parsed := { entry.parsed with statusCode := none } }
      { s with toTracker := s.toTracker.emitCompletedRequest config observed entry (responseFrame response) }
    | .error _ => failed "postgres_response"

def handleDatabaseResponse (bytes : Bytes) (truncated : Bool) (s : PostgresStream) : PostgresStream :=
  match s.inFlight with
  | [] => popFront config observed bytes truncated s
  | entry :: rest =>
    match observeFront config bytes entry.response with
    | none => popFront config observed bytes truncated s
    | some progress =>
      -- an error ends a copy, even if it was not captured whole
      let s := if entry.response.startup.isNone && bytes.head? = some 69 then { s with copyIn := false } else s
      if truncated then s.unparsedResponse else advanceFront config observed bytes entry rest s progress

def handleResponseFrame : PostgresStream :=
  let handle (truncated : Bool) (s : PostgresStream) : PostgresStream :=
    match s.negotiation with
    | some negotiation => handlePostgresNegotiationResponse negotiation (frameBytes frame) truncated s
    | none => handleDatabaseResponse config observed (frameBytes frame) truncated s
  match frame with
  | .protocolSwitch _ _ =>
    s.count fun c => { c with websocketTransitionRejections := c.websocketTransitionRejections + 1 }
  | .complete _ => handle false s
  | .truncated _ _ => handle true (s.count fun c => { c with truncatedFrames := c.truncatedFrames + 1 })

def handleResponseFrames (frames : List StreamFrame) (s : PostgresStream) : PostgresStream :=
  frames.foldl (fun s frame => handleResponseFrame config observed frame s) s

end ENavigator.Postgres
