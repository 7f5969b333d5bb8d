import ENavigator.Correlation.Queue
import ENavigator.Stream.Decoder

/-!
# A MongoDB connection

One turn of the loops over request and response frames, on a connection that speaks MongoDB. A response names the
request it answers; one that announces more is not the last of them. How the frames are parsed is a parameter.
-/

namespace ENavigator.Mongodb

open ENavigator.Correlation ENavigator.Stream

structure ParsedMongodbCommand where
  protocol : ProtocolKind := .mongodb
  requestId : Int
  operation : Option Bytes
  warning : Option String
  attributes : List TraceAttribute
  expectsResponse : Bool
  allowsMultipleResponses : Bool

structure ParsedMongodbResponse where
  responseTo : Int
  statusCode : Bytes
  errorType : Option Bytes
  attributes : List TraceAttribute
  moreToCome : Bool

structure MongodbParsers where
  parseMessage : Bytes → ProtocolExtractionConfig → Option ParsedMongodbCommand
  parseResponse : Bytes → ProtocolExtractionConfig → Option ParsedMongodbResponse

/-! ## What a request waits for -/

inductive MongodbResponseKind where
  | single | exhaust | noResponse
  deriving DecidableEq, Repr

structure MongodbResponseLifecycle where
  requestId : Int
  kind : MongodbResponseKind
  firstError : Option ParsedMongodbResponse := none

inductive MongodbResponseProgress where
  | continue
  | complete (response : ParsedMongodbResponse)

namespace MongodbResponseLifecycle

def fromCommand (command : ParsedMongodbCommand) : MongodbResponseLifecycle where
  requestId := command.requestId
  kind :=
    if !command.expectsResponse then .noResponse
    else if command.allowsMultipleResponses then .exhaust
    else .single

def expectsResponse (lifecycle : MongodbResponseLifecycle) : Bool := lifecycle.kind ≠ .noResponse

/-- The first error stays the outcome; nothing for a response that may not come. -/
def observeResponse (lifecycle : MongodbResponseLifecycle) (response : ParsedMongodbResponse) :
    Option (MongodbResponseProgress × MongodbResponseLifecycle) :=
  if !lifecycle.expectsResponse || response.responseTo ≠ lifecycle.requestId
      || (response.moreToCome && lifecycle.kind ≠ .exhaust) then none
  else
    let firstError :=
      if response.errorType.isSome && lifecycle.firstError.isNone then some response else lifecycle.firstError
    if response.moreToCome then some (.continue, { lifecycle with firstError })
    else some (.complete (firstError.getD response), { lifecycle with firstError := none })

end MongodbResponseLifecycle

/-! ## The connection -/

abbrev MongodbRequest := InFlightRequest (Option MongodbResponseLifecycle)
abbrev MongodbStream := Tracker (Option MongodbResponseLifecycle)

def correlationMismatch (s : MongodbStream) : MongodbStream :=
  s.count fun c => { c with mongodbCorrelationMismatches := c.mongodbCorrelationMismatches + 1 }

variable (parsers : MongodbParsers) (config : ProtocolExtractionConfig)

def commandFrame (parsed : ParsedMongodbCommand) : ParsedRequestFrame :=
  { protocol := parsed.protocol, operation := parsed.operation, warning := parsed.warning,
    attributes := parsed.attributes }

def frameRequest : StreamFrame → ParsedRequestFrame
  | .complete bytes =>
    ((parsers.parseMessage bytes config).map commandFrame).getD (placeholderRequest .mongodb "unparsed_request_frame")
  | _ => placeholderRequest .mongodb "truncated_request_frame"

def countRequest (frame : StreamFrame) (c : ProtocolRegistryCounters) : ProtocolRegistryCounters :=
  match frame with
  | .complete bytes =>
    if (parsers.parseMessage bytes config).isSome then c else { c with unparsedFrames := c.unparsedFrames + 1 }
  | .truncated _ _ => { c with truncatedFrames := c.truncatedFrames + 1 }
  | .protocolSwitch _ _ => { c with unparsedFrames := c.unparsedFrames + 1 }

def lifecycleOf (frame : StreamFrame) : Option MongodbResponseLifecycle :=
  (parsers.parseMessage (frameBytes frame) config).map MongodbResponseLifecycle.fromCommand

def handleRequestFrame (observed : Nat) (frame : StreamFrame) (s : MongodbStream) : MongodbStream :=
  let s := s.count (countRequest parsers config frame)
  match frame with
  | .protocolSwitch _ _ => s
  | _ =>
    if (lifecycleOf parsers config frame).any (fun lifecycle => !lifecycle.expectsResponse) then
      (s.count fun c =>
        { c with mongodbFireAndForgetRequests := c.mongodbFireAndForgetRequests + 1 }).emitUnmatched
          (frameRequest parsers config frame) observed
    else s.enqueue observed (frameRequest parsers config frame) (lifecycleOf parsers config frame)

def responseFrame (response : ParsedMongodbResponse) : ParsedResponseFrame :=
  { statusCode := some response.statusCode, errorType := response.errorType, attributes := response.attributes }

/-- The response is for the entry between `front` and `back`. -/
def advanceEntry (observed : Nat) (response : ParsedMongodbResponse) (front : List MongodbRequest)
    (entry : MongodbRequest) (back : List MongodbRequest) (s : MongodbStream) : MongodbStream :=
  match entry.response with
  | none => correlationMismatch s
  | some lifecycle =>
    match lifecycle.observeResponse response with
    | none => s.count fun c => { c with mongodbLifecycleFailures := c.mongodbLifecycleFailures + 1 }
    | some (.continue, lifecycle) =>
      ({ s with inFlight := front ++ { entry with response := some lifecycle } :: back } : MongodbStream).count fun c =>
        { c with mongodbResponseContinuations := c.mongodbResponseContinuations + 1 }
    | some (.complete response, _) =>
      ({ s with inFlight := front ++ back } : MongodbStream).emitCompletedRequest config observed entry
        (responseFrame response)

/-- An id that no entry has, or more than one, completes nothing. -/
def handleMongodbResponseFrame (observed : Nat) (bytes : Bytes) (truncated : Bool) (s : MongodbStream) :
    MongodbStream :=
  if truncated then s.unparsedResponse
  else match parsers.parseResponse bytes config with
  | none => s.unparsedResponse
  | some response =>
    let hasId : MongodbRequest → Bool := fun entry =>
      entry.response.any fun lifecycle => lifecycle.requestId = response.responseTo
    match splitFirst hasId s.inFlight with
    | none =>
      if s.inFlight.isEmpty then s.orphanResponse else correlationMismatch s
    | some (front, entry, back) =>
      if back.any hasId then correlationMismatch s
      else advanceEntry config observed response front entry back s

def handleResponseFrame (observed : Nat) (frame : StreamFrame) (s : MongodbStream) : MongodbStream :=
  match frame with
  | .protocolSwitch _ _ =>
    s.count fun c => { c with websocketTransitionRejections := c.websocketTransitionRejections + 1 }
  | .complete bytes => handleMongodbResponseFrame parsers config observed bytes false s
  | .truncated bytes _ =>
    handleMongodbResponseFrame parsers config observed bytes true
      (s.count fun c => { c with truncatedFrames := c.truncatedFrames + 1 })

end ENavigator.Mongodb
