import ENavigator.Correlation.Queue
import ENavigator.Redis.Lifecycle

/-!
# A Redis connection

One turn of the loops over request and response frames, on a connection that speaks Redis. A command whose
frame could not be read waits without a lifecycle; the generic matcher then pops it at the next reply, whatever
that reply is. Every other command is completed by its lifecycle.
-/

namespace ENavigator.Redis

open ENavigator.Correlation ENavigator.Stream

variable (config : ProtocolExtractionConfig)

def redisAmbiguousSubscriptionWarning : String := "redis_ambiguous_subscription_state"

abbrev RedisRequest := InFlightRequest (Option RedisResponseLifecycle)

structure RedisStream extends Tracker (Option RedisResponseLifecycle) where
  subscription : RedisSubscriptionState := .none
  transportOpaque : Bool := false

variable (observed : Nat) (frame : StreamFrame) (s : RedisStream)

namespace RedisStream

def count (add : ProtocolRegistryCounters → ProtocolRegistryCounters) : RedisStream :=
  { s with counters := add s.counters }

def unparsedResponse : RedisStream :=
  s.count fun c => { c with unparsedResponses := c.unparsedResponses + 1 }

def responseContinuation : RedisStream :=
  s.count fun c => { c with responseContinuations := c.responseContinuations + 1 }

def orphanResponse : RedisStream :=
  s.count fun c => { c with orphanResponses := c.orphanResponses + 1 }

end RedisStream

/-! ## Requests -/

def commandOf : StreamFrame → ParsedRequestFrame
  | .complete bytes =>
    match parseRedisCommand bytes config with
    | .ok parsed => parsed
    | .error _ => placeholderRequest .redis "unparsed_request_frame"
  | _ => placeholderRequest .redis "truncated_request_frame"

def lifecycleOf : Option RedisResponseLifecycle :=
  (RedisResponseLifecycle.fromRequest (frameBytes frame) config).toOption

/-- What reading a request frame adds to the counters. -/
def countRequest (c : ProtocolRegistryCounters) : ProtocolRegistryCounters :=
  match frame with
  | .complete bytes =>
    match parseRedisCommand bytes config with
    | .ok _ => c
    | .error _ => { c with unparsedFrames := c.unparsedFrames + 1 }
  | .truncated _ _ => { c with truncatedFrames := c.truncatedFrames + 1 }
  | .protocolSwitch _ _ => { c with unparsedFrames := c.unparsedFrames + 1 }

/-- From here on no response can be told apart: everything in flight is given up. -/
def becomeOpaque : RedisStream :=
  { s with
    transportOpaque := true
    inFlight := []
    counters := { s.counters with redisAmbiguousStateTransitions := s.counters.redisAmbiguousStateTransitions + 1 }
    signals := s.signals ++ s.inFlight.map fun entry =>
      buildObservation (entry.parsed.warn redisAmbiguousSubscriptionWarning) entry.startedUnixNanos none }

def handleRequestFrame : RedisStream :=
  let s := s.count (countRequest config frame)
  let parsed := commandOf config frame
  let warned := parsed.warn redisAmbiguousSubscriptionWarning
  match frame with
  | .protocolSwitch _ _ => s
  | _ =>
    if s.transportOpaque then { s with toTracker := s.toTracker.emitUnmatched warned observed }
    else if (lifecycleOf config frame).any (fun lifecycle => !lifecycle.expectsResponse) then
      let s := becomeOpaque s
      { s with toTracker := s.toTracker.emitUnmatched warned observed }
    else { s with toTracker := s.toTracker.enqueue observed parsed (lifecycleOf config frame) }

def handleRequestFrames (frames : List StreamFrame) (s : RedisStream) : RedisStream :=
  frames.foldl (fun s frame => handleRequestFrame config observed frame s) s

/-! ## Responses -/

/-- A response on a connection with no command in flight. -/
def handleUnsolicited (bytes : Bytes) (s : RedisStream) : RedisStream :=
  match redisConnectionResponseRole bytes s.subscription with
  | .error _ => s.unparsedResponse
  | .ok .reply => s.orphanResponse
  | .ok _ => s.responseContinuation

/-- A response to the oldest command, which has a lifecycle. -/
def advanceHead (bytes : Bytes) (entry : RedisRequest)
    (lifecycle : RedisResponseLifecycle) (rest : List RedisRequest) (s : RedisStream) : RedisStream :=
  match lifecycle.observeResponse bytes s.subscription config with
  | .error _ => s.unparsedResponse
  | .ok (.continue update, lifecycle) =>
    { s with
      subscription := update.getD s.subscription
      inFlight := { entry with response := some lifecycle } :: rest }.responseContinuation
  | .ok (.complete response update, _) =>
    let s := { s with subscription := update.getD s.subscription, inFlight := rest }
    let parsed : ParsedResponseFrame :=
      { statusCode := response.statusCode, errorType := response.errorType, attributes := response.attributes }
    { s with toTracker := s.toTracker.emitCompletedRequest config observed entry parsed }

/-- The response as the generic matcher reads it, or why it cannot. -/
def responseOf : StreamFrame → Except String ParsedResponseFrame
  | .complete bytes =>
    match parseRedisResponse bytes config with
    | .ok response => .ok
        { statusCode := response.statusCode, errorType := response.errorType, attributes := response.attributes }
    | .error _ => .error "redis_response"
  | _ => .error "truncated_response_frame"

/-- The generic matcher: a reply of any content completes the oldest command. -/
def popHead (entry : RedisRequest) (rest : List RedisRequest) (s : RedisStream) : RedisStream :=
  match redisResponseRole (frameBytes frame) with
  | .ok .reply =>
    let s := { s with inFlight := rest }
    match responseOf config frame with
    | .ok response =>
      let entry := { entry with parsed := { entry.parsed with statusCode := response.signalStatusCode } }
      { s with toTracker := s.toTracker.emitCompletedRequest config observed entry response }
    | .error reason =>
      { s with signals := s.signals ++
        [buildObservation (entry.parsed.warn reason) entry.startedUnixNanos (some observed)] }.unparsedResponse
  | _ => s.responseContinuation

def handleResponseFrame : RedisStream :=
  match frame with
  | .protocolSwitch _ _ =>
    s.count fun c => { c with websocketTransitionRejections := c.websocketTransitionRejections + 1 }
  | .complete bytes =>
    match s.inFlight with
    | [] => if s.transportOpaque then s.unparsedResponse else handleUnsolicited bytes s
    | entry :: rest =>
      match entry.response with
      | some lifecycle => if s.transportOpaque then s.unparsedResponse
        else advanceHead config observed bytes entry lifecycle rest s
      | none => popHead config observed frame entry rest s
  | .truncated _ _ =>
    let s := s.count fun c => { c with truncatedFrames := c.truncatedFrames + 1 }
    match s.inFlight with
    | entry :: rest =>
      match entry.response with
      -- the command stays: its reply is lost, but the next one will be taken for it
      | some _ => s.unparsedResponse
      | none => popHead config observed frame entry rest s
    | [] => s.unparsedResponse

def handleResponseFrames (frames : List StreamFrame) (s : RedisStream) : RedisStream :=
  frames.foldl (fun s frame => handleResponseFrame config observed frame s) s

end ENavigator.Redis
