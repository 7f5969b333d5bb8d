import ENavigator.Correlation.Queue
import ENavigator.Http1.GrpcWeb
import ENavigator.Stream.Decoder

/-!
# An HTTP/1 connection

One turn of the loops over request and response frames, on a connection that speaks HTTP/1 and may change to
WebSocket. Every request waits; every frame of the server, whatever its status, completes the oldest one. A request
that asks for an upgrade waits like any other, and the answer that grants it ends HTTP on the connection: from then
on each frame is reported by itself.
-/

namespace ENavigator.Http1

open ENavigator.Correlation ENavigator.Stream

variable [Base64] (config : ProtocolExtractionConfig) (observed : Nat)

/-! ## WebSocket -/

def validClientKey (value : Bytes) : Bool := validBase64Value value 16

/-- The request line of an upgrade: a GET of three fields. -/
def isUpgradeLine (firstLine : Bytes) : Bool :=
  match asciiFields firstLine with
  | [method, _, version] => method = text "GET" && version = text "HTTP/1.1"
  | _ => false

/-- An ordinary request gives false. -/
def isWebSocketUpgradeRequest (bytes : Bytes) (maxHeaderBytes : Nat) : Except WebSocketExtraction Bool :=
  match parseHeaders bytes maxHeaderBytes with
  | .error e => .error e
  | .ok headers =>
    let upgrade := (headers.value (text "upgrade")).any (tokenContains · (text "websocket"))
    let connection := (headers.value (text "connection")).any (tokenContains · (text "upgrade"))
    let key := headers.value (text "sec-websocket-key")
    let version := headers.value (text "sec-websocket-version")
    if !(upgrade || key.isSome || version.isSome) then .ok false
    else if (headers.value (text "sec-websocket-extensions")).isSome then .error .unsupportedExtensions
    else if !isUpgradeLine headers.firstLine || !upgrade || !connection
        || version.map trimAscii ≠ some (text "13") || !key.any validClientKey then
      .error .malformedHandshake
    else .ok true

structure WebSocketFrameMetadata where
  fin : Bool
  opcode : WebSocketOpcode
  masked : Bool
  payloadLen : Nat
  captureComplete : Bool

def webSocketOpcodeName : WebSocketOpcode → String
  | .continuation => "continuation"
  | .text => "text"
  | .binary => "binary"
  | .close => "close"
  | .ping => "ping"
  | .pong => "pong"

def parseWebSocketFrame (bytes : Bytes) (direction : WebSocketDirection) (maxFrameBytes : Nat)
    (captureComplete : Bool) : Except WebSocketExtraction WebSocketFrameMetadata :=
  match parseFrameHeader bytes direction with
  | .error e => .error e
  | .ok none => .error .needMoreBytes
  | .ok (some header) =>
    let totalLen := header.headerLen + header.payloadLen
    if totalLen > maxFrameBytes then .error .frameTooLarge
    else if captureComplete && decide (bytes.length < totalLen) then .error .truncatedFrame
    else .ok ⟨header.fin, header.opcode, header.masked, header.payloadLen, captureComplete⟩

def directionName : WebSocketDirection → String
  | .clientToServer => "client_to_server"
  | .serverToClient => "server_to_client"

def boolName (b : Bool) : String := if b then "true" else "false"

def webSocketAttributes (maxAttributes : Nat) (direction : WebSocketDirection) (frame : WebSocketFrameMetadata) :
    List TraceAttribute :=
  let push := fun key value attributes => pushUniqueAttribute maxAttributes key value attributes
  push "websocket.frame.capture_complete" (text (boolName frame.captureComplete))
    (push "websocket.frame.payload_length" (decimal frame.payloadLen)
      (push "websocket.frame.masked" (text (boolName frame.masked))
        (push "websocket.frame.fin" (text (boolName frame.fin))
          (push "websocket.frame.opcode" (text (webSocketOpcodeName frame.opcode))
            (push "websocket.frame.direction" (text (directionName direction))
              (push "network.protocol.name" (text "websocket") []))))))

def webSocketFrame (direction : WebSocketDirection) (bytes : Bytes)
    (captureComplete : Bool) : Except WebSocketExtraction ParsedRequestFrame :=
  (parseWebSocketFrame bytes direction ({} : StreamDecodeLimits).maxFrameBytes captureComplete).map fun frame =>
    { protocol := .websocket
      operation := some (text (webSocketOpcodeName frame.opcode))
      warning := if captureComplete then none else some "truncated_websocket_frame"
      attributes := webSocketAttributes config.maxAttributes direction frame }

/-! ## Requests and responses -/

def parseHttp1RequestFrame (bytes : Bytes) (config : ProtocolExtractionConfig) : Except String ParsedRequestFrame :=
  match parseGrpcWebRequest bytes config with
  | .error _ => .error "grpc_web_request"
  | .ok (some parsed) => .ok
      { protocol := parsed.protocol
        operation := parsed.method
        traceId := parsed.traceContext.map (·.traceId)
        spanId := parsed.traceContext.map (·.spanId)
        warning := parsed.warning
        attributes := parsed.attributes }
  | .ok none =>
    match isWebSocketUpgradeRequest bytes config.maxHeaderBytes with
    | .error _ => .error "websocket_upgrade_request"
    | .ok upgrade =>
      match parseHttpRequest bytes config with
      | .error _ => .error "http1_request"
      | .ok parsed => .ok
          { protocol := if upgrade then .websocket else parsed.protocol
            operation := if upgrade then some (text "handshake") else parsed.method
            traceId := parsed.traceContext.map (·.traceId)
            spanId := parsed.traceContext.map (·.spanId)
            warning := parsed.warning
            attributes :=
              if upgrade then
                pushUniqueAttribute config.maxAttributes "websocket.version" (text "13")
                  (pushUniqueAttribute config.maxAttributes "network.protocol.name"
                    (text "websocket") parsed.attributes)
              else parsed.attributes
            websocketUpgrade := upgrade }

def parseHttp1ResponseFrame (bytes : Bytes) (config : ProtocolExtractionConfig) : Except String ParsedResponseFrame :=
  match parseGrpcWebResponse bytes config with
  | .error _ => .error "grpc_web_response"
  | .ok (some parsed) => .ok
      { protocol := some parsed.protocol
        signalStatusCode := some parsed.statusCode
        statusCode := some (decimal parsed.statusCode)
        attributes := parsed.attributes }
  | .ok none =>
    match parseHttpResponse bytes config with
    | .error _ => .error "http1_response"
    | .ok parsed => .ok
        { signalStatusCode := some parsed.statusCode
          statusCode := some (decimal parsed.statusCode)
          attributes := parsed.attributes }

/-! ## The connection -/

abbrev Http1Request := InFlightRequest Unit

structure Http1Stream extends Tracker Unit where
  protocol : StreamProtocol := .http1
  /-- the protocol that the decoder of a direction is to change to, if any -/
  switchRequest : Option StreamProtocol := none
  switchResponse : Option StreamProtocol := none

variable (bytes : Bytes) (frame : StreamFrame) (s : Http1Stream)

namespace Http1Stream

def count (add : ProtocolRegistryCounters → ProtocolRegistryCounters) : Http1Stream :=
  { s with counters := add s.counters }

def truncatedFrame : Http1Stream :=
  s.count fun c => { c with truncatedFrames := c.truncatedFrames + 1 }

def unparsedFrame : Http1Stream :=
  s.count fun c => { c with unparsedFrames := c.unparsedFrames + 1 }

def emitUnmatched (parsed : ParsedRequestFrame) (observed : Nat) : Http1Stream :=
  { s with toTracker := s.toTracker.emitUnmatched parsed observed }

end Http1Stream

def emitWebSocketFrame (direction : WebSocketDirection) (observed : Nat)
    (bytes : Bytes) (captureComplete : Bool) (s : Http1Stream) : Http1Stream :=
  match webSocketFrame config direction bytes captureComplete with
  | .ok parsed => (s.count fun c => { c with websocketFrames := c.websocketFrames + 1 }).emitUnmatched parsed observed
  | .error _ =>
    s.unparsedFrame.emitUnmatched (placeholderRequest .webSocket
      (if captureComplete then "unparsed_websocket_frame" else "truncated_websocket_frame_header")) observed

def emitWebSocketObservation (direction : WebSocketDirection) (observed : Nat)
    (frame : StreamFrame) (s : Http1Stream) : Http1Stream :=
  match frame with
  | .complete bytes => emitWebSocketFrame config direction observed bytes true s
  | .truncated bytes _ => emitWebSocketFrame config direction observed bytes false s.truncatedFrame
  | .protocolSwitch _ _ => s

/-! ### Requests -/

def frameRequest : StreamFrame → ParsedRequestFrame
  | .complete bytes =>
    match parseHttp1RequestFrame bytes config with
    | .ok parsed => parsed
    | .error _ => placeholderRequest .http1 "unparsed_request_frame"
  | _ => placeholderRequest .http1 "truncated_request_frame"

def isGrpcWebRequest (parsed : ParsedRequestFrame) : Bool :=
  parsed.protocol = .grpc && parsed.attributes.any fun a => a.key = "rpc.grpc.transport" && a.value = text "grpc_web"

def countRequest (c : ProtocolRegistryCounters) : ProtocolRegistryCounters :=
  match frame with
  | .complete bytes =>
    match parseHttp1RequestFrame bytes config with
    | .ok parsed => if isGrpcWebRequest parsed then { c with grpcWebRequests := c.grpcWebRequests + 1 } else c
    | .error _ => { c with unparsedFrames := c.unparsedFrames + 1 }
  | .truncated _ _ => { c with truncatedFrames := c.truncatedFrames + 1 }
  | .protocolSwitch _ _ => { c with unparsedFrames := c.unparsedFrames + 1 }

def handleRequestFrame : Http1Stream :=
  if s.protocol = .webSocket then emitWebSocketObservation config .clientToServer observed frame s
  else match frame with
  | .protocolSwitch _ _ => s.unparsedFrame
  | _ =>
    let s := s.count (countRequest config frame)
    { s with toTracker := s.toTracker.enqueue observed (frameRequest config frame) () }

/-! ### Responses -/

def frameResponse : StreamFrame → Except String ParsedResponseFrame
  | .complete bytes => parseHttp1ResponseFrame bytes config
  | _ => .error "truncated_response_frame"

/-- The request with what its response adds to it. -/
def answered (parsed : ParsedRequestFrame) : Except String ParsedResponseFrame → ParsedRequestFrame
  | .ok response =>
    mergeResponseAttributes
      { parsed with
        protocol := response.protocol.getD parsed.protocol
        statusCode := response.signalStatusCode }
      response config.maxAttributes
  | .error reason => parsed.warn reason

def countResponse (response : Except String ParsedResponseFrame) (c : ProtocolRegistryCounters) :
    ProtocolRegistryCounters :=
  match response with
  | .ok _ => { c with matchedResponses := c.matchedResponses + 1 }
  | .error _ => { c with unparsedResponses := c.unparsedResponses + 1 }

def completeFront (response : Except String ParsedResponseFrame)
    (entry : Http1Request) (rest : List Http1Request) (s : Http1Stream) : Http1Stream :=
  { s with
    inFlight := rest
    counters := countResponse response s.counters
    signals := s.signals ++ [buildObservation (answered config entry.parsed response) entry.startedUnixNanos
      (some observed)] }

/-- `response_action` is `PopOne` for every response of HTTP/1. -/
def popFront : Http1Stream :=
  match s.inFlight with
  | [] => s.count fun c => { c with orphanResponses := c.orphanResponses + 1 }
  | entry :: rest => completeFront config observed (frameResponse config frame) entry rest s

def rejectTransition : Http1Stream :=
  { s with switchResponse := some .http1 }.count fun c =>
    { c with websocketTransitionRejections := c.websocketTransitionRejections + 1 }

/-- The server grants an upgrade. The observation keeps the protocol of the request. -/
def enterWebSocket : Http1Stream :=
  match s.inFlight with
  | [] => rejectTransition s
  | entry :: rest =>
    if !entry.parsed.websocketUpgrade || s.protocol ≠ .http1 then rejectTransition s
    else
      let response := (parseHttp1ResponseFrame bytes config).map fun response => { response with protocol := none }
      { completeFront config observed response entry rest s with
        protocol := .webSocket
        switchRequest := some .webSocket }.count fun c => { c with websocketUpgrades := c.websocketUpgrades + 1 }

def handleResponseFrame : Http1Stream :=
  match frame with
  | .protocolSwitch bytes .webSocket => enterWebSocket config observed bytes s
  | .protocolSwitch _ _ =>
    s.count fun c => { c with websocketTransitionRejections := c.websocketTransitionRejections + 1 }
  | .complete _ =>
    if s.protocol = .webSocket then emitWebSocketObservation config .serverToClient observed frame s
    else popFront config observed frame s
  | .truncated _ _ =>
    if s.protocol = .webSocket then emitWebSocketObservation config .serverToClient observed frame s
    else popFront config observed frame s.truncatedFrame

def handleRequestFrames (frames : List StreamFrame) (s : Http1Stream) : Http1Stream :=
  frames.foldl (fun s frame => handleRequestFrame config observed frame s) s

def handleResponseFrames (frames : List StreamFrame) (s : Http1Stream) : Http1Stream :=
  frames.foldl (fun s frame => handleResponseFrame config observed frame s) s

end ENavigator.Http1
