import ENavigator.Correlation.Observation
import ENavigator.Http2.Frame
import ENavigator.Propagation.Tracestate

/-!
# What is read from a header block

The bounded semantics of a decoded header list: method, path, authority and trace context of a request,
status and gRPC status of a response. Both readers give the whole block to the connection's header
decoder first, so that what happens to the decoder depends on the block alone
(`parseHttp2RequestHeadersFrame_snd`, `parseHttp2ResponseHeadersFrame_snd`).
-/

namespace ENavigator.Http2

open ENavigator.Correlation

/-! ## Trace context -/

structure TraceContext where
  version : Bytes
  traceId : Bytes
  spanId : Bytes
  flags : Bytes

inductive TraceContextError where
  | malformed | invalidHex | reservedVersion | allZeroTraceId | allZeroSpanId

def isLowerHex (value : Bytes) : Bool := value.all fun b => isAsciiDigit b || (97 ≤ b && b ≤ 102)
def isAllZero (value : Bytes) : Bool := value.all (· == 48)

def parseTraceparent (value : Bytes) : Except TraceContextError TraceContext :=
  match value.splitOn 45 with
  | [version, traceId, spanId, flags] =>
    if version.length ≠ 2 || traceId.length ≠ 32 || spanId.length ≠ 16 || flags.length ≠ 2 then
      .error .malformed
    else if !isLowerHex version || !isLowerHex traceId || !isLowerHex spanId || !isLowerHex flags then
      .error .invalidHex
    else if version = text "ff" then .error .reservedVersion
    else if isAllZero traceId then .error .allZeroTraceId
    else if isAllZero spanId then .error .allZeroSpanId
    else .ok ⟨version.map toAsciiLowercase, traceId.map toAsciiLowercase, spanId.map toAsciiLowercase,
      flags.map toAsciiLowercase⟩
  | _ => .error .malformed

/-- The check of the propagation crate under a limit of this crate's own. -/
def validTracestate (value : Bytes) (maxBytes : Nat) : Bool :=
  value.length ≤ maxBytes && (Propagation.validateTracestate value).isOk

/-! ## Targets and numbers -/

def stripTarget (target : Bytes) : Bytes := target.takeWhile fun b => b != 63 && b != 35

def splitGrpcPath (path : Bytes) : Option Bytes × Option Bytes :=
  let trimmed := match path with
    | 47 :: rest => rest
    | _ => path
  let nonEmpty (part : Bytes) := if part.isEmpty then none else some part
  match findByte trimmed 47 with
  | none => (nonEmpty trimmed, none)
  | some slash => (nonEmpty (trimmed.take slash), nonEmpty (trimmed.drop (slash + 1)))

/-- Address and port, split at the last colon when digits follow it. -/
def splitAuthority (authority : Bytes) : Option Bytes × Option Bytes :=
  match findByte authority.reverse 58 with
  | none => (some authority, none)
  | some fromEnd =>
    let address := authority.take (authority.length - (fromEnd + 1))
    let port := authority.drop (authority.length - fromEnd)
    if port.all isAsciiDigit && !port.isEmpty then (some address, some port) else (some authority, none)

/-- `str::parse` at an unsigned type with values below `bound`: a plus sign may come first. -/
def parseUnsigned (bound : Nat) (value : Bytes) : Option Nat :=
  let digits := match value with
    | 43 :: digit :: rest => digit :: rest
    | _ => value
  if digits.isEmpty then none
  else digits.foldlM (fun n b =>
    if isAsciiDigit b && n * 10 + (b.toNat - 48) < bound then some (n * 10 + (b.toNat - 48)) else none) 0

/-! ## Requests -/

structure ParsedHttp2Request where
  protocol : ProtocolKind
  streamId : Nat
  method : Option Bytes
  traceContext : Option TraceContext
  warning : Option String
  attributes : List TraceAttribute

/-- The headers that the loop over a request's list keeps. -/
structure RequestFields where
  method : Option Bytes := none
  path : Option Bytes := none
  authority : Option Bytes := none
  grpc : Bool := false
  traceparent : Option Bytes := none
  tracestateValid : Bool := false

def RequestFields.read (config : ProtocolExtractionConfig) (fields : RequestFields) (header : Header) :
    RequestFields :=
  let (name, value) := header
  if name = text ":method" then { fields with method := some value }
  else if name = text ":path" then { fields with path := some value }
  else if name = text ":authority" then { fields with authority := some value }
  else if name = text "content-type" then { fields with grpc := (text "application/grpc").isPrefixOf value }
  else if name = text "traceparent" then { fields with traceparent := some value }
  else if name = text "tracestate" then
    { fields with tracestateValid := validTracestate value config.maxTracestateBytes }
  else fields

def requestAttributes (config : ProtocolExtractionConfig) (fields : RequestFields) : List TraceAttribute :=
  let push := pushAttribute config.maxAttributes
  let pathOnly := fields.path.map stripTarget
  let opening :=
    if fields.grpc then
      let (service, rpcMethod) := (pathOnly.map splitGrpcPath).getD (none, none)
      push "rpc.method" rpcMethod (push "rpc.service" service (push "rpc.system" (some (text "grpc")) []))
    else push "url.path" pathOnly (push "http.request.method" fields.method [])
  let (serverAddress, serverPort) := (fields.authority.map splitAuthority).getD (none, none)
  let addressed := push "server.address" serverAddress opening
  let traced :=
    if fields.tracestateValid then
      push "e.navigator.trace.tracestate" (some (text "validated_discarded")) addressed
    else addressed
  push "server.port" serverPort traced

def requestOf (config : ProtocolExtractionConfig) (streamId : Nat) (headers : List Header) : ParsedHttp2Request :=
  let fields := headers.foldl (RequestFields.read config) {}
  let traceContext := fields.traceparent.map parseTraceparent
  { protocol := if fields.grpc then .grpc else .http
    streamId := streamId
    method := fields.method
    traceContext := traceContext.bind Except.toOption
    warning := match traceContext with
      | some (.error _) => some "malformed_trace_context"
      | _ => none
    attributes := requestAttributes config fields }

/-- The checks both readers make before the block goes to the decoder. -/
def headersBlock (header : Http2FrameHeader) (payload : Bytes) (config : ProtocolExtractionConfig) :
    Except Http2Extraction Bytes := do
  if !header.endHeaders then throw .continuationExpected
  let block ← headersFrameBlock header payload
  if block.length > config.maxHeaderBytes then throw .headersTooLong
  pure block

def parseHttp2RequestHeadersFrame (decoder : HpackDecoder) (header : Http2FrameHeader) (payload : Bytes)
    (config : ProtocolExtractionConfig) : Except Http2Extraction ParsedHttp2Request × HpackDecoder :=
  match headersBlock header payload config with
  | .error e => (.error e, decoder)
  | .ok block =>
    let (headers, decoder) := decoder.decodeHeaderBlock block
    (headers.map (requestOf config header.streamId), decoder)

/-! ## Responses -/

structure ParsedHttp2Response where
  protocol : ProtocolKind
  streamId : Nat
  statusCode : Option Nat
  errorType : Option Bytes
  warning : Option String
  attributes : List TraceAttribute

def readStatus (fields : Option Nat × Option Bytes) (header : Header) :
    Except Http2Extraction (Option Nat × Option Bytes) :=
  if header.1 = text ":status" then
    match parseUnsigned (2 ^ 16) header.2 with
    | some code => .ok (some code, fields.2)
    | none => .error .invalidStatusCode
  else if header.1 = text "grpc-status" then .ok (fields.1, some header.2)
  else .ok fields

def errorTypeOf (statusCode : Option Nat) (grpcStatus : Option Bytes) : Option Bytes :=
  match grpcStatus, statusCode with
  | some status, _ => if status ≠ text "0" && (parseUnsigned (2 ^ 8) status).isSome then some status else none
  | none, some code => if code ≥ 500 then some (decimal code) else none
  | none, none => none

def responseOf (config : ProtocolExtractionConfig) (streamId : Nat) (headers : List Header) :
    Except Http2Extraction ParsedHttp2Response := do
  let (statusCode, grpcStatus) ← headers.foldlM readStatus (none, none)
  let push := pushAttribute config.maxAttributes
  let errorType := errorTypeOf statusCode grpcStatus
  pure {
    protocol := if grpcStatus.isSome then .grpc else .http
    streamId := streamId
    statusCode := statusCode
    errorType := errorType
    warning := none
    attributes := push "error.type" errorType (push "rpc.grpc.status_code" grpcStatus
      (push "http.response.status_code" (statusCode.map decimal) [])) }

def parseHttp2ResponseHeadersFrame (decoder : HpackDecoder) (header : Http2FrameHeader) (payload : Bytes)
    (config : ProtocolExtractionConfig) : Except Http2Extraction ParsedHttp2Response × HpackDecoder :=
  match headersBlock header payload config with
  | .error e => (.error e, decoder)
  | .ok block =>
    let (headers, decoder) := decoder.decodeHeaderBlock block
    (headers.bind (responseOf config header.streamId), decoder)

/-! ## Complete blocks -/

variable {config : ProtocolExtractionConfig}

theorem headersBlock_finish (b : AssembledHttp2HeaderBlock) (h : b.block.length ≤ config.maxHeaderBytes) :
    headersBlock b.finish.header b.block config = .ok b.block := by
  simp [headersBlock, b.endHeaders_finish, b.headersFrameBlock_finish, Nat.not_lt.mpr h, pure, Except.pure, bind,
    Except.bind]

theorem parseHttp2RequestHeadersFrame_snd (decoder : HpackDecoder) (b : AssembledHttp2HeaderBlock)
    (h : b.block.length ≤ config.maxHeaderBytes) :
    (parseHttp2RequestHeadersFrame decoder b.finish.header b.block config).2 =
      (decoder.decodeHeaderBlock b.block).2 := by
  rw [parseHttp2RequestHeadersFrame, headersBlock_finish b h]

theorem parseHttp2ResponseHeadersFrame_snd (decoder : HpackDecoder) (b : AssembledHttp2HeaderBlock)
    (h : b.block.length ≤ config.maxHeaderBytes) :
    (parseHttp2ResponseHeadersFrame decoder b.finish.header b.block config).2 =
      (decoder.decodeHeaderBlock b.block).2 := by
  rw [parseHttp2ResponseHeadersFrame, headersBlock_finish b h]

end ENavigator.Http2
