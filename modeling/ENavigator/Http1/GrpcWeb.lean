import ENavigator.Http1.Parser
import ENavigator.Stream.Boundary

/-!
# gRPC-Web over HTTP/1

A message whose content type is one of gRPC-Web carries envelopes in its body, in binary or as base64 text; the last
envelope of a response is a trailer with the status of the call. Of the envelopes only their number and that status
are kept.
-/

namespace ENavigator.Http1

open ENavigator.Correlation
open ENavigator.Http2 (TraceContext parseUnsigned)
open ENavigator.Stream (Base64 parseAsciiHex parseAsciiUsize tokenContains)

def maxGrpcWebFrames : Nat := 64
def maxGrpcWebContentTypeBytes : Nat := 64
def maxChunkSizeDigits : Nat := 16

inductive GrpcWebWireMode where
  | binary | text
  deriving DecidableEq, Repr

def GrpcWebWireMode.name : GrpcWebWireMode → String
  | .binary => "binary"
  | .text => "text"

structure GrpcWebEnvelopeSummary where
  wireMode : GrpcWebWireMode
  frameCount : Nat := 0
  messageCount : Nat := 0
  compressedMessageCount : Nat := 0
  trailerCount : Nat := 0
  grpcStatus : Option Nat := none
  deriving DecidableEq, Repr

structure ParsedGrpcWebRequest where
  protocol : ProtocolKind
  method : Option Bytes
  traceContext : Option TraceContext
  warning : Option String
  attributes : List TraceAttribute
  summary : GrpcWebEnvelopeSummary

structure ParsedGrpcWebResponse where
  protocol : ProtocolKind
  statusCode : Nat
  attributes : List TraceAttribute
  summary : GrpcWebEnvelopeSummary
  deriving DecidableEq, Repr

inductive GrpcWebExtraction where
  | headersTooLong | malformedRequest | invalidContentType | invalidBodyFraming | bodyTooLong | invalidBase64
  | tooManyFrames | truncatedEnvelope | invalidEnvelopeFlag | trailerNotLast | invalidTrailer | missingGrpcStatus
  | invalidGrpcStatus
  deriving DecidableEq, Repr

/-! ## Headers and content type -/

structure GrpcWebHeaders where
  firstLine : Bytes
  lines : Bytes
  bodyOffset : Nat

variable [Base64] (bytes : Bytes)

def GrpcWebHeaders.parse (maxHeaderBytes : Nat) : Except GrpcWebExtraction GrpcWebHeaders :=
  match findDoubleCrlf (bytes.take (maxHeaderBytes + 1)) with
  | none => .error .headersTooLong
  | some stop =>
    if stop + 4 > maxHeaderBytes then .error .headersTooLong
    else
      let block := bytes.take stop
      let firstEnd := (findCrlf block).getD block.length
      .ok { firstLine := block.take firstEnd, lines := block.drop (firstEnd + 2), bodyOffset := stop + 4 }

/-- Unlike the headers of a WebSocket handshake, a name may stand between blanks. -/
def GrpcWebHeaders.value (headers : GrpcWebHeaders) (name : Bytes) : Option Bytes :=
  (headers.lines.splitOn lf).findSome? fun line =>
    let line := stripSuffix [cr] line
    (findByte line 58).bind fun colon =>
      if eqIgnoreAsciiCase (trimAscii (line.take colon)) name then some (trimAscii (line.drop (colon + 1))) else none

def grpcWebWireMode : Option Bytes → Except GrpcWebExtraction (Option GrpcWebWireMode)
  | none => .ok none
  | some contentType =>
    let mediaType := trimAscii (contentType.takeWhile (· != 59))
    if mediaType.length > maxGrpcWebContentTypeBytes then .error .invalidContentType
    else
      let lower := mediaType.map toAsciiLowercase
      if lower = text "application/grpc-web-text" || (text "application/grpc-web-text+").isPrefixOf lower then
        .ok (some .text)
      else if lower = text "application/grpc-web" || (text "application/grpc-web+").isPrefixOf lower then
        .ok (some .binary)
      else .ok none

/-! ## The body -/

/-- The loop over the chunks; every turn but the last uses up some of the bytes, so `remaining.length + 1` turns are
enough. -/
def dechunkFrom (maxBodyBytes : Nat) : Nat → Bytes → Bytes → Except GrpcWebExtraction Bytes
  | 0, _, _ => .error .invalidBodyFraming
  | fuel + 1, decoded, remaining =>
    match findCrlf remaining with
    | none => .error .invalidBodyFraming
    | some lineEnd =>
      let token := (remaining.take lineEnd).takeWhile (· != 59)
      if token.isEmpty || token.length > maxChunkSizeDigits then .error .invalidBodyFraming
      else match parseAsciiHex token with
      | none => .error .invalidBodyFraming
      | some chunkLen =>
        let rest := remaining.drop (lineEnd + 2)
        if chunkLen = 0 then if rest.take 2 = crlf then .ok decoded else .error .invalidBodyFraming
        else if decoded.length + chunkLen > maxBodyBytes then .error .bodyTooLong
        else if rest.length < chunkLen then .error .invalidBodyFraming
        else if (rest.drop chunkLen).take 2 ≠ crlf then .error .invalidBodyFraming
        else dechunkFrom maxBodyBytes fuel (decoded ++ rest.take chunkLen) (rest.drop (chunkLen + 2))

def dechunk (maxBodyBytes : Nat) : Except GrpcWebExtraction Bytes :=
  dechunkFrom maxBodyBytes (bytes.length + 1) [] bytes

def entityBody (headers : GrpcWebHeaders) (maxBodyBytes : Nat) : Except GrpcWebExtraction Bytes :=
  let body := bytes.drop headers.bodyOffset
  if (headers.value (text "transfer-encoding")).any (tokenContains · (text "chunked")) then dechunk body maxBodyBytes
  else match headers.value (text "content-length") with
  | some value =>
    match parseAsciiUsize (trimAscii value) with
    | none => .error .invalidBodyFraming
    | some length =>
      if length > maxBodyBytes then .error .bodyTooLong
      else if body.length < length then .error .invalidBodyFraming
      else .ok (body.take length)
  | none => if body.length > maxBodyBytes then .error .bodyTooLong else .ok body

/-- Each quartet by itself, so padding may also stand between two texts. -/
def decodeQuartets (maxBodyBytes : Nat) (decoded : Bytes) : Bytes → Except GrpcWebExtraction Bytes
  | [] => .ok decoded
  | a :: b :: c :: d :: rest =>
    match Base64.decode [a, b, c, d] with
    | none => .error .invalidBase64
    | some output =>
      if decoded.length + output.length > maxBodyBytes then .error .bodyTooLong
      else decodeQuartets maxBodyBytes (decoded ++ output) rest
  | _ => .error .invalidBase64

def decodeEntity (body : Bytes) (wireMode : GrpcWebWireMode) (maxBodyBytes : Nat) : Except GrpcWebExtraction Bytes :=
  if body.length > maxBodyBytes then .error .bodyTooLong
  else match wireMode with
  | .binary => .ok body
  | .text => decodeQuartets maxBodyBytes [] body

/-! ## Envelopes -/

def trailerLine (status : Option Nat) (line : Bytes) : Except GrpcWebExtraction (Option Nat) :=
  if line.isEmpty then .ok status
  else match splitOnce 58 line with
  | none => .error .invalidTrailer
  | some (name, value) =>
    if eqIgnoreAsciiCase (trim name) (text "grpc-status") then
      match parseUnsigned (2 ^ 16) (trim value) with
      | none => .error .invalidGrpcStatus
      | some parsed => if parsed > 16 then .error .invalidGrpcStatus else .ok (some parsed)
    else .ok status

def parseTrailerStatus : Except GrpcWebExtraction Nat :=
  if !validUtf8 bytes then .error .invalidTrailer
  else match (splitCrlf bytes).foldlM trailerLine none with
  | .error e => .error e
  | .ok none => .error .missingGrpcStatus
  | .ok (some status) => .ok status

/-- The loop over the envelopes, with the number of them that may still come. -/
def parseEnvelopesFrom : Nat → GrpcWebEnvelopeSummary → Bytes → Except GrpcWebExtraction GrpcWebEnvelopeSummary
  | _, summary, [] => .ok summary
  | 0, _, _ :: _ => .error .tooManyFrames
  | budget + 1, summary, bytes@(flags :: _) =>
    if bytes.length < 5 then .error .truncatedEnvelope
    else
      let declaredLen := beNat ((bytes.drop 1).take 4)
      let rest := bytes.drop 5
      if rest.length < declaredLen then .error .truncatedEnvelope
      else
        let summary := { summary with frameCount := summary.frameCount + 1 }
        if flags = 0 then
          parseEnvelopesFrom budget { summary with messageCount := summary.messageCount + 1 } (rest.drop declaredLen)
        else if flags = 1 then
          parseEnvelopesFrom budget { summary with
            messageCount := summary.messageCount + 1
            compressedMessageCount := summary.compressedMessageCount + 1 } (rest.drop declaredLen)
        else if flags = 0x80 then
          if summary.trailerCount + 1 > 1 || rest.length ≠ declaredLen then .error .trailerNotLast
          else match parseTrailerStatus (rest.take declaredLen) with
          | .error e => .error e
          | .ok status => .ok { summary with trailerCount := summary.trailerCount + 1, grpcStatus := some status }
        else .error .invalidEnvelopeFlag

def parseEnvelopes (wireMode : GrpcWebWireMode) (maxBodyBytes : Nat) (requireStatus : Bool) :
    Except GrpcWebExtraction GrpcWebEnvelopeSummary :=
  if bytes.length > maxBodyBytes then .error .bodyTooLong
  else do
    let summary ← parseEnvelopesFrom maxGrpcWebFrames { wireMode := wireMode } bytes
    if requireStatus && summary.grpcStatus.isNone then .error .missingGrpcStatus else .ok summary

/-! ## Requests and responses -/

/-- Service and method of the path `/service/method`. -/
def rpcIdentity (request : ParsedHttpRequest) : Option (Bytes × Bytes) :=
  match (request.attributes.find? fun a => a.key = "url.path").map TraceAttribute.value with
  | some (47 :: path) =>
    match splitOnce 47 path with
    | some (service, method) =>
      if service.isEmpty || method.isEmpty || method.contains 47 then none else some (service, method)
    | none => none
  | _ => none

/-- The request line of a call: a POST of three fields. -/
def isCallLine (firstLine : Bytes) : Bool :=
  match asciiFields firstLine with
  | [method, _, version] => method = text "POST" && (text "HTTP/1.").isPrefixOf version
  | _ => false

/-- A message that is not one of gRPC-Web gives nothing. -/
def parseGrpcWebRequest (config : ProtocolExtractionConfig) :
    Except GrpcWebExtraction (Option ParsedGrpcWebRequest) := do
  let headers ← GrpcWebHeaders.parse bytes config.maxHeaderBytes
  match ← grpcWebWireMode (headers.value (text "content-type")) with
  | none => pure none
  | some wireMode =>
    if !isCallLine headers.firstLine then throw .malformedRequest
    match parseHttpRequest bytes config with
    | .error _ => throw .malformedRequest
    | .ok parsedHttp =>
      let entity ← entityBody bytes headers config.maxHeaderBytes
      let decoded ← decodeEntity entity wireMode config.maxHeaderBytes
      let summary ← parseEnvelopes decoded wireMode config.maxHeaderBytes false
      let identity := rpcIdentity parsedHttp
      let push := fun key value attributes => pushAttribute config.maxAttributes key (some value) attributes
      let pushIf := pushAttribute config.maxAttributes
      let attributes :=
        push "rpc.grpc.web.compressed_message_count" (decimal summary.compressedMessageCount)
          (push "rpc.grpc.web.message_count" (decimal summary.messageCount)
            (push "rpc.grpc.web.mode" (text wireMode.name)
              (push "rpc.grpc.transport" (text "grpc_web")
                (pushIf "rpc.method" (identity.map Prod.snd)
                  (pushIf "rpc.service" (identity.map Prod.fst)
                    (push "rpc.system" (text "grpc") []))))))
      pure (some {
        protocol := .grpc
        method := (identity.map Prod.snd).or parsedHttp.method
        traceContext := parsedHttp.traceContext
        warning := parsedHttp.warning
        attributes := mergeAttributes config.maxAttributes attributes parsedHttp.attributes
        summary })

def parseGrpcWebResponse (config : ProtocolExtractionConfig) :
    Except GrpcWebExtraction (Option ParsedGrpcWebResponse) := do
  let headers ← GrpcWebHeaders.parse bytes config.maxHeaderBytes
  match ← grpcWebWireMode (headers.value (text "content-type")) with
  | none => pure none
  | some wireMode =>
    match parseHttpResponse bytes config with
    | .error _ => throw .malformedRequest
    | .ok parsedHttp =>
      let entity ← entityBody bytes headers config.maxHeaderBytes
      let decoded ← decodeEntity entity wireMode config.maxHeaderBytes
      let summary ← parseEnvelopes decoded wireMode config.maxHeaderBytes true
      match summary.grpcStatus with
      | none => throw .missingGrpcStatus
      | some statusCode =>
        let push := fun key value attributes => pushAttribute config.maxAttributes key (some value) attributes
        let attributes :=
          push "http.response.status_code" (decimal parsedHttp.statusCode)
            (push "rpc.grpc.status_code" (decimal statusCode)
              (push "rpc.grpc.web.message_count" (decimal summary.messageCount)
                (push "rpc.grpc.web.mode" (text wireMode.name)
                  (push "rpc.grpc.transport" (text "grpc_web")
                    (push "rpc.system" (text "grpc") [])))))
        pure (some { protocol := .grpc, statusCode, attributes, summary })

end ENavigator.Http1
