import ENavigator.Http2.Headers

/-!
# HTTP/1 heads

What is read from the head of a request or a response. A head is text, kept as its octets; where the source trims
it or splits it at white space, that is white space of Unicode, so characters are told apart first (`chars`).
-/

namespace ENavigator.Http1

open ENavigator.Correlation
open ENavigator.Http2 (TraceContext parseTraceparent validTracestate parseUnsigned)

inductive HttpExtraction where
  | headersTooLong | invalidUtf8 | requestLineTooLong | malformedRequestLine | responseLineTooLong
  | malformedResponseLine | invalidStatusCode
  deriving DecidableEq, Repr

def maxHttpTargetPathAttributeBytes : Nat := 256
def maxHttpRequestIdAttributeBytes : Nat := 128
def maxHttpServerAddressAttributeBytes : Nat := 253

/-! ## Text -/

/-- The octets of each character. -/
def chars (value : Bytes) : List Bytes := value.splitBy fun _ next => isContinuation next

/-- `char::is_whitespace`, by the octets of the character. -/
def isWhitespace : Bytes → Bool
  | [b] => (9 ≤ b && b ≤ 13) || b == 32
  | [0xC2, b] => b == 0x85 || b == 0xA0
  | [0xE1, 0x9A, 0x80] => true
  | [0xE2, 0x80, b] => (0x80 ≤ b && b ≤ 0x8A) || b == 0xA8 || b == 0xA9 || b == 0xAF
  | [0xE2, 0x81, 0x9F] => true
  | [0xE3, 0x80, 0x80] => true
  | _ => false

def trim (value : Bytes) : Bytes :=
  (((chars value).dropWhile isWhitespace).reverse.dropWhile isWhitespace).reverse.flatten

def splitWhitespace (value : Bytes) : List Bytes :=
  (((chars value).splitOnP isWhitespace).filter fun field => !field.isEmpty).map List.flatten

def splitOnce (separator : UInt8) (value : Bytes) : Option (Bytes × Bytes) :=
  (findByte value separator).map fun i => (value.take i, value.drop (i + 1))

def splitCrlf : Bytes → List Bytes
  | [] => [[]]
  | 13 :: 10 :: rest => [] :: splitCrlf rest
  | b :: rest =>
    match splitCrlf rest with
    | [] => [[b]]
    | line :: lines => (b :: line) :: lines

def isAsciiControl (b : UInt8) : Bool := b < 32 || b == 127

/-! ## Addresses and targets -/

structure HostAuthority where
  address : Bytes
  port : Option Bytes
  deriving DecidableEq, Repr

def boundedPort (value : Bytes) : Option Nat :=
  if value.isEmpty || !value.all isAsciiDigit then none else parseUnsigned (2 ^ 16) value

/-- Address and port of an authority, not yet checked. -/
def splitHost (value : Bytes) : Option (Bytes × Option Bytes) :=
  match value with
  | 91 :: rest =>
    (splitOnce 93 rest).bind fun (address, remainder) =>
      match remainder with
      | [] => some (address, none)
      | 58 :: port => some (address, some port)
      | _ => none
  | _ =>
    match splitOnce 58 value with
    | some (address, port) => if port.contains 58 then none else some (address, some port)
    | none => some (value, none)

def boundedHostAuthority (value : Bytes) : Option HostAuthority :=
  if value.isEmpty || value.contains 64 || value.any (fun b => isAsciiControl b || b == 47 || b == 92) then none
  else (splitHost value).bind fun (address, port) =>
    if address.isEmpty || address.length > maxHttpServerAddressAttributeBytes || address.any isAsciiWhitespace then none
    else match port with
    | some port => if (boundedPort port).isSome then some ⟨address, some port⟩ else none
    | none => some ⟨address, none⟩

def requestTargetPath (target : Bytes) : Option Bytes :=
  if target.head? ≠ some 47 || target.any isAsciiControl then none
  else
    let path := target.takeWhile fun b => b != 63 && b != 35
    if path.isEmpty || path.length > maxHttpTargetPathAttributeBytes then none else some path

def absoluteFormTargetContext (remainder : Bytes) : Option Bytes × Option HostAuthority :=
  let inAuthority : UInt8 → Bool := fun b => b != 47 && b != 63 && b != 35
  match boundedHostAuthority (remainder.takeWhile inAuthority) with
  | none => (none, none)
  | some authority =>
    let rest := remainder.dropWhile inAuthority
    (requestTargetPath (if rest.head? = some 47 then rest else text "/"), some authority)

def requestTargetContext (method target : Bytes) : Option Bytes × Option HostAuthority :=
  if target.head? = some 47 then (requestTargetPath target, none)
  else if (text "http://").isPrefixOf target then absoluteFormTargetContext (target.drop 7)
  else if (text "https://").isPrefixOf target then absoluteFormTargetContext (target.drop 8)
  else if method = text "CONNECT" then (none, boundedHostAuthority target)
  else (none, none)

/-! ## First lines -/

structure ParsedRequestLine where
  method : Option Bytes
  path : Option Bytes
  authority : Option HostAuthority
  deriving DecidableEq, Repr

def isHttp1Version (value : Bytes) : Bool := value = text "HTTP/1.0" || value = text "HTTP/1.1"

def parseRequestLine (requestLine : Bytes) : Except HttpExtraction ParsedRequestLine :=
  match splitWhitespace requestLine with
  | [method, target, version] =>
    if !isHttp1Version version then .error .malformedRequestLine
    else if method.isEmpty || !method.all (fun b => isAsciiUppercase b || b == 45) then .ok ⟨none, none, none⟩
    else
      let (path, authority) := requestTargetContext method target
      .ok ⟨some method, path, authority⟩
  | _ => .error .malformedRequestLine

def parseStatusLine (statusLine : Bytes) : Except HttpExtraction Nat :=
  match splitWhitespace statusLine with
  | [] => .error .malformedResponseLine
  | version :: fields =>
    if !isHttp1Version version then .error .malformedResponseLine
    else match fields with
    | [] => .error .malformedResponseLine
    | statusCode :: _ =>
      if statusCode.length ≠ 3 || !statusCode.all isAsciiDigit then .error .invalidStatusCode
      else match parseUnsigned (2 ^ 16) statusCode with
      | none => .error .invalidStatusCode
      | some code => if 100 ≤ code ∧ code ≤ 599 then .ok code else .error .invalidStatusCode

/-! ## Heads -/

def headerEnd (bytes : Bytes) (maxHeaderBytes : Nat) : Except HttpExtraction Nat :=
  match findDoubleCrlf (bytes.take (maxHeaderBytes + 1)) with
  | none => .error .headersTooLong
  | some index => if index + 4 > maxHeaderBytes then .error .headersTooLong else .ok (index + 2)

/-- The headers that the loop over the lines keeps. -/
structure RequestHeaders where
  traceparent : Option Bytes := none
  tracestate : Option Bytes := none
  requestId : Option Bytes := none
  hostAuthority : Option HostAuthority := none

def isRequestIdHeader (key : Bytes) : Bool :=
  eqIgnoreAsciiCase key (text "x-request-id") || eqIgnoreAsciiCase key (text "request-id")

def boundedRequestId (value : Bytes) : Option Bytes :=
  if value.isEmpty || value.length > maxHttpRequestIdAttributeBytes || value.any isAsciiControl then none
  else some value

def RequestHeaders.read (config : ProtocolExtractionConfig) (headers : RequestHeaders) (line : Bytes) :
    RequestHeaders :=
  match splitOnce 58 line with
  | none => headers
  | some (key, value) =>
    let key := trim key
    let value := trim value
    if eqIgnoreAsciiCase key (text "traceparent") then { headers with traceparent := some value }
    else if eqIgnoreAsciiCase key (text "tracestate") then
      { headers with tracestate := if validTracestate value config.maxTracestateBytes then some value else none }
    else if isRequestIdHeader key then { headers with requestId := boundedRequestId value }
    else if eqIgnoreAsciiCase key (text "host") then { headers with hostAuthority := boundedHostAuthority value }
    else headers

structure ParsedHttpRequest where
  protocol : ProtocolKind
  method : Option Bytes
  traceContext : Option TraceContext
  traceparent : Option Bytes
  tracestate : Option Bytes
  warning : Option String
  attributes : List TraceAttribute

def requestOf (config : ProtocolExtractionConfig) (requestLine : ParsedRequestLine) (headers : RequestHeaders) :
    ParsedHttpRequest :=
  let push := pushAttribute config.maxAttributes
  let traceContext := headers.traceparent.map parseTraceparent
  { protocol := .http
    method := requestLine.method
    traceContext := traceContext.bind Except.toOption
    traceparent := headers.traceparent
    tracestate := headers.tracestate
    warning := match traceContext with
      | some (.ok _) => none
      | some (.error _) => some "malformed_trace_context"
      | none => some "missing_trace_context"
    attributes := push "server.port" (headers.hostAuthority.bind HostAuthority.port)
      (push "server.address" (headers.hostAuthority.map HostAuthority.address)
        (push "http.request.id" headers.requestId
          (push "url.path" requestLine.path
            (push "e.navigator.trace.tracestate" (headers.tracestate.map fun _ => text "validated_discarded")
              (push "http.request.method" requestLine.method []))))) }

def parseHttpRequest (bytes : Bytes) (config : ProtocolExtractionConfig) :
    Except HttpExtraction ParsedHttpRequest := do
  let stop ← headerEnd bytes config.maxHeaderBytes
  let header := bytes.take stop
  if !validUtf8 header then throw .invalidUtf8
  let lines := splitCrlf header
  let requestLine := lines.headD []
  if requestLine.length > config.maxRequestLineBytes then throw .requestLineTooLong
  let requestLine ← parseRequestLine requestLine
  let headers := (lines.tail.takeWhile fun line => !line.isEmpty).foldl (RequestHeaders.read config)
    { hostAuthority := requestLine.authority }
  pure (requestOf config requestLine headers)

structure ParsedHttpResponse where
  protocol : ProtocolKind
  statusCode : Nat
  attributes : List TraceAttribute

def parseHttpResponse (bytes : Bytes) (config : ProtocolExtractionConfig) :
    Except HttpExtraction ParsedHttpResponse := do
  let stop ← headerEnd bytes config.maxHeaderBytes
  let header := bytes.take stop
  if !validUtf8 header then throw .invalidUtf8
  let statusLine := (splitCrlf header).headD []
  if statusLine.length > config.maxRequestLineBytes then throw .responseLineTooLong
  let statusCode ← parseStatusLine statusLine
  pure {
    protocol := .http
    statusCode := statusCode
    attributes := pushAttribute config.maxAttributes "http.response.status_code" (some (decimal statusCode)) [] }

end ENavigator.Http1
