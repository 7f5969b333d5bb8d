import ENavigator.Lib.Bytes

/-!
# HTTP/1 trace context propagation

The contracts shared by the host and the kernel side: where a `traceparent` line may be inserted into
a request (`planHttp1Propagation`), whether a request may own inbound work
(`validInboundHttp1Request`), and the line's formatter and reader (`formatTraceparentHeader`,
`extractTraceparent`).

A loop that walks the lines of a header block is a recursion on the bytes still to walk, with one turn
of fuel per byte and one to spare; every turn removes at least a line end, so the fuel never runs out
(`chunkedTrailerStatus_fuel`, `chunkedBodyLoop_fuel`; the loops over a header block are followed to
their end where they are read as folds over its lines).
-/

namespace ENavigator.Propagation

def maxPropagationHeaderBytes : Nat := 1024
def traceparentHeaderBytes : Nat := 70

def allZero (value : Bytes) : Bool := value.all (· == 0)

/-- The ids are the source's arrays of 16 and 8 bytes. -/
structure TraceContext where
  traceId : Bytes
  spanId : Bytes
  traceFlags : UInt8
  traceId_length : traceId.length = 16
  spanId_length : spanId.length = 8
  deriving DecidableEq, Repr

def TraceContext.new (traceId spanId : Bytes) (traceFlags : UInt8) (ht : traceId.length = 16)
    (hs : spanId.length = 8) : Option TraceContext :=
  if allZero traceId || allZero spanId then none else some ⟨traceId, spanId, traceFlags, ht, hs⟩

inductive PropagationBypass where
  | empty | headersTooLarge | incompleteHeaders | notHttp1 | unsupportedMethod | existingTraceparent
  | orphanTracestate | protocolUpgrade | unsupportedTransferEncoding | ambiguousMessageFraming
  | invalidChunkedBody | uncapturedChunkedBody | invalidContentLength | ambiguousContentLength
  | inconsistentLength | trailingData
  deriving DecidableEq, Repr

inductive PropagationDecision where
  | inject (insertAt : Nat)
  | bypass (reason : PropagationBypass)
  deriving DecidableEq, Repr

/-! ## Fields and numbers -/

def isOws (b : UInt8) : Bool := b == 32 || b == 9

def trimOws (value : Bytes) : Bytes := ((value.dropWhile isOws).reverse.dropWhile isOws).reverse

def isFieldNameByte (b : UInt8) : Bool :=
  isAsciiAlphanumeric b || (text "!#$%&'*+-.^_`|~").contains b

def validFieldName (name : Bytes) : Bool := !name.isEmpty && name.all isFieldNameByte

def validFieldValue (value : Bytes) : Bool := value.all fun b => b == 9 || (b ≥ 0x20 && b != 0x7f)

def parseHexDigit (value : UInt8) : Option UInt8 :=
  if 48 ≤ value && value ≤ 57 then some (value - 48)
  else if 97 ≤ value && value ≤ 102 then some (value - 97 + 10)
  else none

def hexDigit (value : UInt8) : UInt8 := if value < 10 then 48 + value else 97 + (value - 10)

/-- Pairs of hex digits as bytes; an odd digit at the end is refused. -/
def parseHex : Bytes → Option Bytes
  | [] => some []
  | high :: low :: rest =>
    (parseHexDigit high).bind fun high =>
      (parseHexDigit low).bind fun low =>
        (parseHex rest).map fun tail => ((high <<< 4) ||| low) :: tail
  | [_] => none

def writeHex (input : Bytes) : Bytes := input.flatMap fun b : UInt8 => [hexDigit (b >>> 4), hexDigit (b &&& 0x0f)]

def parseContentLength (value : Bytes) : Option Nat :=
  if value.isEmpty then none
  else (value.foldlM (fun parsed byte =>
    if isAsciiDigit byte then
      (checkedMul parsed 10).bind fun v => checkedAdd v (byte - 48).toNat
    else none) 0).filter (· < 2 ^ 32)

def containsUpgradeToken (value : Bytes) : Bool :=
  (value.splitOn 44).any fun token => eqIgnoreAsciiCase (trimOws token) (text "upgrade")

/-! ## The request line and the header block -/

def validateRequestLine (line : Bytes) : Except PropagationBypass Unit :=
  match findByte line 32 with
  | none => .error .notHttp1
  | some firstSpace =>
    let remaining := line.drop (firstSpace + 1)
    match findByte remaining 32 with
    | none => .error .notHttp1
    | some secondSpace =>
      let method := line.take firstSpace
      let target := remaining.take secondSpace
      let version := remaining.drop (secondSpace + 1)
      if method.isEmpty || decide (method.length > 16) || target.isEmpty
          || !target.all (fun b => 0x21 ≤ b && b ≤ 0x7e)
          || !method.all (fun b => isAsciiUppercase b || b == 45)
          || (findByte version 32).isSome then .error .notHttp1
      else if method == text "CONNECT" || method == text "PRI" then .error .unsupportedMethod
      else if version != text "HTTP/1.1" && version != text "HTTP/1.0" then .error .notHttp1
      else .ok ()

/-- The end of the header block whose lines start at `index`, behind its blank line. -/
def headerEndFrom : Nat → Nat → Bytes → Option Nat
  | 0, _, _ => none
  | fuel + 1, index, remaining =>
    match findCrlf remaining with
    | none => none
    | some relativeEnd =>
      if relativeEnd = 0 then some (index + 2)
      else headerEndFrom fuel (index + relativeEnd + 2) (remaining.drop (relativeEnd + 2))

def http1Boundaries (message : Bytes) : Except PropagationBypass (Nat × Nat) :=
  if message.isEmpty then .error .empty
  else if message.length > maxPropagationHeaderBytes then .error .headersTooLarge
  else match findCrlf message with
  | none => .error .incompleteHeaders
  | some requestLineEnd =>
    match headerEndFrom (message.length + 1) (requestLineEnd + 2) (message.drop (requestLineEnd + 2)) with
    | none => .error .incompleteHeaders
    | some headerEnd => .ok (requestLineEnd, headerEnd)

/-- The header lines of a message with the given boundaries, up to and with the blank line. -/
def headerTail (message : Bytes) (requestLineEnd headerEnd : Nat) : Bytes :=
  (message.drop (requestLineEnd + 2)).take (headerEnd - (requestLineEnd + 2))

/-! ## Chunked bodies -/

inductive ChunkedBodyStatus where
  | incomplete | complete | trailingData | invalid

def parseChunkSizeLine (line : Bytes) : Option Nat :=
  let extension := findByte line 59
  let size := line.take (extension.getD line.length)
  if size.isEmpty then none
  else match size.foldlM (fun parsed byte =>
      (parseHexDigit byte).bind fun digit =>
        (checkedMul parsed 16).bind fun v => checkedAdd v digit.toNat) 0 with
  | none => none
  | some parsed =>
    match extension with
    | none => some parsed
    | some at_ =>
      let extension := line.drop (at_ + 1)
      if extension.isEmpty || !validFieldValue extension then none else some parsed

def isLineByte (b : UInt8) : Bool := b == cr || b == lf

/-- A chunk size line as far as it has arrived, without line-end bytes. -/
def validChunkSizeText (line : Bytes) : Bool :=
  if line.isEmpty then true
  else
    let extension := findByte line 59
    let size := line.take (extension.getD line.length)
    !size.isEmpty && size.all (fun b => (parseHexDigit b).isSome)
      && extension.all (fun at_ => validFieldValue (line.drop (at_ + 1)))

def validChunkSizePrefix (line : Bytes) : Bool :=
  if line.any isLineByte then
    line.getLast? == some cr && line.dropLast.all (fun b => !isLineByte b)
      && validChunkSizeText line.dropLast
  else validChunkSizeText line

def validTrailerLine (line : Bytes) : Bool :=
  match findByte line 58 with
  | none => false
  | some colon =>
    let name := line.take colon
    validFieldName name && validFieldValue (trimOws (line.drop (colon + 1)))
      && !eqIgnoreAsciiCase name (text "traceparent") && !eqIgnoreAsciiCase name (text "tracestate")

def validTrailerPrefix (line : Bytes) : Bool :=
  let line := (line.reverse.dropWhile (· == cr)).reverse
  if line.isEmpty then true
  else if line.any isLineByte then false
  else match findByte line 58 with
  | some colon => validFieldName (line.take colon) && validFieldValue (trimOws (line.drop (colon + 1)))
  | none => line.all isFieldNameByte

def chunkedTrailerStatus (body : Bytes) : Nat → Nat → ChunkedBodyStatus
  | 0, _ => .invalid
  | fuel + 1, cursor =>
    let remaining := body.drop cursor
    match findCrlf remaining with
    | none => if validTrailerPrefix remaining then .incomplete else .invalid
    | some relativeLineEnd =>
      if relativeLineEnd = 0 then if cursor + 2 = body.length then .complete else .trailingData
      else if !validTrailerLine (remaining.take relativeLineEnd) then .invalid
      else chunkedTrailerStatus body fuel (cursor + relativeLineEnd + 2)

def chunkedBodyLoop (body : Bytes) : Nat → Nat → ChunkedBodyStatus
  | 0, _ => .invalid
  | fuel + 1, cursor =>
    let remaining := body.drop cursor
    match findCrlf remaining with
    | none => if validChunkSizePrefix remaining then .incomplete else .invalid
    | some relativeLineEnd =>
      match parseChunkSizeLine (remaining.take relativeLineEnd) with
      | none => .invalid
      | some chunkSize =>
        let cursor := cursor + relativeLineEnd + 2
        if chunkSize = 0 then chunkedTrailerStatus body (body.length + 1) cursor
        else match checkedAdd cursor chunkSize with
        | none => .invalid
        | some chunkEnd =>
          if chunkEnd > body.length then .incomplete
          else match getRange body chunkEnd (chunkEnd + 2) with
          | none => if chunkEnd = body.length || body[chunkEnd]? == some cr then .incomplete else .invalid
          | some terminator =>
            if terminator != crlf then .invalid else chunkedBodyLoop body fuel (chunkEnd + 2)

theorem chunkedTrailerStatus_fuel {body : Bytes} {fuel cursor : Nat} (extra : Nat)
    (h : body.length - cursor < fuel) :
    chunkedTrailerStatus body (fuel + extra) cursor = chunkedTrailerStatus body fuel cursor := by
  induction fuel generalizing cursor with
  | zero => omega
  | succ fuel ih =>
    rw [Nat.add_right_comm, chunkedTrailerStatus, chunkedTrailerStatus]
    cases hcr : findCrlf (body.drop cursor) with
    | none => rfl
    | some relativeLineEnd =>
      have hle := findCrlf_add_two_le hcr
      rw [List.length_drop] at hle
      dsimp only
      rw [ih (by omega)]

/-- The turns `chunkedBodyStatus` grants are enough. -/
theorem chunkedBodyLoop_fuel {body : Bytes} {fuel cursor : Nat} (extra : Nat)
    (h : body.length - cursor < fuel) :
    chunkedBodyLoop body (fuel + extra) cursor = chunkedBodyLoop body fuel cursor := by
  induction fuel generalizing cursor with
  | zero => omega
  | succ fuel ih =>
    rw [Nat.add_right_comm, chunkedBodyLoop, chunkedBodyLoop]
    cases hcr : findCrlf (body.drop cursor) with
    | none => rfl
    | some relativeLineEnd =>
      have hle := findCrlf_add_two_le hcr
      rw [List.length_drop] at hle
      dsimp only
      cases parseChunkSizeLine ((body.drop cursor).take relativeLineEnd) with
      | none => rfl
      | some chunkSize =>
        dsimp only
        cases hadd : checkedAdd (cursor + relativeLineEnd + 2) chunkSize with
        | none => rfl
        | some chunkEnd =>
          obtain ⟨-, rfl⟩ := checkedAdd_eq_some_iff.mp hadd
          dsimp only
          rw [ih (by omega)]

def chunkedBodyStatus (body : Bytes) : ChunkedBodyStatus := chunkedBodyLoop body (body.length + 1) 0

/-! ## The plan -/

/-- What the header lines seen so far say about the message. -/
structure HeaderScan where
  contentLength : Option Nat := none
  transferEncodingChunked : Bool := false
  sawTracestate : Bool := false

def scanTransferEncoding (scan : HeaderScan) (name value : Bytes) : Except PropagationBypass HeaderScan :=
  if eqIgnoreAsciiCase name (text "transfer-encoding") then
    if scan.transferEncodingChunked || !eqIgnoreAsciiCase value (text "chunked") then
      .error .unsupportedTransferEncoding
    else .ok { scan with transferEncodingChunked := true }
  else .ok scan

def scanContentLength (scan : HeaderScan) (name value : Bytes) : Except PropagationBypass HeaderScan :=
  if eqIgnoreAsciiCase name (text "content-length") then
    if scan.contentLength.isSome then .error .ambiguousContentLength
    else match parseContentLength value with
    | none => .error .invalidContentLength
    | some parsed => .ok { scan with contentLength := some parsed }
  else .ok scan

def scanLine (inbound : Bool) (scan : HeaderScan) (line : Bytes) : Except PropagationBypass HeaderScan :=
  match findByte line 58 with
  | none => .error .notHttp1
  | some colon =>
    let name := line.take colon
    let value := trimOws (line.drop (colon + 1))
    if !validFieldName name || !validFieldValue value then .error .notHttp1
    else if !inbound && eqIgnoreAsciiCase name (text "traceparent") then .error .existingTraceparent
    else
      let scan := if eqIgnoreAsciiCase name (text "tracestate") then { scan with sawTracestate := true }
        else scan
      if eqIgnoreAsciiCase name (text "upgrade")
          || (eqIgnoreAsciiCase name (text "connection") && containsUpgradeToken value) then
        .error .protocolUpgrade
      else match scanTransferEncoding scan name value with
      | .error reason => .error reason
      | .ok scan => scanContentLength scan name value

def scanLines (inbound : Bool) : Nat → HeaderScan → Bytes → Except PropagationBypass HeaderScan
  | 0, scan, _ => .ok scan
  | fuel + 1, scan, tail =>
    if tail.length < 2 then .ok scan
    else match findCrlf tail with
    | none => .error .incompleteHeaders
    | some relativeEnd =>
      if relativeEnd = 0 then .ok scan
      else match scanLine inbound scan (tail.take relativeEnd) with
      | .error reason => .error reason
      | .ok scan => scanLines inbound fuel scan (tail.drop (relativeEnd + 2))

/-- What the framing of the body allows; `captured` of `total` body bytes are at hand. -/
def planBody (scan : HeaderScan) (captured : Bytes) (total : Nat) (inbound : Bool) :
    Except PropagationBypass Unit :=
  if scan.transferEncodingChunked then
    if total > captured.length then .error .uncapturedChunkedBody
    else match chunkedBodyStatus captured with
    | .incomplete => if inbound then .error .incompleteHeaders else .ok ()
    | .complete => .ok ()
    | .trailingData => .error .trailingData
    | .invalid => .error .invalidChunkedBody
  else match scan.contentLength with
    | none => if total ≠ 0 then .error .trailingData else .ok ()
    | some declared =>
      if total > declared || (inbound && total != declared) then .error .trailingData else .ok ()

def planHttp1Message (messagePrefix : Bytes) (messageTotalLen : Nat) (inbound : Bool) :
    PropagationDecision :=
  if messageTotalLen < messagePrefix.length then .bypass .inconsistentLength
  else match http1Boundaries messagePrefix with
  | .error reason => .bypass reason
  | .ok (requestLineEnd, headerEnd) =>
    match validateRequestLine (messagePrefix.take requestLineEnd) with
    | .error reason => .bypass reason
    | .ok () =>
      let tail := headerTail messagePrefix requestLineEnd headerEnd
      match scanLines inbound (tail.length + 1) {} tail with
      | .error reason => .bypass reason
      | .ok scan =>
        if scan.transferEncodingChunked && scan.contentLength.isSome then .bypass .ambiguousMessageFraming
        else match planBody scan (messagePrefix.drop headerEnd) (messageTotalLen - headerEnd) inbound with
        | .error reason => .bypass reason
        | .ok () =>
          if !inbound && scan.sawTracestate then .bypass .orphanTracestate
          else .inject (requestLineEnd + 2)

def planHttp1PrefixPropagation (messagePrefix : Bytes) (messageTotalLen : Nat) : PropagationDecision :=
  planHttp1Message messagePrefix messageTotalLen false

def planHttp1Propagation (message : Bytes) : PropagationDecision :=
  planHttp1PrefixPropagation message message.length

def validInboundHttp1Request (message : Bytes) : Bool :=
  match planHttp1Message message message.length true with
  | .inject _ => true
  | .bypass _ => false

/-! ## The `traceparent` line -/

def formatTraceparentHeader (c : TraceContext) : Bytes :=
  text "traceparent: 00-" ++ writeHex c.traceId ++ text "-" ++ writeHex c.spanId ++ text "-"
    ++ [hexDigit (c.traceFlags >>> 4), hexDigit (c.traceFlags &&& 0x0f)] ++ crlf

def parseHexArray (n : Nat) (input : Bytes) : Option { b : Bytes // b.length = n } :=
  (parseHex input).bind fun b => if h : b.length = n then some ⟨b, h⟩ else none

def parseTraceparentValue (value : Bytes) : Option TraceContext :=
  if value.length != 55 || value.take 3 != text "00-" || value[35]? != some 45 || value[52]? != some 45 then none
  else
    (parseHexArray 16 ((value.drop 3).take 32)).bind fun traceId =>
      (parseHexArray 8 ((value.drop 36).take 16)).bind fun spanId =>
        (value[53]?.bind parseHexDigit).bind fun high =>
          (value[54]?.bind parseHexDigit).bind fun low =>
            TraceContext.new traceId.1 spanId.1 ((high <<< 4) ||| low) traceId.2 spanId.2

def extractFrom : Nat → Bytes → Option TraceContext
  | 0, _ => none
  | fuel + 1, tail =>
    if tail.length < 2 then none
    else (findCrlf tail).bind fun relativeEnd =>
      if relativeEnd = 0 then none
      else
        let line := tail.take relativeEnd
        (findByte line 58).bind fun colon =>
          if eqIgnoreAsciiCase (line.take colon) (text "traceparent") then
            parseTraceparentValue (trimOws (line.drop (colon + 1)))
          else extractFrom fuel (tail.drop (relativeEnd + 2))

def extractTraceparent (message : Bytes) : Option TraceContext :=
  match http1Boundaries message with
  | .error _ => none
  | .ok (requestLineEnd, headerEnd) =>
    match validateRequestLine (message.take requestLineEnd) with
    | .error _ => none
    | .ok () =>
      let tail := headerTail message requestLineEnd headerEnd
      extractFrom (tail.length + 1) tail

end ENavigator.Propagation
