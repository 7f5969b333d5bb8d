import ENavigator.Correlation.Observation

/-!
# Redis commands and replies

The readers of `redis.rs`: a command as an array of bulk strings or an inline line, a reply as any RESP value
down to a bounded depth, and the shapes of publish/subscribe messages. They move a cursor over the frame; an
error ends them.
-/

namespace ENavigator.Redis

open ENavigator.Correlation

def maxRedisCommandBytes : Nat := 64
def maxRedisBulkStringBytes : Nat := 1024
def maxRedisArrayItems : Nat := 64
def maxRedisArrayDepth : Nat := 4
def maxRedisSubscriptionConfirmationBytes : Nat := maxRedisCommandBytes + maxRedisBulkStringBytes + 128

inductive RedisExtraction where
  | frameTooLong | invalidUtf8 | malformedFrame | bulkStringTooLong | unsupportedFrame
  deriving DecidableEq, Repr

/-- How a server frame relates to the queue of commands. -/
inductive RedisResponseRole where
  | reply | push | attribute
  deriving DecidableEq, Repr

inductive RedisSubscriptionState where
  | none | resp2 | resp3
  deriving DecidableEq, Repr

inductive RedisSubscriptionKind where
  | subscribe | psubscribe | ssubscribe | unsubscribe | punsubscribe | sunsubscribe
  deriving DecidableEq, Repr

structure RedisSubscriptionConfirmation where
  kind : RedisSubscriptionKind
  state : RedisSubscriptionState
  hasName : Bool

/-! ## Lines -/

variable (bytes : Bytes) (maxFrameBytes : Nat)

def lineEnd (start : Nat) : Option Nat := (findCrlf (bytes.drop start)).map (start + ·)

/-- `bytes[start..stop]` of a line that was found. -/
def slice (start stop : Nat) : Bytes := (bytes.take stop).drop start

/-- Digits, with a minus sign in front of them or not. -/
def isDecimal : Bytes → Bool
  | [] => false
  | first :: rest => (isAsciiDigit first || first == 45) && (first :: rest != [45]) && rest.all isAsciiDigit

def decimalNat (digits : Bytes) : Nat := digits.foldl (fun n b => n * 10 + (b.toNat - 48)) 0

def decimalInt : Bytes → Int
  | 45 :: digits => -(decimalNat digits : Int)
  | digits => decimalNat digits

def parseDecimalLine (cursor : Nat) : Except RedisExtraction (Int × Nat) :=
  match lineEnd bytes cursor with
  | none => .error .malformedFrame
  | some stop =>
    let value := slice bytes cursor stop
    if !validUtf8 value then .error .invalidUtf8
    else if !isDecimal value then .error .malformedFrame
    -- `isize` has 64 bits
    else if decimalInt value < -2 ^ 63 || decimalInt value ≥ 2 ^ 63 then .error .malformedFrame
    else .ok (decimalInt value, stop + 2)

/-- The first word of the line at the cursor. -/
def parseSimpleToken (cursor : Nat) : Except RedisExtraction (Bytes × Nat) :=
  match lineEnd bytes cursor with
  | none => .error .malformedFrame
  | some stop =>
    let line := slice bytes cursor stop
    if !validUtf8 line then .error .invalidUtf8
    else match asciiFields line with
    | [] => .error .malformedFrame
    | token :: _ => .ok (token, stop + 2)

def isStatusByte (b : UInt8) : Bool := isAsciiAlphanumeric b || b == 95 || b == 45

def parseResponseStatus (value : Bytes) : Except RedisExtraction Bytes :=
  if value.isEmpty || value.length > maxRedisCommandBytes || !value.all isStatusByte then .error .malformedFrame
  else .ok (value.map toAsciiUppercase)

def parseStatusLine (cursor : Nat) : Except RedisExtraction (Bytes × Nat) := do
  let (token, cursor) ← parseSimpleToken bytes cursor
  let status ← parseResponseStatus token
  pure (status, cursor)

def errorTypeOf (status : Bytes) : Bytes :=
  text "redis_" ++ (status.map toAsciiLowercase).map fun b => if b = 45 then 95 else b

/-! ## Bulk strings -/

/-- The end of `len` payload bytes and their line end, when they are there and within the limits. -/
def bulkEnd (cursor : Nat) (len : Int) (maxFrameBytes : Nat) : Except RedisExtraction Nat :=
  if len < 0 then .error .malformedFrame
  else if len.toNat > maxRedisBulkStringBytes then .error .bulkStringTooLong
  else
    let stop := cursor + len.toNat
    if stop + 2 > maxFrameBytes then .error .frameTooLong
    else if getRange bytes stop (stop + 2) ≠ some crlf then .error .malformedFrame
    else .ok stop

def parseBulkString (cursor : Nat) : Except RedisExtraction (Bytes × Nat) := do
  if bytes[cursor]? ≠ some 36 then throw .unsupportedFrame
  let (len, cursor) ← parseDecimalLine bytes (cursor + 1)
  let stop ← bulkEnd bytes cursor len maxFrameBytes
  if !validUtf8 (slice bytes cursor stop) then throw .invalidUtf8
  pure (slice bytes cursor stop, stop + 2)

/-- A bulk string of a reply, behind its type byte; it may be null. -/
def skipBulkStringAfterType (cursor : Nat) : Except RedisExtraction Nat := do
  let (len, cursor) ← parseDecimalLine bytes cursor
  if len = -1 then pure cursor
  else
    let stop ← bulkEnd bytes cursor len maxFrameBytes
    pure (stop + 2)

/-- The payload of a verbatim string or blob error, which ends the frame. -/
def skipResp3BlobPayload : Except RedisExtraction Bytes := do
  let (len, cursor) ← parseDecimalLine bytes 1
  let stop ← bulkEnd bytes cursor len maxFrameBytes
  if stop + 2 ≠ bytes.length then throw .malformedFrame
  pure (slice bytes cursor stop)

/-! ## Commands -/

structure RedisFrame where
  command : Option Bytes
  argumentCount : Nat
  keyPresent : Bool

/-- `items` bulk strings; the first of them, if there is one. -/
def parseBulkStrings (bytes : Bytes) (maxFrameBytes : Nat) : Nat → Nat → Except RedisExtraction (Option Bytes)
  | 0, _ => pure none
  | items + 1, cursor => do
    let (item, cursor) ← parseBulkString bytes maxFrameBytes cursor
    let _ ← parseBulkStrings bytes maxFrameBytes items cursor
    pure (some item)

def parseRespArray : Except RedisExtraction RedisFrame := do
  let (itemCount, cursor) ← parseDecimalLine bytes 1
  if itemCount ≤ 0 || itemCount.toNat > maxRedisArrayItems then throw .malformedFrame
  let command ← parseBulkStrings bytes maxFrameBytes itemCount.toNat cursor
  pure ⟨command, itemCount.toNat - 1, itemCount > 1⟩

def parseInlineCommand (maxRequestLineBytes : Nat) : Except RedisExtraction RedisFrame :=
  match lineEnd bytes 0 with
  | none => .error .malformedFrame
  | some stop =>
    if stop > maxRequestLineBytes then .error .frameTooLong
    else if !validUtf8 (bytes.take stop) then .error .invalidUtf8
    else match asciiFields (bytes.take stop) with
    | [] => .error .malformedFrame
    | command :: arguments => .ok ⟨some command, arguments.length, arguments.length > 0⟩

def parseRedisCommandFrame (config : ProtocolExtractionConfig) : Except RedisExtraction RedisFrame :=
  if bytes.length > config.maxHeaderBytes then .error .frameTooLong
  else match bytes with
  | [] => .error .malformedFrame
  | first :: _ => if first = 42 then parseRespArray bytes config.maxHeaderBytes
    else parseInlineCommand bytes config.maxRequestLineBytes

def boundedCommand (value : Option Bytes) : Option Bytes :=
  value.bind fun value =>
    if value.isEmpty || value.length > maxRedisCommandBytes
      || !value.all (fun b => isAsciiAlphabetic b || b == 95) then none
    else some (value.map toAsciiUppercase)

def parseRedisCommand (config : ProtocolExtractionConfig) : Except RedisExtraction ParsedRequestFrame := do
  let frame ← parseRedisCommandFrame bytes config
  let command := boundedCommand frame.command
  let push := pushAttribute config.maxAttributes
  pure {
    protocol := .redis
    operation := command
    attributes := push "db.redis.key_present" (if frame.keyPresent then some (text "true") else none)
      (push "db.redis.argument.count" (some (decimal frame.argumentCount))
        (push "db.operation.name" command (push "db.system.name" (some (text "redis")) []))) }

/-! ## Replies -/

structure ParsedRedisResponse where
  statusCode : Option Bytes
  errorType : Option Bytes
  attributes : List TraceAttribute

/-- Status and error type of a reply. -/
structure RedisResponseToken where
  statusCode : Option Bytes := some (text "OK")
  errorType : Option Bytes := none

def errorToken (status : Bytes) : RedisResponseToken := ⟨some status, some (errorTypeOf status)⟩

/-- The number of values behind an aggregate's length line: a map has two for each entry. -/
def aggregateCount (isMap : Bool) (count : Int) : Except RedisExtraction Nat :=
  if count < 0 then .error .malformedFrame
  else if count.toNat > maxRedisArrayItems then .error .frameTooLong
  else .ok (if isMap then count.toNat * 2 else count.toNat)

/-- One value of an aggregate: its error, if it is one, and the cursor behind it. `nested` reads the values of
an aggregate one level further down. -/
def arrayItem (nested : Nat → Nat → Except RedisExtraction (Option Bytes × Nat))
    (cursor : Nat) : Except RedisExtraction (Option Bytes × Nat) := do
  match bytes[cursor]? with
  | none => throw .malformedFrame
  | some frameType =>
    if frameType = 43 then
      let (_, cursor) ← parseStatusLine bytes (cursor + 1)
      pure (none, cursor)
    else if frameType = 58 then
      let (_, cursor) ← parseDecimalLine bytes (cursor + 1)
      pure (none, cursor)
    else if frameType = 36 then
      let cursor ← skipBulkStringAfterType bytes maxFrameBytes (cursor + 1)
      pure (none, cursor)
    else if frameType = 45 then
      let (status, cursor) ← parseStatusLine bytes (cursor + 1)
      pure (some status, cursor)
    else if frameType = 42 || frameType = 37 || frameType = 126 then
      let (count, cursor) ← parseDecimalLine bytes (cursor + 1)
      if count = -1 then pure (none, cursor)
      else
        let items ← aggregateCount (frameType = 37) count
        nested items cursor
    else throw .unsupportedFrame

/-- The loop over the values of an aggregate; the first error among them is kept. -/
def arrayItems (bytes : Bytes) (maxFrameBytes : Nat)
    (nested : Nat → Nat → Except RedisExtraction (Option Bytes × Nat)) :
    Nat → Option Bytes → Nat → Except RedisExtraction (Option Bytes × Nat)
  | 0, firstError, cursor => .ok (firstError, cursor)
  | items + 1, firstError, cursor => do
    let (error, cursor) ← arrayItem bytes maxFrameBytes nested cursor
    arrayItems bytes maxFrameBytes nested items (firstError.or error) cursor

/-- The values of an aggregate, with `levels` levels left. -/
def parseArrayItems (bytes : Bytes) (maxFrameBytes : Nat) :
    Nat → Nat → Nat → Except RedisExtraction (Option Bytes × Nat)
  | 0, _, _ => .error .frameTooLong
  | levels + 1, items, cursor =>
    arrayItems bytes maxFrameBytes (parseArrayItems bytes maxFrameBytes levels) items none cursor

/-- An array, map, set, push or attribute that is the whole frame. -/
def parseAggregateResponse (isMap : Bool) : Except RedisExtraction RedisResponseToken := do
  let (count, cursor) ← parseDecimalLine bytes 1
  if count = -1 then pure {}
  else
    let items ← aggregateCount isMap count
    let (firstError, cursor) ← parseArrayItems bytes maxFrameBytes (maxRedisArrayDepth + 1) items cursor
    if cursor ≠ bytes.length then throw .malformedFrame
    pure (firstError.elim {} errorToken)

/-- The line of a double or a big number, which ends the frame. -/
def wholeLine : Except RedisExtraction Bytes :=
  match lineEnd bytes 1 with
  | none => .error .malformedFrame
  | some stop => if stop + 2 ≠ bytes.length then .error .malformedFrame else .ok (slice bytes 1 stop)

def parseResp3DoubleResponse : Except RedisExtraction Unit := do
  let value ← wholeLine bytes
  if !validUtf8 value then throw .invalidUtf8
  if value.isEmpty then throw .malformedFrame

def parseResp3BigNumberResponse : Except RedisExtraction Unit := do
  let value ← wholeLine bytes
  if !isDecimal value then throw .malformedFrame

def parseResp3BlobErrorResponse : Except RedisExtraction Bytes := do
  let payload ← skipResp3BlobPayload bytes maxFrameBytes
  if !validUtf8 payload then throw .invalidUtf8
  match asciiFields payload with
  | [] => throw .malformedFrame
  | token :: _ => parseResponseStatus token

def responseToken : Except RedisExtraction RedisResponseToken :=
  match bytes with
  | [] => .error .malformedFrame
  | first :: _ =>
    if first = 43 then (parseStatusLine bytes 1).map fun status => { statusCode := some status.1 }
    else if first = 58 then (parseDecimalLine bytes 1).map fun _ => {}
    else if first = 95 then (if bytes = text "_" ++ crlf then .ok {} else .error .malformedFrame)
    else if first = 35 then
      (if bytes = text "#t" ++ crlf || bytes = text "#f" ++ crlf then .ok {} else .error .malformedFrame)
    else if first = 44 then (parseResp3DoubleResponse bytes).map fun _ => {}
    else if first = 40 then (parseResp3BigNumberResponse bytes).map fun _ => {}
    else if first = 61 then (skipResp3BlobPayload bytes maxFrameBytes).map fun _ => {}
    else if first = 33 then (parseResp3BlobErrorResponse bytes maxFrameBytes).map errorToken
    else if first = 36 then (skipBulkStringAfterType bytes maxFrameBytes 1).map fun _ => {}
    else if first = 42 || first = 126 || first = 62 then parseAggregateResponse bytes maxFrameBytes false
    else if first = 37 || first = 124 then parseAggregateResponse bytes maxFrameBytes true
    else if first = 45 then (parseStatusLine bytes 1).map fun status => errorToken status.1
    else .error .unsupportedFrame

def parseRedisResponse (config : ProtocolExtractionConfig) : Except RedisExtraction ParsedRedisResponse :=
  if bytes.length > config.maxHeaderBytes then .error .frameTooLong
  else (responseToken bytes config.maxHeaderBytes).map fun token =>
    let push := pushAttribute config.maxAttributes
    { statusCode := token.statusCode
      errorType := token.errorType
      attributes := push "error.type" token.errorType (push "db.response.status_code" token.statusCode
        (push "db.system.name" (some (text "redis")) [])) }

end ENavigator.Redis
