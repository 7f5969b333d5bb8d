import ENavigator.Correlation.Observation

/-!
# MySQL packets

Commands and responses as `mysql.rs` reads them. A packet is a length of three bytes, a sequence number and the
payload. Positions in a payload are cursors: a reader takes the payload and a cursor and returns the next one.
-/

namespace ENavigator.Mysql

open ENavigator.Correlation

def mysqlComQuit : UInt8 := 0x01
def mysqlComInitDb : UInt8 := 0x02
def mysqlComQuery : UInt8 := 0x03
def mysqlComPing : UInt8 := 0x0e
def mysqlComStmtPrepare : UInt8 := 0x16
def mysqlComStmtExecute : UInt8 := 0x17
def mysqlComStmtSendLongData : UInt8 := 0x18
def mysqlComStmtClose : UInt8 := 0x19
def mysqlComStmtReset : UInt8 := 0x1a
def mysqlComStmtFetch : UInt8 := 0x1c
def mysqlComResetConnection : UInt8 := 0x1f
def mysqlOkPacket : UInt8 := 0x00
def mysqlEofPacket : UInt8 := 0xfe
def mysqlErrPacket : UInt8 := 0xff
def mysqlLocalInfilePacket : UInt8 := 0xfb
def maxMysqlOperationBytes : Nat := 64
def maxMysqlResultColumns : Nat := 4096
def mysqlSqlstateBytes : Nat := 5
def mysqlServerMoreResultsExists : Nat := 0x0008
def mysqlServerStatusCursorExists : Nat := 0x0040
def mysqlPacketHeaderBytes : Nat := 4
def mysqlMaxPhysicalPayloadBytes : Nat := 0x00ffffff

inductive MysqlExtraction where
  | packetTooLong | invalidUtf8 | malformedPacket | queryTooLong | unsupportedCommand | unsupportedResponse
  | unexpectedSequence
  deriving DecidableEq, Repr

structure ParsedMysqlCommand where
  operation : Option Bytes
  attributes : List TraceAttribute

structure ParsedMysqlResponse where
  statusCode : Bytes
  errorType : Option Bytes := none
  attributes : List TraceAttribute

/-! ## Packets -/

variable (bytes payload : Bytes)

def mysqlPayloadLen : Nat := leNat (bytes.take 3)

/-- The sequence number and the payload of a packet that is there whole. -/
def packetParts (maxPacketBytes : Nat) : Except MysqlExtraction (UInt8 × Bytes) :=
  if bytes.length < 4 then .error .malformedPacket
  else if mysqlPayloadLen bytes + 4 > maxPacketBytes then .error .packetTooLong
  else if bytes.length < mysqlPayloadLen bytes + 4 then .error .malformedPacket
  else .ok (bytes.getD 3 0, (bytes.drop 4).take (mysqlPayloadLen bytes))

def packetPayload (maxPacketBytes : Nat) : Except MysqlExtraction Bytes :=
  (packetParts bytes maxPacketBytes).map Prod.snd

/-- The sequence number, the length of the payload and what is there of it. -/
def packetPrefixParts (declaredTotalLen : Nat) : Except MysqlExtraction (UInt8 × Nat × Bytes) :=
  if bytes.length < mysqlPacketHeaderBytes then .error .malformedPacket
  else
    let totalLen := mysqlPayloadLen bytes + mysqlPacketHeaderBytes
    if totalLen ≠ declaredTotalLen ∨ bytes.length > totalLen then .error .malformedPacket
    else .ok (bytes.getD 3 0, mysqlPayloadLen bytes, bytes.drop mysqlPacketHeaderBytes)

/-! ## Integers -/

def readFixedWidthInteger (start width : Nat) : Except MysqlExtraction (Nat × Nat) :=
  match getRange bytes start (start + width) with
  | none => .error .malformedPacket
  | some value => .ok (leNat value, start + width)

def readLengthEncodedInteger (cursor : Nat) : Except MysqlExtraction (Nat × Nat) :=
  match bytes[cursor]? with
  | none => .error .malformedPacket
  | some marker =>
    if marker ≤ 0xfa then .ok (marker.toNat, cursor + 1)
    else if marker = 0xfc then readFixedWidthInteger bytes (cursor + 1) 2
    else if marker = 0xfd then readFixedWidthInteger bytes (cursor + 1) 3
    else if marker = 0xfe then readFixedWidthInteger bytes (cursor + 1) 8
    else .error .malformedPacket

/-! ## Kinds of response packets -/

/-- The cursor behind the affected rows and the last insert id of an OK packet. -/
def afterLastInsertId (payload : Bytes) : Except MysqlExtraction Nat := do
  let (_, afterAffectedRows) ← readLengthEncodedInteger payload 1
  let (_, afterLastInsertId) ← readLengthEncodedInteger payload afterAffectedRows
  pure afterLastInsertId

def isOkPacket : Bool :=
  let fieldsFit (minimumLen : Nat) : Bool :=
    if payload.length < minimumLen then false
    else match afterLastInsertId payload with
    | .error _ => false
    | .ok cursor => cursor + 4 ≤ payload.length
  if payload.head? = some mysqlOkPacket then fieldsFit 7
  else if payload.head? = some mysqlEofPacket then fieldsFit 9
  else false

def isEofPacket : Bool := payload.head? = some mysqlEofPacket ∧ payload.length < 9

def readU16Le (start : Nat) : Nat := leNat ((payload.drop start).take 2)

def mysqlStatusFlags : Option Nat :=
  if isEofPacket payload then
    if payload.length ≥ 5 then some (readU16Le payload 3) else none
  else if !isOkPacket payload then none
  else match afterLastInsertId payload with
  | .error _ => none
  | .ok cursor => (getRange payload cursor (cursor + 2)).map leNat

/-- The cursor behind the next values of a row. -/
def skipRowValues (payload : Bytes) : Nat → Nat → Option Nat
  | 0, cursor => some cursor
  | values + 1, cursor =>
    match payload[cursor]? with
    | none => none
    | some marker =>
      if marker = mysqlLocalInfilePacket then skipRowValues payload values (cursor + 1)
      else match readLengthEncodedInteger payload cursor with
      | .error _ => none
      | .ok (valueLen, valueStart) =>
        if valueStart + valueLen > payload.length then none
        else skipRowValues payload values (valueStart + valueLen)

def isTextResultsetRow (columns : Nat) : Bool :=
  skipRowValues payload columns 0 = some payload.length

/-- The cursor behind the next components of a column definition. -/
def skipComponents (payload : Bytes) (maxComponentBytes : Nat) : Nat → Nat → Except MysqlExtraction Nat
  | 0, cursor => .ok cursor
  | components + 1, cursor => do
    let (componentLen, componentStart) ← readLengthEncodedInteger payload cursor
    if componentLen > maxComponentBytes then throw .queryTooLong
    if componentStart + componentLen > payload.length then throw .malformedPacket
    skipComponents payload maxComponentBytes components (componentStart + componentLen)

def validateColumnDefinition41 (maxComponentBytes : Nat) : Except MysqlExtraction Unit := do
  let cursor ← skipComponents payload maxComponentBytes 6 0
  let (fixedFieldsLen, fixedFieldsStart) ← readLengthEncodedInteger payload cursor
  if fixedFieldsLen ≠ 0x0c then throw .malformedPacket
  if fixedFieldsStart + 12 ≠ payload.length then throw .malformedPacket

/-! ## Responses -/

def mysqlResponseAttributes (statusCode : Bytes) (errorType : Option Bytes) (maxAttributes : Nat) :
    List TraceAttribute :=
  pushAttribute maxAttributes "error.type" errorType
    (pushAttribute maxAttributes "db.response.status_code" (some statusCode)
      (pushAttribute maxAttributes "db.system.name" (some (text "mysql")) []))

def mysqlResponse (statusCode : Bytes) (errorType : Option Bytes) (maxAttributes : Nat) : ParsedMysqlResponse :=
  ⟨statusCode, errorType, mysqlResponseAttributes statusCode errorType maxAttributes⟩

def mysqlOkResponse (maxAttributes : Nat) : ParsedMysqlResponse := mysqlResponse (text "OK") none maxAttributes
def mysqlEofResponse (maxAttributes : Nat) : ParsedMysqlResponse := mysqlResponse (text "EOF") none maxAttributes

def isSqlstateByte (byte : UInt8) : Bool := isAsciiDigit byte || isAsciiUppercase byte

def mysqlSqlstate : Except MysqlExtraction (Option Bytes) :=
  if payload.length < 4 ∨ payload[3]? ≠ some 35 then .ok none
  else if payload.length < 4 + mysqlSqlstateBytes then .error .malformedPacket
  else
    let sqlstate := (payload.drop 4).take mysqlSqlstateBytes
    if !validUtf8 sqlstate then .error .invalidUtf8
    else if !sqlstate.all isSqlstateByte then .error .malformedPacket
    else .ok (some sqlstate)

def mysqlErrorResponse (maxAttributes : Nat) : Except MysqlExtraction ParsedMysqlResponse := do
  if payload.length < 3 then throw .malformedPacket
  let vendorCode := decimal (readU16Le payload 1)
  let statusCode := match ← mysqlSqlstate payload with
    | some sqlstate => sqlstate ++ text "/" ++ vendorCode
    | none => vendorCode
  pure (mysqlResponse statusCode (some statusCode) maxAttributes)

def parseResponsePayload (maxAttributes : Nat) : Except MysqlExtraction ParsedMysqlResponse :=
  if payload.head? = some mysqlOkPacket then
    if isOkPacket payload then .ok (mysqlOkResponse maxAttributes) else .error .unsupportedResponse
  else if payload.head? = some mysqlEofPacket then
    if isOkPacket payload then .ok (mysqlOkResponse maxAttributes)
    else if payload.length = 1 ∨ payload.length = 5 then .ok (mysqlEofResponse maxAttributes)
    else .error .unsupportedResponse
  else if payload.head? = some mysqlErrPacket then mysqlErrorResponse payload maxAttributes
  else .error .unsupportedResponse

def parseMysqlResponse (config : ProtocolExtractionConfig) : Except MysqlExtraction ParsedMysqlResponse :=
  if bytes.length > config.maxHeaderBytes then .error .packetTooLong
  else if bytes.length < 5 then .error .malformedPacket
  else do
    let payload ← packetPayload bytes config.maxHeaderBytes
    parseResponsePayload payload config.maxAttributes

/-! ## Commands -/

/-- What starts a comment that ends with its line. -/
def lineComment (query : Bytes) : Option Nat :=
  if (text "--").isPrefixOf query then some 2 else if (text "#").isPrefixOf query then some 1 else none

/-- White space and comments in front of a statement; each turn of the loop takes at least one comment. -/
def skipSqlPrefix : Nat → Bytes → Bytes
  | 0, query => query
  | fuel + 1, query =>
    let query := query.dropWhile isAsciiWhitespace
    match lineComment query with
    | some marker =>
      match findByte (query.drop marker) lf with
      | some nextLine => skipSqlPrefix fuel ((query.drop marker).drop (nextLine + 1))
      | none => []
    | none =>
      if (text "/*").isPrefixOf query then
        match findWindow (text "*/") (query.drop 2) with
        | some commentEnd => skipSqlPrefix fuel ((query.drop 2).drop (commentEnd + 2))
        | none => []
      else query

def mysqlOperation (query : Bytes) : Option Bytes :=
  let word := (skipSqlPrefix (query.length + 1) query).takeWhile isAsciiAlphabetic
  if word.length = 0 || word.length > maxMysqlOperationBytes then none
  else some (word.map toAsciiUppercase)

/-- The operation of a command of which only a part is there: a word that reaches the end of it does not count. -/
def mysqlOperationPrefix : Nat → Bytes → Option Bytes
  | 0, _ => none
  | fuel + 1, query =>
    let query := query.dropWhile isAsciiWhitespace
    if (lineComment query).isSome then
      (findByte query lf).bind fun newline => mysqlOperationPrefix fuel (query.drop (newline + 1))
    else if (text "/*").isPrefixOf query then
      (findWindow (text "*/") query).bind fun commentEnd => mysqlOperationPrefix fuel (query.drop (commentEnd + 2))
    else
      let word := query.takeWhile isAsciiAlphabetic
      if word.length = 0 || word.length = query.length || word.length > maxMysqlOperationBytes then none
      else some (word.map toAsciiUppercase)

def parseQueryBytes (maxQueryBytes : Nat) : Except MysqlExtraction Bytes :=
  if bytes.length > maxQueryBytes then .error .queryTooLong
  else if !validUtf8 bytes then .error .invalidUtf8
  else .ok bytes

def mysqlFixedLengthOperation (expectedLen : Nat) (operation : String) : Except MysqlExtraction (Option Bytes) :=
  if payload.length ≠ expectedLen then .error .malformedPacket else .ok (some (text operation))

def mysqlPingOperation : Except MysqlExtraction (Option Bytes) :=
  mysqlFixedLengthOperation payload 1 "PING"

def mysqlStmtExecuteOperation : Except MysqlExtraction (Option Bytes) :=
  if payload.length < 10 then .error .malformedPacket else .ok (some (text "EXECUTE"))

def mysqlInitDbOperation (maxSchemaBytes : Nat) : Except MysqlExtraction (Option Bytes) := do
  if payload.length < 2 then throw .malformedPacket
  let _ ← parseQueryBytes (payload.drop 1) maxSchemaBytes
  pure (some (text "INIT_DB"))

def mysqlStmtSendLongDataOperation (maxParameterBytes : Nat) : Except MysqlExtraction (Option Bytes) :=
  if payload.length < 7 then .error .malformedPacket
  else if (payload.drop 7).length > maxParameterBytes then .error .queryTooLong
  else .ok (some (text "SEND_LONG_DATA"))

def commandName (command : UInt8) : String :=
  if command = mysqlComQuit then "quit"
  else if command = mysqlComInitDb then "init_db"
  else if command = mysqlComQuery then "query"
  else if command = mysqlComPing then "ping"
  else if command = mysqlComStmtPrepare then "stmt_prepare"
  else if command = mysqlComStmtExecute then "stmt_execute"
  else if command = mysqlComStmtSendLongData then "stmt_send_long_data"
  else if command = mysqlComStmtClose then "stmt_close"
  else if command = mysqlComStmtReset then "stmt_reset"
  else if command = mysqlComStmtFetch then "stmt_fetch"
  else if command = mysqlComResetConnection then "reset_connection"
  else "unknown"

def parsedMysqlCommand (command : UInt8) (operation : Option Bytes) (config : ProtocolExtractionConfig) :
    ParsedMysqlCommand where
  operation := operation
  attributes :=
    pushAttribute config.maxAttributes "db.mysql.command" (some (text (commandName command)))
      (pushAttribute config.maxAttributes "db.operation.name" operation
        (pushAttribute config.maxAttributes "db.system.name" (some (text "mysql")) []))

def commandOperation (command : UInt8) (payload : Bytes) (config : ProtocolExtractionConfig) :
    Except MysqlExtraction (Option Bytes) :=
  if command = mysqlComQuery ∨ command = mysqlComStmtPrepare then
    (parseQueryBytes (payload.drop 1) config.maxRequestLineBytes).map mysqlOperation
  else if command = mysqlComQuit then mysqlFixedLengthOperation payload 1 "QUIT"
  else if command = mysqlComInitDb then mysqlInitDbOperation payload config.maxRequestLineBytes
  else if command = mysqlComStmtExecute then mysqlStmtExecuteOperation payload
  else if command = mysqlComStmtSendLongData then mysqlStmtSendLongDataOperation payload config.maxRequestLineBytes
  else if command = mysqlComStmtClose then mysqlFixedLengthOperation payload 5 "CLOSE"
  else if command = mysqlComStmtReset then mysqlFixedLengthOperation payload 5 "RESET"
  else if command = mysqlComStmtFetch then mysqlFixedLengthOperation payload 9 "FETCH"
  else if command = mysqlComResetConnection then mysqlFixedLengthOperation payload 1 "RESET_CONNECTION"
  else if command = mysqlComPing then mysqlPingOperation payload
  else .error .unsupportedCommand

def parseMysqlCommand (config : ProtocolExtractionConfig) : Except MysqlExtraction ParsedMysqlCommand :=
  if bytes.length > config.maxHeaderBytes then .error .packetTooLong
  else if bytes.length < 5 then .error .malformedPacket
  else do
    let payload ← packetPayload bytes config.maxHeaderBytes
    match payload.head? with
    | none => throw .malformedPacket
    | some command =>
      let operation ← commandOperation command payload config
      pure (parsedMysqlCommand command operation config)

/-- The operation of a command that goes on in further packets. -/
def mysqlLargeCommandOperation (command : UInt8) (payloadPrefix : Bytes) : Except MysqlExtraction (Option Bytes) :=
  let atLeast (len : Nat) (operation : String) : Except MysqlExtraction (Option Bytes) :=
    if payloadPrefix.length ≥ len then .ok (some (text operation)) else .error .malformedPacket
  if command = mysqlComQuery ∨ command = mysqlComStmtPrepare then
    .ok (mysqlOperationPrefix (payloadPrefix.length + 1) (payloadPrefix.drop 1))
  else if command = mysqlComInitDb then atLeast 2 "INIT_DB"
  else if command = mysqlComStmtExecute then atLeast 10 "EXECUTE"
  else if command = mysqlComStmtSendLongData then atLeast 7 "SEND_LONG_DATA"
  else .error .unsupportedCommand

/-- The sequence number has to be zero and the packet one that goes on; the command byte and what follows it. -/
def largeCommandParts (declaredTotalLen : Nat) (config : ProtocolExtractionConfig) :
    Except MysqlExtraction (UInt8 × Bytes) := do
  if bytes.length > config.maxHeaderBytes then throw .packetTooLong
  let (sequence, payloadLen, payloadPrefix) ← packetPrefixParts bytes declaredTotalLen
  if sequence ≠ 0 then throw .unexpectedSequence
  if payloadLen ≠ mysqlMaxPhysicalPayloadBytes then throw .malformedPacket
  match payloadPrefix.head? with
  | none => throw .malformedPacket
  | some command => pure (command, payloadPrefix)

def parseMysqlCommandPrefix (declaredTotalLen : Nat) (config : ProtocolExtractionConfig) :
    Except MysqlExtraction ParsedMysqlCommand := do
  let (command, payloadPrefix) ← largeCommandParts bytes declaredTotalLen config
  let operation ← mysqlLargeCommandOperation command payloadPrefix
  pure (parsedMysqlCommand command operation config)

end ENavigator.Mysql
