import ENavigator.Mysql.Parser

/-!
# What a MySQL command waits for

The state that the tracker keeps for one command until the server has answered it: which packet may come next
(`MysqlResponsePhase`) and with which sequence number. `observePacket` takes one packet of the answer; a packet that
may not come leaves the state as it was.
-/

namespace ENavigator.Mysql

open ENavigator.Correlation

inductive MysqlResponseKind where
  | command | binaryResultset | noResponse | statementFetch | statementPrepare
  deriving DecidableEq, Repr

inductive MysqlResponsePhase where
  | initial
  | columns (remaining total : Nat)
  | rows (columns : Nat) (metadataTerminated : Bool)
  | prepareParameters (remaining columns : Nat)
  | prepareParameterTerminator (columns : Nat)
  | prepareColumns (remaining : Nat)
  | prepareFinalTerminator
  | statementFetchRows
  | localInfileUpload
  | localInfileTerminal
  deriving DecidableEq, Repr

inductive MysqlResponseProgress where
  | continue
  | complete (response : ParsedMysqlResponse)

inductive MysqlClientPacketProgress where
  | continue | uploadComplete

inductive MysqlLogicalPacketProgress where
  | continue | complete

structure MysqlResponseLifecycle where
  kind : MysqlResponseKind
  phase : MysqlResponsePhase := .initial
  nextSequence : UInt8 := 1
  requestContinuation : Bool := false
  responseContinuation : Bool := false
  deriving DecidableEq, Repr

def responseKind (command : UInt8) : MysqlResponseKind :=
  if command = mysqlComStmtPrepare then .statementPrepare
  else if command = mysqlComStmtExecute then .binaryResultset
  else if command = mysqlComStmtFetch then .statementFetch
  else if command = mysqlComQuit ∨ command = mysqlComStmtSendLongData ∨ command = mysqlComStmtClose then .noResponse
  else .command

/-! ## Transitions -/

inductive MysqlResponseTransition where
  | continue (phase : MysqlResponsePhase)
  | moreResults
  | complete (response : ParsedMysqlResponse)

def hasFlag (flag : Nat) (payload : Bytes) : Bool := (mysqlStatusFlags payload).any fun flags => flags &&& flag ≠ 0

def terminalTransition (packet payload : Bytes) (config : ProtocolExtractionConfig) :
    Except MysqlExtraction MysqlResponseTransition := do
  let response ← parseMysqlResponse packet config
  if hasFlag mysqlServerMoreResultsExists payload then pure .moreResults else pure (.complete response)

def prepareInitialTransition (payload : Bytes) (config : ProtocolExtractionConfig) :
    Except MysqlExtraction MysqlResponseTransition :=
  if payload.head? ≠ some mysqlOkPacket ∨ payload.length < 10 then .error .unsupportedResponse
  else if payload[9]? ≠ some 0 ∨ payload.length = 11 then .error .malformedPacket
  else if payload.length ≠ 10 ∧ payload.length ≠ 12 then .error .unsupportedResponse
  else
    let columns := readU16Le payload 5
    let parameters := readU16Le payload 7
    if parameters > 0 then .ok (.continue (.prepareParameters parameters columns))
    else if columns > 0 then .ok (.continue (.prepareColumns columns))
    else .ok (.complete (mysqlOkResponse config.maxAttributes))

def initialTransition (kind : MysqlResponseKind) (packet payload : Bytes) (config : ProtocolExtractionConfig) :
    Except MysqlExtraction MysqlResponseTransition :=
  match kind with
  | .statementPrepare => prepareInitialTransition payload config
  | .statementFetch =>
    if isEofPacket payload || payload.head? = some mysqlEofPacket then terminalTransition packet payload config
    else if payload.head? = some mysqlOkPacket then .ok (.continue .statementFetchRows)
    else .error .unsupportedResponse
  | _ =>
    if isOkPacket payload || isEofPacket payload then terminalTransition packet payload config
    else if payload.head? = some mysqlLocalInfilePacket then
      if kind ≠ .command then .error .unsupportedResponse else .ok (.continue .localInfileUpload)
    else do
      let (columns, consumed) ← readLengthEncodedInteger payload 0
      if consumed ≠ payload.length ∨ columns = 0 ∨ columns > maxMysqlResultColumns then throw .unsupportedResponse
      pure (.continue (.columns columns columns))

/-- One of the column definitions that are announced; `next` is the phase behind it by how many are left. -/
def columnTransition (payload : Bytes) (config : ProtocolExtractionConfig) (remaining : Nat)
    (next : Nat → MysqlResponsePhase) : Except MysqlExtraction MysqlResponseTransition := do
  validateColumnDefinition41 payload config.maxRequestLineBytes
  match remaining with
  | 0 => throw .malformedPacket
  | remaining + 1 => pure (.continue (next remaining))

def rowsTransition (kind : MysqlResponseKind) (columns : Nat) (metadataTerminated : Bool) (packet payload : Bytes)
    (config : ProtocolExtractionConfig) : Except MysqlExtraction MysqlResponseTransition :=
  let row : MysqlResponseTransition := .continue (.rows columns true)
  if !metadataTerminated && isEofPacket payload then
    if kind = .binaryResultset ∧ hasFlag mysqlServerStatusCursorExists payload then
      terminalTransition packet payload config
    else .ok row
  else if kind = .binaryResultset ∧ payload.head? = some mysqlOkPacket then .ok row
  else if isTextResultsetRow payload columns then .ok row
  else if isOkPacket payload || isEofPacket payload then terminalTransition packet payload config
  else .error .unsupportedResponse

def responseTransition (kind : MysqlResponseKind) (phase : MysqlResponsePhase) (payload packet : Bytes)
    (config : ProtocolExtractionConfig) : Except MysqlExtraction MysqlResponseTransition :=
  if payload.head? = some mysqlErrPacket then terminalTransition packet payload config
  else match phase with
  | .initial => initialTransition kind packet payload config
  | .columns remaining total =>
    columnTransition payload config remaining fun remaining =>
      if remaining = 0 then .rows total false else .columns remaining total
  | .rows columns metadataTerminated => rowsTransition kind columns metadataTerminated packet payload config
  | .prepareParameters remaining columns =>
    columnTransition payload config remaining fun remaining =>
      if remaining = 0 then .prepareParameterTerminator columns else .prepareParameters remaining columns
  | .prepareParameterTerminator columns =>
    if !isEofPacket payload then .error .unsupportedResponse
    else if columns = 0 then terminalTransition packet payload config
    else .ok (.continue (.prepareColumns columns))
  | .prepareColumns remaining =>
    columnTransition payload config remaining fun remaining =>
      if remaining = 0 then .prepareFinalTerminator else .prepareColumns remaining
  | .prepareFinalTerminator =>
    if !isEofPacket payload && !isOkPacket payload then .error .unsupportedResponse
    else terminalTransition packet payload config
  | .statementFetchRows =>
    if isEofPacket payload || payload.head? = some mysqlEofPacket then terminalTransition packet payload config
    else if payload.head? = some mysqlOkPacket then .ok (.continue .statementFetchRows)
    else .error .unsupportedResponse
  | .localInfileUpload => .error .unsupportedResponse
  | .localInfileTerminal =>
    if isOkPacket payload || isEofPacket payload then terminalTransition packet payload config
    else .error .unsupportedResponse

/-! ## Packets -/

variable (lifecycle : MysqlResponseLifecycle) (bytes : Bytes)

namespace MysqlResponseLifecycle

def fromRequest (config : ProtocolExtractionConfig) : Except MysqlExtraction MysqlResponseLifecycle := do
  if bytes.length > config.maxHeaderBytes then throw .packetTooLong
  let (sequence, payload) ← packetParts bytes config.maxHeaderBytes
  if sequence ≠ 0 then throw .unexpectedSequence
  match payload.head? with
  | none => throw .malformedPacket
  | some command => pure { kind := responseKind command }

def fromRequestPrefix (declaredTotalLen : Nat) (config : ProtocolExtractionConfig) :
    Except MysqlExtraction MysqlResponseLifecycle := do
  let (command, payloadPrefix) ← largeCommandParts bytes declaredTotalLen config
  let _ ← mysqlLargeCommandOperation command payloadPrefix
  pure { kind := responseKind command, requestContinuation := true }

def expectsResponse : Bool := lifecycle.kind ≠ .noResponse

def advance : MysqlResponseTransition → MysqlResponseProgress × MysqlResponseLifecycle
  | .continue phase => (.continue, { lifecycle with phase := phase, nextSequence := lifecycle.nextSequence + 1 })
  | .moreResults => (.continue, { lifecycle with phase := .initial, nextSequence := lifecycle.nextSequence + 1 })
  | .complete response => (.complete response, { lifecycle with nextSequence := lifecycle.nextSequence + 1 })

def observePacket (config : ProtocolExtractionConfig) :
    Except MysqlExtraction (MysqlResponseProgress × MysqlResponseLifecycle) := do
  if lifecycle.requestContinuation then throw .unsupportedResponse
  if bytes.length > config.maxHeaderBytes then throw .packetTooLong
  let (sequence, payload) ← packetParts bytes config.maxHeaderBytes
  if sequence ≠ lifecycle.nextSequence then throw .unexpectedSequence
  if lifecycle.responseContinuation then
    pure (.continue, { lifecycle with
      nextSequence := lifecycle.nextSequence + 1
      responseContinuation := payload.length = mysqlMaxPhysicalPayloadBytes })
  else
    let transition ← responseTransition lifecycle.kind lifecycle.phase payload bytes config
    pure (lifecycle.advance transition)

def observeRequestContinuation (declaredTotalLen : Nat) :
    Except MysqlExtraction (MysqlLogicalPacketProgress × MysqlResponseLifecycle) := do
  if !lifecycle.requestContinuation then throw .unsupportedResponse
  let (sequence, payloadLen, _) ← packetPrefixParts bytes declaredTotalLen
  if sequence ≠ lifecycle.nextSequence then throw .unexpectedSequence
  let lifecycle := { lifecycle with nextSequence := lifecycle.nextSequence + 1 }
  if payloadLen = mysqlMaxPhysicalPayloadBytes then pure (.continue, lifecycle)
  else pure (.complete, { lifecycle with requestContinuation := false })

/-- A packet of an answer that goes on; only rows may be as long. -/
def observeResponsePrefix (declaredTotalLen : Nat) :
    Except MysqlExtraction (MysqlResponseProgress × MysqlResponseLifecycle) := do
  if lifecycle.requestContinuation then throw .unsupportedResponse
  let (sequence, payloadLen, _) ← packetPrefixParts bytes declaredTotalLen
  if sequence ≠ lifecycle.nextSequence then throw .unexpectedSequence
  if payloadLen ≠ mysqlMaxPhysicalPayloadBytes then throw .unsupportedResponse
  let inRows := match lifecycle.phase with
    | .rows _ _ | .statementFetchRows => true
    | _ => false
  if !lifecycle.responseContinuation && !inRows then throw .unsupportedResponse
  pure (.continue, { lifecycle with nextSequence := lifecycle.nextSequence + 1, responseContinuation := true })

def ownsRequestContinuation : Bool := lifecycle.requestContinuation

def observeClientPacket (declaredTotalLen : Nat) :
    Except MysqlExtraction (MysqlClientPacketProgress × MysqlResponseLifecycle) := do
  if lifecycle.phase ≠ .localInfileUpload ∨ bytes.length < 4 then throw .unsupportedResponse
  let totalLen := mysqlPayloadLen bytes + 4
  if totalLen ≠ declaredTotalLen ∨ bytes.length > totalLen then throw .malformedPacket
  if bytes.getD 3 0 ≠ lifecycle.nextSequence then throw .unexpectedSequence
  let lifecycle := { lifecycle with nextSequence := lifecycle.nextSequence + 1 }
  if mysqlPayloadLen bytes = 0 then pure (.uploadComplete, { lifecycle with phase := .localInfileTerminal })
  else pure (.continue, lifecycle)

def ownsLocalInfileClientPackets : Bool :=
  lifecycle.phase = .localInfileUpload ∨ lifecycle.phase = .localInfileTerminal

end MysqlResponseLifecycle

end ENavigator.Mysql
