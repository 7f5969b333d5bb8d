import ENavigator.Correlation.Observation

/-!
# PostgreSQL messages

The messages of both sides as `postgres.rs` reads them: which are accepted, and what is kept of them. The body of
a message is read with a cursor, which is the state of `Read`.
-/

namespace ENavigator.Postgres

open ENavigator.Correlation

def maxPostgresOperationBytes : Nat := 64
def maxPostgresStatementNameBytes : Nat := 128
def maxPostgresBindItems : Nat := 1024
def postgresSqlstateBytes : Nat := 5
def postgresProtocol30 : Nat := 196608
def postgresCancelRequestCode : Nat := 80877102
def postgresSslRequestCode : Nat := 80877103
def postgresGssEncryptionRequestCode : Nat := 80877104
def maxPostgresStartupParameters : Nat := 64

inductive PostgresExtraction where
  | frameTooLong | invalidUtf8 | malformedFrame | queryTooLong | unsupportedMessage | unexpectedMessage
  | missingSqlstate

structure ParsedPostgresQuery where
  operation : Option Bytes
  attributes : List TraceAttribute

structure ParsedPostgresResponse where
  statusCode : Bytes
  errorType : Option Bytes := none
  attributes : List TraceAttribute
  deriving DecidableEq, Repr

inductive PostgresStartupKind where
  | startup | sslRequest | gssEncryptionRequest | cancelRequest
  deriving DecidableEq, Repr

structure ParsedPostgresStartup where
  kind : PostgresStartupKind
  operation : Option Bytes
  attributes : List TraceAttribute

/-! ## Reading with a cursor -/

abbrev Read := StateT Nat (Except PostgresExtraction)

variable (body bytes : Bytes) (config : ProtocolExtractionConfig)

def skipBytes (len : Nat) : Read Unit := do
  let cursor ← get
  if cursor + len > bytes.length then throw .malformedFrame
  set (cursor + len)

/-- The next `width` bytes as a number in network order. -/
def readBe (width : Nat) (bytes : Bytes) : Read Nat := do
  let cursor ← get
  match getRange bytes cursor (cursor + width) with
  | none => throw .malformedFrame
  | some raw =>
    set (cursor + width)
    pure (beNat raw)

def readU16BeCursor : Read Nat := readBe 2 bytes
def readU32BeCursor : Read Nat := readBe 4 bytes
def readI32BeCursor : Read Int := do
  let value ← readBe 4 bytes
  pure (signed 32 value)

def parseCstring (maxBytes : Nat) : Read Bytes := do
  let start ← get
  match findByte (bytes.drop start) 0 with
  | none => throw .malformedFrame
  | some endOffset =>
    if endOffset > maxBytes then throw .queryTooLong
    let value := (bytes.drop start).take endOffset
    if !validUtf8 value then throw .invalidUtf8
    set (start + endOffset + 1)
    pure value

def skipCstring : Read Unit := do
  let start ← get
  match findByte (bytes.drop start) 0 with
  | none => throw .malformedFrame
  | some endOffset => set (start + endOffset + 1)

def atEnd : Read Unit := do
  let cursor ← get
  if cursor ≠ bytes.length then throw .malformedFrame

def readFrom (cursor : Nat) {α : Type} (read : Read α) : Except PostgresExtraction α :=
  (read.run cursor).map Prod.fst

def times (read : Read Unit) : Nat → Read Unit
  | 0 => pure ()
  | n + 1 => do
    read
    times read n

def readCount : Read Nat := do
  let count ← readU16BeCursor bytes
  if count > maxPostgresBindItems then throw .queryTooLong
  pure count

/-- A value behind its length, or the null value. -/
def skipValue (maxValueBytes : Nat) : Read Unit := do
  let len ← readI32BeCursor bytes
  if len = -1 then pure ()
  else if len < 0 then throw .malformedFrame
  else if len.toNat > maxValueBytes then throw .queryTooLong
  else skipBytes bytes len.toNat

def frameBody (maxFrameBytes : Nat) : Except PostgresExtraction Bytes :=
  let declaredLen := beNat ((bytes.drop 1).take 4)
  if declaredLen < 4 then .error .malformedFrame
  else if declaredLen + 1 > maxFrameBytes then .error .frameTooLong
  else if bytes.length < declaredLen + 1 then .error .malformedFrame
  else .ok ((bytes.drop 5).take (declaredLen + 1 - 5))

/-! ## Frontend messages -/

def parseSimpleQuery (maxQueryBytes : Nat) : Except PostgresExtraction Bytes :=
  readFrom 0 do
    let query ← parseCstring body maxQueryBytes
    atEnd body
    pure query

def parseParseMessage (maxQueryBytes : Nat) : Except PostgresExtraction Bytes :=
  readFrom 0 do
    let _ ← parseCstring body maxPostgresStatementNameBytes
    let query ← parseCstring body maxQueryBytes
    let parameterCount ← readU16BeCursor body
    let cursor ← get
    if body.length - cursor ≠ parameterCount * 4 then throw .malformedFrame
    pure query

/-- The formats, values and result formats of a bind or of a function call. -/
def skipArguments (maxArgumentBytes : Nat) : Read Unit := do
  let formats ← readCount body
  skipBytes body (formats * 2)
  let values ← readCount body
  times (skipValue body maxArgumentBytes) values

def parseBindMessage (maxParameterBytes : Nat) : Except PostgresExtraction Bytes :=
  readFrom 0 do
    let _ ← parseCstring body maxPostgresStatementNameBytes
    let _ ← parseCstring body maxPostgresStatementNameBytes
    skipArguments body maxParameterBytes
    let resultFormats ← readCount body
    skipBytes body (resultFormats * 2)
    atEnd body
    pure (text "BIND")

def parseNamedStatementOrPortalTarget : Except PostgresExtraction Unit :=
  match body.head? with
  | some 83 | some 80 => readFrom 1 do
    let _ ← parseCstring body maxPostgresStatementNameBytes
    atEnd body
  | _ => .error .malformedFrame

def parseDescribeMessage : Except PostgresExtraction Bytes := do
  parseNamedStatementOrPortalTarget body
  pure (text "DESCRIBE")

def parseCloseMessage : Except PostgresExtraction Bytes := do
  parseNamedStatementOrPortalTarget body
  pure (text "CLOSE")

def parseExecuteMessage : Except PostgresExtraction Bytes :=
  readFrom 0 do
    let _ ← parseCstring body maxPostgresStatementNameBytes
    let cursor ← get
    if body.length - cursor ≠ 4 then throw .malformedFrame
    pure (text "EXECUTE")

def parseFunctionCallMessage (maxArgumentBytes : Nat) : Except PostgresExtraction Bytes :=
  readFrom 0 do
    skipBytes body 4
    skipArguments body maxArgumentBytes
    let resultFormats ← readCount body
    skipBytes body (resultFormats * 2)
    atEnd body
    pure (text "FUNCTION_CALL")

def parseTextMessage (name : String) (body : Bytes) (maxBytes : Nat) : Except PostgresExtraction Bytes :=
  readFrom 0 do
    let _ ← parseCstring body maxBytes
    atEnd body
    pure (text name)

def parseCopyDataMessage : Bytes := text "COPY_DATA"

def parseCopyFailMessage (maxErrorMessageBytes : Nat) : Except PostgresExtraction Bytes :=
  parseTextMessage "COPY_FAIL" body maxErrorMessageBytes

def parsePasswordMessage (maxPasswordBytes : Nat) : Except PostgresExtraction Bytes :=
  parseTextMessage "PASSWORD" body maxPasswordBytes

def parseEmptyMessage (name : String) (body : Bytes) : Except PostgresExtraction Bytes :=
  if body.isEmpty then .ok (text name) else .error .malformedFrame

def parseCopyDoneMessage : Except PostgresExtraction Bytes := parseEmptyMessage "COPY_DONE" body
def parseSyncMessage : Except PostgresExtraction Bytes := parseEmptyMessage "SYNC" body
def parseFlushMessage : Except PostgresExtraction Bytes := parseEmptyMessage "FLUSH" body
def parseTerminateMessage : Except PostgresExtraction Bytes := parseEmptyMessage "TERMINATE" body

/-- White space and comments in front of a statement; each turn of the loop takes at least one comment. -/
def skipSqlPrefix : Nat → Bytes → Bytes
  | 0, query => query
  | fuel + 1, query =>
    let query := query.dropWhile isAsciiWhitespace
    if (text "--").isPrefixOf query then
      match findByte (query.drop 2) lf with
      | some nextLine => skipSqlPrefix fuel ((query.drop 2).drop (nextLine + 1))
      | none => []
    else if (text "/*").isPrefixOf query then
      match findWindow (text "*/") (query.drop 2) with
      | some commentEnd => skipSqlPrefix fuel ((query.drop 2).drop (commentEnd + 2))
      | none => []
    else query

def postgresOperation (query : Bytes) : Option Bytes :=
  let word := (skipSqlPrefix (query.length + 1) query).takeWhile isAsciiAlphabetic
  if word.length = 0 || word.length > maxPostgresOperationBytes then none
  else some (word.map toAsciiUppercase)

def messageTypeName : UInt8 → String
  | 81 => "query"
  | 80 => "parse"
  | 66 => "bind"
  | 68 => "describe"
  | 67 => "close"
  | 69 => "execute"
  | 70 => "function_call"
  | 100 => "copy_data"
  | 99 => "copy_done"
  | 102 => "copy_fail"
  | 112 => "password"
  | 83 => "sync"
  | 72 => "flush"
  | 88 => "terminate"
  | _ => "unknown"

def parseMessageBody (messageType : UInt8) (body : Bytes) (config : ProtocolExtractionConfig) :
    Except PostgresExtraction Bytes :=
  match messageType with
  | 81 => parseSimpleQuery body config.maxRequestLineBytes
  | 80 => parseParseMessage body config.maxRequestLineBytes
  | 66 => parseBindMessage body config.maxRequestLineBytes
  | 68 => parseDescribeMessage body
  | 67 => parseCloseMessage body
  | 69 => parseExecuteMessage body
  | 70 => parseFunctionCallMessage body config.maxRequestLineBytes
  | 100 => .ok parseCopyDataMessage
  | 99 => parseCopyDoneMessage body
  | 102 => parseCopyFailMessage body config.maxRequestLineBytes
  | 112 => parsePasswordMessage body config.maxRequestLineBytes
  | 83 => parseSyncMessage body
  | 72 => parseFlushMessage body
  | 88 => parseTerminateMessage body
  | _ => .error .unsupportedMessage

def messageOperation (messageType : UInt8) (query : Bytes) : Option Bytes :=
  match messageType with
  | 66 => some (text "BIND")
  | 68 => some (text "DESCRIBE")
  | 67 => some (text "CLOSE")
  | 69 => some (text "EXECUTE")
  | 70 => some (text "FUNCTION_CALL")
  | 100 => some (text "COPY_DATA")
  | 99 => some (text "COPY_DONE")
  | 102 => some (text "COPY_FAIL")
  | 112 => some (text "PASSWORD")
  | 83 => some (text "SYNC")
  | 72 => some (text "FLUSH")
  | 88 => some (text "TERMINATE")
  | _ => postgresOperation query

/-- The type byte and the body of a message of either side. -/
def messageParts : Except PostgresExtraction (UInt8 × Bytes) :=
  if bytes.length > config.maxHeaderBytes then .error .frameTooLong
  else if bytes.length < 5 then .error .malformedFrame
  else (frameBody bytes config.maxHeaderBytes).map fun body => (bytes.headD 0, body)

def parsePostgresMessage : Except PostgresExtraction ParsedPostgresQuery := do
  let (messageType, body) ← messageParts bytes config
  let query ← parseMessageBody messageType body config
  let operation := messageOperation messageType query
  pure
    { operation := operation
      attributes :=
        pushAttribute config.maxAttributes "db.postgresql.message.type" (some (text (messageTypeName messageType)))
          (pushAttribute config.maxAttributes "db.operation.name" operation
            (pushAttribute config.maxAttributes "db.system.name" (some (text "postgresql")) [])) }

/-! ## Startup messages -/

def validateStartupParameters (bytes : Bytes) (maxParameterBytes : Nat) : Nat → Read Unit
  | 0 => throw .queryTooLong
  | parameters + 1 => do
    let cursor ← get
    if bytes[cursor]? = some 0 then
      if cursor + 1 ≠ bytes.length then throw .malformedFrame
    else
      let key ← parseCstring bytes maxParameterBytes
      if key.isEmpty then throw .malformedFrame
      let _ ← parseCstring bytes maxParameterBytes
      validateStartupParameters bytes maxParameterBytes parameters

def startupMessage (kind : PostgresStartupKind) (operation messageType : String) (config : ProtocolExtractionConfig) :
    ParsedPostgresStartup where
  kind := kind
  operation := some (text operation)
  attributes :=
    pushAttribute config.maxAttributes "db.postgresql.message.type" (some (text messageType))
      (pushAttribute config.maxAttributes "db.operation.name" (some (text operation))
        (pushAttribute config.maxAttributes "db.system.name" (some (text "postgresql")) []))

def parsePostgresStartupMessage : Except PostgresExtraction ParsedPostgresStartup :=
  if bytes.length > config.maxHeaderBytes then .error .frameTooLong
  else if bytes.length < 8 then .error .malformedFrame
  else if beNat (bytes.take 4) ≠ bytes.length then .error .malformedFrame
  else
    let code := beNat ((bytes.drop 4).take 4)
    if code = postgresProtocol30 then do
      readFrom 0 (validateStartupParameters (bytes.drop 8) config.maxRequestLineBytes maxPostgresStartupParameters)
      pure (startupMessage .startup "CONNECT" "startup" config)
    else if code = postgresSslRequestCode ∧ bytes.length = 8 then
      .ok (startupMessage .sslRequest "SSL_NEGOTIATE" "ssl_request" config)
    else if code = postgresGssEncryptionRequestCode ∧ bytes.length = 8 then
      .ok (startupMessage .gssEncryptionRequest "GSS_NEGOTIATE" "gss_encryption_request" config)
    else if code = postgresCancelRequestCode ∧ bytes.length = 16 then
      .ok (startupMessage .cancelRequest "CANCEL" "cancel_request" config)
    else .error .unsupportedMessage

/-! ## Backend messages -/

def postgresResponseAttributes (statusCode : Bytes) (errorType : Option Bytes) (maxAttributes : Nat) :
    List TraceAttribute :=
  pushAttribute maxAttributes "error.type" errorType
    (pushAttribute maxAttributes "db.response.status_code" (some statusCode)
      (pushAttribute maxAttributes "db.system.name" (some (text "postgresql")) []))

def postgresResponse (statusCode : Bytes) (errorType : Option Bytes) (maxAttributes : Nat) :
    ParsedPostgresResponse :=
  ⟨statusCode, errorType, postgresResponseAttributes statusCode errorType maxAttributes⟩

/-- A body that is read to its end and of which nothing is kept. -/
def okResponse (read : Read Unit) (body : Bytes) (maxAttributes : Nat) :
    Except PostgresExtraction ParsedPostgresResponse := do
  readFrom 0 do
    read
    atEnd body
  pure (postgresResponse (text "OK") none maxAttributes)

def postgresEmptyOkResponse (maxAttributes : Nat) : Except PostgresExtraction ParsedPostgresResponse :=
  okResponse (pure ()) body maxAttributes

def postgresCommandCompleteResponse :=
  okResponse (do let _ ← parseCstring body config.maxRequestLineBytes) body config.maxAttributes

def postgresNotificationResponse :=
  okResponse (do
    skipBytes body 4
    let _ ← parseCstring body config.maxRequestLineBytes
    let _ ← parseCstring body config.maxRequestLineBytes) body config.maxAttributes

def postgresDataRowResponse :=
  okResponse (do
    let columns ← readCount body
    times (skipValue body config.maxRequestLineBytes) columns) body config.maxAttributes

def postgresCopyModeResponse (maxAttributes : Nat) :=
  okResponse (do
    skipBytes body 1
    let columns ← readCount body
    skipBytes body (columns * 2)) body maxAttributes

def postgresCopyDataResponse (maxAttributes : Nat) : Except PostgresExtraction ParsedPostgresResponse :=
  .ok (postgresResponse (text "OK") none maxAttributes)

def postgresFunctionCallResponse :=
  okResponse (skipValue body config.maxRequestLineBytes) body config.maxAttributes

def postgresParameterStatusResponse :=
  okResponse (do
    let _ ← parseCstring body config.maxRequestLineBytes
    let _ ← parseCstring body config.maxRequestLineBytes) body config.maxAttributes

def postgresRowDescriptionResponse :=
  okResponse (do
    let fields ← readCount body
    times (do
      let _ ← parseCstring body config.maxRequestLineBytes
      skipBytes body 18) fields) body config.maxAttributes

def postgresParameterDescriptionResponse (maxAttributes : Nat) :=
  okResponse (do
    let parameters ← readCount body
    skipBytes body (parameters * 4)) body maxAttributes

def postgresNegotiateProtocolVersionResponse :=
  okResponse (do
    skipBytes body 4
    let options ← readI32BeCursor body
    if options < 0 then throw .malformedFrame
    if options.toNat > maxPostgresBindItems then throw .queryTooLong
    times (do let _ ← parseCstring body config.maxRequestLineBytes) options.toNat) body config.maxAttributes

def postgresBackendKeyDataResponse (maxAttributes : Nat) :=
  okResponse (skipBytes body 8) body maxAttributes

def postgresReadyForQueryResponse (maxAttributes : Nat) : Except PostgresExtraction ParsedPostgresResponse :=
  let response (status code : String) (errorType : Option Bytes) : ParsedPostgresResponse :=
    { statusCode := text code
      errorType := errorType
      attributes := pushAttribute maxAttributes "db.postgresql.transaction.status" (some (text status))
        (postgresResponseAttributes (text code) errorType maxAttributes) }
  match body with
  | [73] => .ok (response "idle" "OK" none)
  | [84] => .ok (response "transaction" "OK" none)
  | [69] => .ok (response "failed_transaction" "FAILED_TRANSACTION" (some (text "postgresql_failed_transaction")))
  | _ => .error .malformedFrame

def isSqlstateByte (byte : UInt8) : Bool := isAsciiDigit byte || isAsciiUppercase byte

/-- The fields of an error or a notice up to the one with the code; a field takes at least two bytes. -/
def postgresSqlstateFrom (body : Bytes) : Nat → Read (Option Bytes)
  | 0 => throw .malformedFrame
  | fields + 1 => do
    let cursor ← get
    match body[cursor]? with
    | none => throw .malformedFrame
    | some fieldType =>
      set (cursor + 1)
      if fieldType = 0 then pure none
      else if fieldType = 67 then
        let value ← parseCstring body postgresSqlstateBytes
        if value.length ≠ postgresSqlstateBytes || !value.all isSqlstateByte then throw .malformedFrame
        pure (some value)
      else
        skipCstring body
        postgresSqlstateFrom body fields

def postgresSqlstate : Except PostgresExtraction (Option Bytes) :=
  readFrom 0 (postgresSqlstateFrom body (body.length + 1))

def postgresErrorResponse (maxAttributes : Nat) : Except PostgresExtraction ParsedPostgresResponse := do
  match ← postgresSqlstate body with
  | none => throw .missingSqlstate
  | some statusCode => pure (postgresResponse statusCode (some statusCode) maxAttributes)

def postgresNoticeResponse (maxAttributes : Nat) : Except PostgresExtraction ParsedPostgresResponse := do
  match ← postgresSqlstate body with
  | none => throw .missingSqlstate
  | some statusCode => pure (postgresResponse statusCode none maxAttributes)

/-- Each mechanism takes at least one byte. -/
def parseAuthenticationSaslMechanisms (bytes : Bytes) (maxMechanismBytes : Nat) : Nat → Read Unit
  | 0 => throw .malformedFrame
  | mechanisms + 1 => do
    let mechanism ← parseCstring bytes maxMechanismBytes
    if mechanism.isEmpty then pure ()
    else parseAuthenticationSaslMechanisms bytes maxMechanismBytes mechanisms

def postgresAuthenticationResponse : Except PostgresExtraction ParsedPostgresResponse := do
  let authCode ← readFrom 0 do
    let authCode ← readU32BeCursor body
    if authCode ∈ [0, 2, 3, 6, 7, 9] then atEnd body
    else if authCode = 5 then
      skipBytes body 4
      atEnd body
    else if authCode ∈ [8, 11, 12] then pure ()
    else if authCode = 10 then
      parseAuthenticationSaslMechanisms body config.maxRequestLineBytes (body.length + 1)
      atEnd body
    else throw .unsupportedMessage
    pure authCode
  pure (postgresResponse (text (if authCode = 0 then "OK" else "AUTHENTICATION_REQUIRED")) none config.maxAttributes)

def parseResponseBody (messageType : UInt8) (body : Bytes) (config : ProtocolExtractionConfig) :
    Except PostgresExtraction ParsedPostgresResponse :=
  match messageType with
  | 49 | 50 | 51 | 73 | 99 | 110 | 115 => postgresEmptyOkResponse body config.maxAttributes
  | 65 => postgresNotificationResponse body config
  | 67 => postgresCommandCompleteResponse body config
  | 68 => postgresDataRowResponse body config
  | 69 => postgresErrorResponse body config.maxAttributes
  | 71 | 72 | 87 => postgresCopyModeResponse body config.maxAttributes
  | 75 => postgresBackendKeyDataResponse body config.maxAttributes
  | 78 => postgresNoticeResponse body config.maxAttributes
  | 82 => postgresAuthenticationResponse body config
  | 83 => postgresParameterStatusResponse body config
  | 84 => postgresRowDescriptionResponse body config
  | 86 => postgresFunctionCallResponse body config
  | 90 => postgresReadyForQueryResponse body config.maxAttributes
  | 100 => postgresCopyDataResponse config.maxAttributes
  | 116 => postgresParameterDescriptionResponse body config.maxAttributes
  | 118 => postgresNegotiateProtocolVersionResponse body config
  | _ => .error .unsupportedMessage

def parsePostgresResponse : Except PostgresExtraction ParsedPostgresResponse := do
  let (messageType, body) ← messageParts bytes config
  parseResponseBody messageType body config

/-! ## What an accepted message is -/

variable {body bytes config} {r : ParsedPostgresResponse}

theorem messageParts_ok {messageType : UInt8} (h : messageParts bytes config = .ok (messageType, body)) :
    bytes.head? = some messageType ∧ frameBody bytes config.maxHeaderBytes = .ok body := by
  unfold messageParts at h
  split at h
  · cases h
  split at h
  · cases h
  next hlen =>
    rcases hbody : frameBody bytes config.maxHeaderBytes with e | body'
    · rw [hbody] at h
      cases h
    · rw [hbody] at h
      cases h
      rcases bytes with _ | ⟨first, rest⟩
      · exact absurd (Nat.zero_lt_succ 4) hlen
      · exact ⟨rfl, rfl⟩

/-- The attributes of a response begin with the system and the status. -/
def StatusFirst (r : ParsedPostgresResponse) : Prop :=
  ∃ more, r.attributes =
    ⟨"db.system.name", text "postgresql"⟩ :: ⟨"db.response.status_code", r.statusCode⟩ :: more

theorem pushAttribute_cons (maxAttributes : Nat) (key : String) (value : Option Bytes) (a b : TraceAttribute)
    (more : List TraceAttribute) :
    ∃ more', pushAttribute maxAttributes key value (a :: b :: more) = a :: b :: more' := by
  unfold pushAttribute
  split
  · exact ⟨more, rfl⟩
  · split
    · exact ⟨more ++ [_], rfl⟩
    · exact ⟨more, rfl⟩

section
variable {maxAttributes : Nat} (hmax : 2 ≤ maxAttributes)
include hmax

theorem responseAttributes_cons (statusCode : Bytes) (errorType : Option Bytes) :
    ∃ more, postgresResponseAttributes statusCode errorType maxAttributes =
      ⟨"db.system.name", text "postgresql"⟩ :: ⟨"db.response.status_code", statusCode⟩ :: more := by
  have htwo : pushAttribute maxAttributes "db.response.status_code" (some statusCode)
      (pushAttribute maxAttributes "db.system.name" (some (text "postgresql")) []) =
      [⟨"db.system.name", text "postgresql"⟩, ⟨"db.response.status_code", statusCode⟩] := by
    have hnone : ¬ ([] : List TraceAttribute).length ≥ maxAttributes := by
      rw [List.length_nil]
      omega
    have hone : ¬ [(⟨"db.system.name", text "postgresql"⟩ : TraceAttribute)].length ≥ maxAttributes := by
      rw [List.length_singleton]
      omega
    unfold pushAttribute
    rw [if_neg hnone]
    exact if_neg hone
  unfold postgresResponseAttributes
  rw [htwo]
  exact pushAttribute_cons _ _ _ _ _ _

theorem statusFirst_response (statusCode : Bytes) (errorType : Option Bytes) :
    StatusFirst (postgresResponse statusCode errorType maxAttributes) :=
  responseAttributes_cons hmax statusCode errorType

theorem statusFirst_okResponse {read : Read Unit} (h : okResponse read body maxAttributes = .ok r) : StatusFirst r := by
  unfold okResponse at h
  rcases hread : readFrom 0 (do read; atEnd body) with e | u
  · rw [hread] at h
    cases h
  · rw [hread] at h
    cases h
    exact statusFirst_response hmax _ _

theorem statusFirst_readyForQuery (h : postgresReadyForQueryResponse body maxAttributes = .ok r) : StatusFirst r := by
  have hready : ∀ (code status : Bytes) (errorType : Option Bytes),
      StatusFirst ⟨code, errorType, pushAttribute maxAttributes "db.postgresql.transaction.status" (some status)
        (postgresResponseAttributes code errorType maxAttributes)⟩ := by
    intro code status errorType
    obtain ⟨more, hmore⟩ := responseAttributes_cons hmax code errorType
    obtain ⟨more', hmore'⟩ := pushAttribute_cons maxAttributes "db.postgresql.transaction.status" (some status)
      ⟨"db.system.name", text "postgresql"⟩ ⟨"db.response.status_code", code⟩ more
    exact ⟨more', by rw [← hmore', ← hmore]⟩
  unfold postgresReadyForQueryResponse at h
  split at h <;> cases h
  all_goals exact hready _ _ _

theorem statusFirst_error (h : postgresErrorResponse body maxAttributes = .ok r) : StatusFirst r := by
  unfold postgresErrorResponse at h
  rcases hstate : postgresSqlstate body with e | _ | statusCode <;> rw [hstate] at h <;> cases h
  exact statusFirst_response hmax _ _

theorem statusFirst_notice (h : postgresNoticeResponse body maxAttributes = .ok r) : StatusFirst r := by
  unfold postgresNoticeResponse at h
  rcases hstate : postgresSqlstate body with e | _ | statusCode <;> rw [hstate] at h <;> cases h
  exact statusFirst_response hmax _ _

end

theorem statusFirst_authentication (hmax : 2 ≤ config.maxAttributes)
    (h : postgresAuthenticationResponse body config = .ok r) : StatusFirst r := by
  obtain ⟨code, -, hcode⟩ := bind_eq_ok h
  cases hcode
  exact statusFirst_response hmax _ _

theorem statusFirst_of_accepted (hmax : 2 ≤ config.maxAttributes)
    (h : parsePostgresResponse bytes config = .ok r) : StatusFirst r := by
  obtain ⟨⟨messageType, body⟩, -, h⟩ := bind_eq_ok h
  dsimp only at h
  unfold parseResponseBody at h
  split at h
  all_goals first
    | exact statusFirst_okResponse hmax h
    | exact statusFirst_error hmax h
    | exact statusFirst_notice hmax h
    | exact statusFirst_authentication hmax h
    | exact statusFirst_readyForQuery hmax h
    | (cases h; exact statusFirst_response hmax _ _)
    | cases h

end ENavigator.Postgres
