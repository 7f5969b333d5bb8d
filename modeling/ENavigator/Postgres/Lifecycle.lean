import ENavigator.Postgres.Parser

/-!
# What a PostgreSQL request waits for

The state that the tracker keeps for one frontend message until the backend has answered it. Each message has its
own terminal messages; `observeResponse` takes one backend message and says whether it ends the answer. An error
leaves the state as it was.
-/

namespace ENavigator.Postgres

open ENavigator.Correlation

/-- `discardUntilSync`: the backend will skip what follows up to the next Sync. -/
inductive PostgresProgress where
  | continue
  | complete (response : ParsedPostgresResponse) (discardUntilSync : Bool)

/-- The first response of a cycle with what its ReadyForQuery adds. -/
def ParsedPostgresResponse.merge (response ready : ParsedPostgresResponse) (maxAttributes : Nat) :
    ParsedPostgresResponse :=
  { response with attributes := mergeAttributes maxAttributes response.attributes ready.attributes }

/-! ## Startup -/

structure PostgresStartupLifecycle where
  deriving DecidableEq, Repr

namespace PostgresStartupLifecycle

def fromRequest (bytes : Bytes) (config : ProtocolExtractionConfig) :
    Except PostgresExtraction PostgresStartupLifecycle := do
  let startup ← parsePostgresStartupMessage bytes config
  if startup.kind ≠ .startup then throw .unsupportedMessage
  pure {}

def observeResponse (bytes : Bytes) (config : ProtocolExtractionConfig) :
    Except PostgresExtraction PostgresProgress := do
  let response ← parsePostgresResponse bytes config
  match bytes.head? with
  | some 69 | some 90 => pure (.complete response false)
  | some 75 | some 78 | some 82 | some 83 | some 118 => pure .continue
  | some _ => throw .unexpectedMessage
  | none => throw .malformedFrame

end PostgresStartupLifecycle

/-! ## Simple queries -/

structure PostgresSimpleQueryLifecycle where
  pendingError : Option ParsedPostgresResponse := none
  deriving DecidableEq, Repr

namespace PostgresSimpleQueryLifecycle

def fromRequest (bytes : Bytes) (config : ProtocolExtractionConfig) :
    Except PostgresExtraction PostgresSimpleQueryLifecycle :=
  if bytes.head? ≠ some 81 then .error .unsupportedMessage
  else do
    let _ ← parsePostgresMessage bytes config
    pure {}

def observeMessage (lifecycle : PostgresSimpleQueryLifecycle) (messageType : UInt8) (response : ParsedPostgresResponse)
    (maxAttributes : Nat) : Except PostgresExtraction (PostgresProgress × PostgresSimpleQueryLifecycle) :=
  match messageType with
  | 69 =>
    match lifecycle.pendingError with
    | none => .ok (.continue, { pendingError := some response })
    | some _ => .error .unexpectedMessage
  | 90 =>
    let answer := match lifecycle.pendingError with
      | some error => error.merge response maxAttributes
      | none => response
    .ok (.complete answer false, {})
  | _ => .ok (.continue, lifecycle)

def observeResponse (lifecycle : PostgresSimpleQueryLifecycle) (bytes : Bytes) (config : ProtocolExtractionConfig) :
    Except PostgresExtraction (PostgresProgress × PostgresSimpleQueryLifecycle) := do
  let response ← parsePostgresResponse bytes config
  match bytes.head? with
  | none => throw .malformedFrame
  | some messageType => lifecycle.observeMessage messageType response config.maxAttributes

end PostgresSimpleQueryLifecycle

/-! ## Other messages -/

inductive PostgresRequestKind where
  | parse | bind | describeStatement | describePortal | close | execute | functionCall | password | sync | noResponse
  deriving DecidableEq, Repr

inductive PostgresRequestPhase where
  | initial | parameterDescription
  deriving DecidableEq, Repr

structure PostgresRequestLifecycle where
  kind : PostgresRequestKind
  phase : PostgresRequestPhase := .initial
  pendingResponse : Option ParsedPostgresResponse := none
  deriving DecidableEq, Repr

variable (lifecycle : PostgresRequestLifecycle) (bytes : Bytes)

namespace PostgresRequestLifecycle

def requestKind (config : ProtocolExtractionConfig) : Except PostgresExtraction PostgresRequestKind :=
  match bytes.head? with
  | some 80 => .ok .parse
  | some 66 => .ok .bind
  | some 68 =>
    match frameBody bytes config.maxHeaderBytes with
    | .error e => .error e
    | .ok body =>
      match body.head? with
      | some 83 => .ok .describeStatement
      | some 80 => .ok .describePortal
      | _ => .error .malformedFrame
  | some 67 => .ok .close
  | some 69 => .ok .execute
  | some 70 => .ok .functionCall
  | some 112 => .ok .password
  | some 83 => .ok .sync
  | some 100 | some 99 | some 102 | some 72 | some 88 => .ok .noResponse
  | some _ => .error .unsupportedMessage
  | none => .error .malformedFrame

def fromRequest (config : ProtocolExtractionConfig) : Except PostgresExtraction PostgresRequestLifecycle := do
  let _ ← parsePostgresMessage bytes config
  let kind ← requestKind bytes config
  pure { kind := kind }

def expectsResponse : Bool := lifecycle.kind ≠ .noResponse

def isSync : Bool := lifecycle.kind = .sync

def observeStatementDescription (messageType : UInt8)
    (response : ParsedPostgresResponse) : Except PostgresExtraction (PostgresProgress × PostgresRequestLifecycle) :=
  match lifecycle.phase, messageType with
  | .initial, 116 => .ok (.continue, { lifecycle with phase := .parameterDescription })
  | .parameterDescription, 84 | .parameterDescription, 110 => .ok (.complete response false, lifecycle)
  | _, _ => .error .unexpectedMessage

def retainCycleResponse (response : ParsedPostgresResponse) :
    Except PostgresExtraction (PostgresProgress × PostgresRequestLifecycle) :=
  match lifecycle.pendingResponse with
  | some _ => .error .unexpectedMessage
  | none => .ok (.continue, { lifecycle with pendingResponse := some response })

def completeCycle (ready : ParsedPostgresResponse) (maxAttributes : Nat) :
    Except PostgresExtraction (PostgresProgress × PostgresRequestLifecycle) :=
  match lifecycle.kind, lifecycle.pendingResponse with
  | .sync, some pending | .functionCall, some pending =>
    .ok (.complete (pending.merge ready maxAttributes) false, { lifecycle with pendingResponse := none })
  | .sync, none => .ok (.complete ready false, lifecycle)
  | _, _ => .error .unexpectedMessage

def observeError (response : ParsedPostgresResponse) :
    Except PostgresExtraction (PostgresProgress × PostgresRequestLifecycle) :=
  match lifecycle.kind with
  | .parse | .bind | .describeStatement | .describePortal | .close | .execute =>
    .ok (.complete response true, lifecycle)
  | .functionCall | .sync => lifecycle.retainCycleResponse response
  | .password => .ok (.complete response false, lifecycle)
  | .noResponse => .error .unexpectedMessage

def isAsynchronous (messageType : UInt8) : Bool :=
  messageType = 65 || messageType = 75 || messageType = 78 || messageType = 83

def observeMessage (messageType : UInt8) (response : ParsedPostgresResponse)
    (maxAttributes : Nat) : Except PostgresExtraction (PostgresProgress × PostgresRequestLifecycle) :=
  if isAsynchronous messageType then .ok (.continue, lifecycle)
  else if messageType = 69 then lifecycle.observeError response
  else match lifecycle.kind, messageType with
  | .parse, 49 | .bind, 50 | .close, 51 => .ok (.complete response false, lifecycle)
  | .describeStatement, _ => lifecycle.observeStatementDescription messageType response
  | .describePortal, 84 | .describePortal, 110 => .ok (.complete response false, lifecycle)
  | .execute, 67 | .execute, 73 | .execute, 115 => .ok (.complete response false, lifecycle)
  | .execute, 68 | .execute, 71 | .execute, 72 | .execute, 87 | .execute, 99 | .execute, 100 =>
    .ok (.continue, lifecycle)
  | .functionCall, 86 => lifecycle.retainCycleResponse response
  | .functionCall, 90 | .sync, 90 => lifecycle.completeCycle response maxAttributes
  | .password, 82 => .ok (.complete response false, lifecycle)
  | _, _ => .error .unexpectedMessage

def observeResponse (config : ProtocolExtractionConfig) :
    Except PostgresExtraction (PostgresProgress × PostgresRequestLifecycle) := do
  let response ← parsePostgresResponse bytes config
  match bytes.head? with
  | none => throw .malformedFrame
  | some messageType => lifecycle.observeMessage messageType response config.maxAttributes

end PostgresRequestLifecycle

end ENavigator.Postgres
