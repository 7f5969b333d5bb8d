import ENavigator.Lib.InPlace
import ENavigator.Mongodb.Connection
import ENavigator.Mysql.Lifecycle
import ENavigator.Postgres.Lifecycle
import ENavigator.Redis.Lifecycle

/-!
# Rejected responses

The lifecycles of `Mysql`, `Redis`, `Mongodb` and `Postgres` return the next state only if they accept the response.
The source changes the state in place, field by field, and returns an error where it stands. Here are its methods as
such calls, statement by statement; each is the lifecycle's function (`observePacket_eq` and so on), so a response that
is rejected leaves the state as it was, and correlation goes on as if it had not come (`rejected_leaves_state`).
-/

namespace ENavigator

open Correlation Call

/-! ## MySQL -/

namespace Mysql.InPlace

open MysqlResponseLifecycle

variable (bytes : Bytes) (declaredTotalLen : Nat) (config : ProtocolExtractionConfig)

/-- A method of the lifecycle. -/
abbrev Method := Call MysqlResponseLifecycle MysqlExtraction

def applyTransition : MysqlResponseTransition → Method MysqlResponseProgress
  | .continue phase => do
    modify fun l => { l with phase := phase }
    return .continue
  | .moreResults => do
    modify fun l => { l with phase := .initial }
    return .continue
  | .complete response => return .complete response

def observePacket : Method MysqlResponseProgress := do
  if (← get).requestContinuation then throw .unsupportedResponse
  if bytes.length > config.maxHeaderBytes then throw .packetTooLong
  let (sequence, payload) ← packetParts bytes config.maxHeaderBytes
  if sequence ≠ (← get).nextSequence then throw .unexpectedSequence
  if (← get).responseContinuation then
    modify fun l => { l with nextSequence := l.nextSequence + 1 }
    modify fun l => { l with responseContinuation := payload.length = mysqlMaxPhysicalPayloadBytes }
    return .continue
  let transition ← responseTransition (← get).kind (← get).phase payload bytes config
  modify fun l => { l with nextSequence := l.nextSequence + 1 }
  applyTransition transition

def observeRequestContinuation : Method MysqlLogicalPacketProgress := do
  if !(← get).requestContinuation then throw .unsupportedResponse
  let (sequence, payloadLen, _) ← packetPrefixParts bytes declaredTotalLen
  if sequence ≠ (← get).nextSequence then throw .unexpectedSequence
  modify fun l => { l with nextSequence := l.nextSequence + 1 }
  if payloadLen = mysqlMaxPhysicalPayloadBytes then return .continue
  modify fun l => { l with requestContinuation := false }
  return .complete

def observeResponsePrefix : Method MysqlResponseProgress := do
  if (← get).requestContinuation then throw .unsupportedResponse
  let (sequence, payloadLen, _) ← packetPrefixParts bytes declaredTotalLen
  if sequence ≠ (← get).nextSequence then throw .unexpectedSequence
  if payloadLen ≠ mysqlMaxPhysicalPayloadBytes then throw .unsupportedResponse
  let inRows := match (← get).phase with
    | .rows _ _ | .statementFetchRows => true
    | _ => false
  if !(← get).responseContinuation && !inRows then throw .unsupportedResponse
  modify fun l => { l with nextSequence := l.nextSequence + 1 }
  modify fun l => { l with responseContinuation := true }
  return .continue

def observeClientPacket : Method MysqlClientPacketProgress := do
  if (← get).phase ≠ .localInfileUpload ∨ bytes.length < 4 then throw .unsupportedResponse
  let totalLen := mysqlPayloadLen bytes + 4
  if totalLen ≠ declaredTotalLen ∨ bytes.length > totalLen then throw .malformedPacket
  if bytes.getD 3 0 ≠ (← get).nextSequence then throw .unexpectedSequence
  modify fun l => { l with nextSequence := l.nextSequence + 1 }
  if mysqlPayloadLen bytes = 0 then
    modify fun l => { l with phase := .localInfileTerminal }
    return .uploadComplete
  return .continue

variable (l : MysqlResponseLifecycle)

theorem applyTransition_apply (transition : MysqlResponseTransition) :
    applyTransition transition { l with nextSequence := l.nextSequence + 1 } =
      (.ok (l.advance transition).1, (l.advance transition).2) := by
  cases transition <;> rfl

theorem observePacket_eq :
    observePacket bytes config l = Call.restore l (l.observePacket bytes config) := by
  unfold observePacket MysqlResponseLifecycle.observePacket
  simp [applyTransition_apply]

theorem observeRequestContinuation_eq :
    observeRequestContinuation bytes declaredTotalLen l =
      Call.restore l (l.observeRequestContinuation bytes declaredTotalLen) := by
  unfold observeRequestContinuation MysqlResponseLifecycle.observeRequestContinuation
  simp

theorem observeResponsePrefix_eq :
    observeResponsePrefix bytes declaredTotalLen l =
      Call.restore l (l.observeResponsePrefix bytes declaredTotalLen) := by
  unfold observeResponsePrefix MysqlResponseLifecycle.observeResponsePrefix
  cases hphase : l.phase <;> simp [hphase]

theorem observeClientPacket_eq :
    observeClientPacket bytes declaredTotalLen l = Call.restore l (l.observeClientPacket bytes declaredTotalLen) := by
  unfold observeClientPacket MysqlResponseLifecycle.observeClientPacket
  simp

end Mysql.InPlace

/-! ## Redis -/

namespace Redis.InPlace

def observeResponse (bytes : Bytes) (subscription : RedisSubscriptionState) (config : ProtocolExtractionConfig) :
    Call RedisResponseLifecycle RedisExtraction RedisResponseProgress := do
  if !(← get).expectsResponse then throw .unsupportedFrame
  let role ← redisConnectionResponseRole bytes subscription
  let response ← parseRedisResponse bytes config
  let update ← (← get).subscriptionStateUpdate bytes
  match (← get).kind with
  | .standard | .reset =>
    if role = .reply then return .complete response update
    return .continue none
  | .subscriptionConfirmations kind remaining =>
    if response.errorType.isSome then return .complete response none
    if update.isNone then return .continue none
    if remaining = 0 then throw .malformedFrame
    modify fun l => { l with kind := .subscriptionConfirmations kind (remaining - 1) }
    if remaining - 1 = 0 then return .complete response update
    return .continue update
  | .noCorrelatedResponse _ => throw .unsupportedFrame

theorem observeResponse_eq (bytes : Bytes) (subscription : RedisSubscriptionState) (config : ProtocolExtractionConfig)
    (l : RedisResponseLifecycle) :
    observeResponse bytes subscription config l = Call.restore l (l.observeResponse bytes subscription config) := by
  rcases l with ⟨_ | _ | ⟨kind, remaining⟩ | kind⟩
  all_goals simp [observeResponse, RedisResponseLifecycle.observeResponse, RedisResponseLifecycle.expectsResponse]

end Redis.InPlace

/-! ## MongoDB -/

namespace Mongodb.InPlace

inductive MongodbExtraction where
  | frameTooLong | invalidUtf8 | malformedFrame | documentTooLong | unsupportedOpcode | missingStatus
  | unsupportedRequiredFlag | invalidFlags | unexpectedResponse

def observeResponse (response : ParsedMongodbResponse) :
    Call MongodbResponseLifecycle MongodbExtraction MongodbResponseProgress := do
  if !(← get).expectsResponse || response.responseTo ≠ (← get).requestId
      || (response.moreToCome && (← get).kind ≠ .exhaust) then
    throw .unexpectedResponse
  if response.errorType.isSome && (← get).firstError.isNone then
    modify fun l => { l with firstError := some response }
  if response.moreToCome then return .continue
  let firstError := (← get).firstError
  modify fun l => { l with firstError := none }
  return .complete (firstError.getD response)

theorem observeResponse_eq (response : ParsedMongodbResponse) (l : MongodbResponseLifecycle) :
    observeResponse response l =
      Call.restore l ((l.observeResponse response).elim (.error .unexpectedResponse) .ok) := by
  unfold observeResponse MongodbResponseLifecycle.observeResponse
  simp only [get_bind_apply, ite_apply]
  split
  · rfl
  · by_cases herror : (response.errorType.isSome && l.firstError.isNone) = true
    all_goals by_cases hmore : response.moreToCome = true <;> simp [herror, hmore]

end Mongodb.InPlace

/-! ## PostgreSQL -/

namespace Postgres.InPlace

/-- The startup has no field that could change. -/
def observeStartup (bytes : Bytes) (config : ProtocolExtractionConfig) :
    Call PostgresStartupLifecycle PostgresExtraction PostgresProgress :=
  liftM (PostgresStartupLifecycle.observeResponse bytes config)

def observeSimpleMessage (messageType : UInt8) (response : ParsedPostgresResponse) (maxAttributes : Nat) :
    Call PostgresSimpleQueryLifecycle PostgresExtraction PostgresProgress := do
  match messageType with
  | 69 =>
    if (← get).pendingError.isSome then throw .unexpectedMessage
    modify fun l => { l with pendingError := some response }
    return .continue
  | 90 =>
    let pendingError := (← get).pendingError
    modify fun l => { l with pendingError := none }
    match pendingError with
    | some error => return .complete (error.merge response maxAttributes) false
    | none => return .complete response false
  | _ => return .continue

def observeSimpleQuery (bytes : Bytes) (config : ProtocolExtractionConfig) :
    Call PostgresSimpleQueryLifecycle PostgresExtraction PostgresProgress := do
  let response ← parsePostgresResponse bytes config
  match bytes.head? with
  | some messageType => observeSimpleMessage messageType response config.maxAttributes
  | none => throw .malformedFrame

/-- A method of the lifecycle of the other messages. -/
abbrev Method := Call PostgresRequestLifecycle PostgresExtraction PostgresProgress

def observeStatementDescription (messageType : UInt8) (response : ParsedPostgresResponse) : Method := do
  match (← get).phase, messageType with
  | .initial, 116 =>
    modify fun l => { l with phase := .parameterDescription }
    return .continue
  | .parameterDescription, 84 | .parameterDescription, 110 => return .complete response false
  | _, _ => throw .unexpectedMessage

def retainCycleResponse (response : ParsedPostgresResponse) : Method := do
  if (← get).pendingResponse.isSome then throw .unexpectedMessage
  modify fun l => { l with pendingResponse := some response }
  return .continue

/-- The pending response is taken before it is known whether there is one. -/
def completeCycle (ready : ParsedPostgresResponse) (maxAttributes : Nat) : Method := do
  match (← get).kind with
  | .sync =>
    let pending := (← get).pendingResponse
    modify fun l => { l with pendingResponse := none }
    match pending with
    | some pending => return .complete (pending.merge ready maxAttributes) false
    | none => return .complete ready false
  | .functionCall =>
    let pending := (← get).pendingResponse
    modify fun l => { l with pendingResponse := none }
    match pending with
    | some pending => return .complete (pending.merge ready maxAttributes) false
    | none => throw .unexpectedMessage
  | _ => throw .unexpectedMessage

def observeRequest (bytes : Bytes) (config : ProtocolExtractionConfig) : Method := do
  let response ← parsePostgresResponse bytes config
  match bytes.head? with
  | none => throw .malformedFrame
  | some messageType =>
    if PostgresRequestLifecycle.isAsynchronous messageType then return .continue
    if messageType = 69 then
      match (← get).kind with
      | .parse | .bind | .describeStatement | .describePortal | .close | .execute => return .complete response true
      | .functionCall | .sync => retainCycleResponse response
      | .password => return .complete response false
      | .noResponse => throw .unexpectedMessage
    else match (← get).kind, messageType with
      | .parse, 49 | .bind, 50 | .close, 51 => return .complete response false
      | .describeStatement, _ => observeStatementDescription messageType response
      | .describePortal, 84 | .describePortal, 110 => return .complete response false
      | .execute, 67 | .execute, 73 | .execute, 115 => return .complete response false
      | .execute, 68 | .execute, 71 | .execute, 72 | .execute, 87 | .execute, 99 | .execute, 100 => return .continue
      | .functionCall, 86 => retainCycleResponse response
      | .functionCall, 90 | .sync, 90 => completeCycle response config.maxAttributes
      | .password, 82 => return .complete response false
      | _, _ => throw .unexpectedMessage

variable (bytes : Bytes) (config : ProtocolExtractionConfig) (messageType : UInt8) (response : ParsedPostgresResponse)
  (maxAttributes : Nat)

theorem observeStartup_eq (l : PostgresStartupLifecycle) :
    observeStartup bytes config l =
      Call.restore l ((PostgresStartupLifecycle.observeResponse bytes config).map fun progress => (progress, l)) := by
  unfold observeStartup
  rcases PostgresStartupLifecycle.observeResponse bytes config with e | progress <;> rfl

theorem observeSimpleMessage_eq (l : PostgresSimpleQueryLifecycle) :
    observeSimpleMessage messageType response maxAttributes l =
      Call.restore l (l.observeMessage messageType response maxAttributes) := by
  unfold observeSimpleMessage PostgresSimpleQueryLifecycle.observeMessage
  rcases l with ⟨_ | error⟩ <;> split <;> simp

theorem observeSimpleQuery_eq (l : PostgresSimpleQueryLifecycle) :
    observeSimpleQuery bytes config l = Call.restore l (l.observeResponse bytes config) := by
  unfold observeSimpleQuery PostgresSimpleQueryLifecycle.observeResponse
  simp only [lift_bind_apply, restore_bind]
  congr 1
  funext response
  rcases bytes.head? with _ | messageType
  · rfl
  · exact observeSimpleMessage_eq messageType response config.maxAttributes l

theorem retainCycleResponse_eq (l : PostgresRequestLifecycle) :
    retainCycleResponse response l = Call.restore l (l.retainCycleResponse response) := by
  unfold retainCycleResponse PostgresRequestLifecycle.retainCycleResponse
  rcases hpending : l.pendingResponse with _ | pending <;> simp [hpending]

theorem observeStatementDescription_eq (l : PostgresRequestLifecycle) :
    observeStatementDescription messageType response l =
      Call.restore l (l.observeStatementDescription messageType response) := by
  unfold observeStatementDescription PostgresRequestLifecycle.observeStatementDescription
  rcases l with ⟨kind, _ | _, pending⟩ <;> simp only [get_bind_apply] <;> split <;> simp_all

theorem completeCycle_eq (l : PostgresRequestLifecycle) :
    completeCycle response maxAttributes l = Call.restore l (l.completeCycle response maxAttributes) := by
  rcases l with ⟨kind, phase, _ | pending⟩ <;> cases kind <;> rfl

theorem observeRequest_eq (l : PostgresRequestLifecycle) :
    observeRequest bytes config l = Call.restore l (l.observeResponse bytes config) := by
  unfold observeRequest PostgresRequestLifecycle.observeResponse
  simp only [lift_bind_apply, restore_bind]
  congr 1
  funext response
  rcases bytes.head? with _ | messageType
  · rfl
  · unfold PostgresRequestLifecycle.observeMessage PostgresRequestLifecycle.observeError
    simp only [ite_apply, get_bind_apply, restore_ite]
    split
    · rfl
    · split
      · rcases l with ⟨kind, phase, pending⟩
        cases kind
        all_goals first | rfl | exact retainCycleResponse_eq _ _
      · rcases l with ⟨kind, phase, pending⟩
        cases kind with
        | describeStatement => exact observeStatementDescription_eq messageType response _
        | noResponse => rfl
        | functionCall => dsimp only; split <;> simp_all [retainCycleResponse_eq, completeCycle_eq]
        | sync => dsimp only; split <;> simp_all [completeCycle_eq]
        | parse | bind | close | describePortal | execute | password => dsimp only; split <;> simp_all

end Postgres.InPlace

/-! ## All of them -/

/-- What may be asked of a MySQL lifecycle. -/
inductive Mysql.InPlace.Request where
  | packet (bytes : Bytes) (config : ProtocolExtractionConfig)
  | requestContinuation (bytes : Bytes) (declaredTotalLen : Nat)
  | responsePrefix (bytes : Bytes) (declaredTotalLen : Nat)
  | clientPacket (bytes : Bytes) (declaredTotalLen : Nat)

inductive Mysql.InPlace.Progress where
  | response (progress : MysqlResponseProgress)
  | logical (progress : MysqlLogicalPacketProgress)
  | client (progress : MysqlClientPacketProgress)

def Mysql.InPlace.observe : Mysql.InPlace.Request → Mysql.InPlace.Method Mysql.InPlace.Progress
  | .packet bytes config => .response <$> observePacket bytes config
  | .requestContinuation bytes declaredTotalLen => .logical <$> observeRequestContinuation bytes declaredTotalLen
  | .responsePrefix bytes declaredTotalLen => .response <$> observeResponsePrefix bytes declaredTotalLen
  | .clientPacket bytes declaredTotalLen => .client <$> observeClientPacket bytes declaredTotalLen

inductive ResponseLifecycle where
  | mysql | redis | mongodb | postgresStartup | postgresSimpleQuery | postgresRequest

def ResponseLifecycle.machine : ResponseLifecycle → Machine
  | .mysql => ⟨_, _, _, _, Mysql.InPlace.observe⟩
  | .redis =>
    ⟨_, Bytes × Redis.RedisSubscriptionState × ProtocolExtractionConfig, _, _,
      fun (bytes, subscription, config) => Redis.InPlace.observeResponse bytes subscription config⟩
  | .mongodb => ⟨_, _, _, _, Mongodb.InPlace.observeResponse⟩
  | .postgresStartup =>
    ⟨_, Bytes × ProtocolExtractionConfig, _, _, fun (bytes, config) => Postgres.InPlace.observeStartup bytes config⟩
  | .postgresSimpleQuery =>
    ⟨_, Bytes × ProtocolExtractionConfig, _, _, fun (bytes, config) => Postgres.InPlace.observeSimpleQuery bytes config⟩
  | .postgresRequest =>
    ⟨_, Bytes × ProtocolExtractionConfig, _, _, fun (bytes, config) => Postgres.InPlace.observeRequest bytes config⟩

theorem Mysql.InPlace.observe_error {request : Request} {s t : MysqlResponseLifecycle} {e : MysqlExtraction}
    (h : observe request s = (.error e, t)) : t = s := by
  cases request with
  | packet bytes config => exact restore_of_error (observePacket_eq bytes config s) (map_error h)
  | requestContinuation bytes total =>
    exact restore_of_error (observeRequestContinuation_eq bytes total s) (map_error h)
  | responsePrefix bytes total =>
    exact restore_of_error (observeResponsePrefix_eq bytes total s) (map_error h)
  | clientPacket bytes total =>
    exact restore_of_error (observeClientPacket_eq bytes total s) (map_error h)

theorem inert_machine (lifecycle : ResponseLifecycle) : lifecycle.machine.Inert := by
  intro input s e t h
  cases lifecycle with
  | mysql => exact Mysql.InPlace.observe_error h
  | redis => exact restore_of_error (Redis.InPlace.observeResponse_eq _ _ _ s) h
  | mongodb => exact restore_of_error (Mongodb.InPlace.observeResponse_eq _ s) h
  | postgresStartup => exact restore_of_error (Postgres.InPlace.observeStartup_eq _ _ s) h
  | postgresSimpleQuery => exact restore_of_error (Postgres.InPlace.observeSimpleQuery_eq _ _ s) h
  | postgresRequest => exact restore_of_error (Postgres.InPlace.observeRequest_eq _ _ s) h

/-- **A rejected response leaves the state as it was**, and what is accepted gives the same without it. -/
theorem rejected_leaves_state (lifecycle : ResponseLifecycle) :
    lifecycle.machine.Inert ∧ ∀ s inputs, lifecycle.machine.outcomes s (lifecycle.machine.accepted s inputs) =
      (lifecycle.machine.outcomes s inputs).filter Except.isOk :=
  ⟨inert_machine lifecycle, fun s inputs => Machine.outcomes_accepted (inert_machine lifecycle) s inputs⟩

end ENavigator
