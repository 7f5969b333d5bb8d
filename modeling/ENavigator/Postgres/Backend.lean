import ENavigator.Lib.Pipeline
import ENavigator.Postgres.Connection

/-!
# The backend

What the protocol prescribes for the answers to frontend messages, as a service of its own: `MessageKind.next` says
which backend messages an answer consists of, `Answer.response` what the answer amounts to. `lifecycles` are the
tracker's means for the same, and `recognises` that they do: whatever the backend may send in answer to a message,
the message's lifecycle follows it, ends with it and keeps its outcome.
-/

namespace ENavigator.Postgres

open ENavigator.Correlation ENavigator.Stream List PostgresRequestLifecycle Option

variable {kind : MessageKind}

/-! ## Messages -/

inductive MessageKind where
  | query | parse | bind | describeStatement | describePortal | close | execute | functionCall | flush | sync
  deriving DecidableEq, Repr

def messageKind (bytes : Bytes) (config : ProtocolExtractionConfig) : Option MessageKind :=
  match bytes.head? with
  | some 81 => some .query
  | some 80 => some .parse
  | some 66 => some .bind
  | some 68 =>
    match (frameBody bytes config.maxHeaderBytes).toOption.bind List.head? with
    | some 83 => some .describeStatement
    | some 80 => some .describePortal
    | _ => none
  | some 67 => some .close
  | some 69 => some .execute
  | some 70 => some .functionCall
  | some 72 => some .flush
  | some 83 => some .sync
  | _ => none

/-- A frontend message that the tracker can read. No frame is as long as 2 ^ 30 bytes. -/
structure Message (config : ProtocolExtractionConfig) where
  bytes : Bytes
  started : Nat
  kind : MessageKind
  parsed : ParsedPostgresQuery
  kind_eq : messageKind bytes config = some kind
  accepted : parsePostgresMessage bytes config = .ok parsed
  length_lt : bytes.length < 2 ^ 30

/-- A backend message that the tracker can read. -/
structure BackendMessage (config : ProtocolExtractionConfig) where
  bytes : Bytes
  response : ParsedPostgresResponse
  accepted : parsePostgresResponse bytes config = .ok response

def BackendMessage.messageType {config : ProtocolExtractionConfig} (f : BackendMessage config) : UInt8 :=
  f.bytes.headD 0

/-! ## Answers -/

def notificationResponse : UInt8 := 65
def commandComplete : UInt8 := 67
def dataRow : UInt8 := 68
def errorResponse : UInt8 := 69
def emptyQueryResponse : UInt8 := 73
def noticeResponse : UInt8 := 78
def parameterStatus : UInt8 := 83
def rowDescription : UInt8 := 84
def functionCallResponse : UInt8 := 86
def readyForQuery : UInt8 := 90
def parseComplete : UInt8 := 49
def bindComplete : UInt8 := 50
def closeComplete : UInt8 := 51
def noData : UInt8 := 110
def portalSuspended : UInt8 := 115
def parameterDescription : UInt8 := 116

/-- Notices, notifications and parameter changes may come at any time. -/
def isAside (b : UInt8) : Bool := b ∈ [notificationResponse, noticeResponse, parameterStatus]

/-- What a cycle amounts to, as opposed to the rows and tags before it and the ReadyForQuery behind it. -/
def isResult (b : UInt8) : Bool := b ∈ [errorResponse, functionCallResponse]

def MessageKind.isExtended : MessageKind → Bool
  | .parse | .bind | .describeStatement | .describePortal | .close | .execute => true
  | .query | .functionCall | .flush | .sync => false

/-- The last message of an answer, if it is one of these. -/
def oneOf (last : List UInt8) (b : UInt8) : Option Bool := if b ∈ last then some true else none

/-- Behind the messages `seen`, a message of type `b` goes on with the answer, ends it, or does not belong to it. -/
def MessageKind.next (kind : MessageKind) (seen : List UInt8) (b : UInt8) : Option Bool :=
  match kind with
  | .parse => oneOf [parseComplete, errorResponse] b
  | .bind => oneOf [bindComplete, errorResponse] b
  | .close => oneOf [closeComplete, errorResponse] b
  | .describePortal => oneOf [rowDescription, noData, errorResponse] b
  | .describeStatement =>
    if seen = [] then
      if b = parameterDescription then some false else oneOf [errorResponse] b
    else oneOf [rowDescription, noData, errorResponse] b
  | .execute =>
    if b = dataRow then some false
    else oneOf [commandComplete, emptyQueryResponse, portalSuspended, errorResponse] b
  | .query =>
    if seen.any isResult then oneOf [readyForQuery] b
    else if b ∈ [rowDescription, dataRow, commandComplete, emptyQueryResponse, errorResponse] then some false
    else oneOf [readyForQuery] b
  | .functionCall =>
    if seen.any isResult then oneOf [readyForQuery] b
    else if isResult b then some false else none
  | .sync =>
    if seen.any isResult then oneOf [readyForQuery] b
    else if b = errorResponse then some false else oneOf [readyForQuery] b
  | .flush => none

structure Answer (config : ProtocolExtractionConfig) where
  body : List (BackendMessage config)
  last : BackendMessage config

variable {config : ProtocolExtractionConfig}

def resultOf (body : List (BackendMessage config)) : Option (BackendMessage config) :=
  body.find? fun f => isResult f.messageType

/-- The messages whose answer ends with a ReadyForQuery. -/
def MessageKind.isCycle : MessageKind → Bool
  | .query | .functionCall | .sync => true
  | _ => false

/-- The outcome of an answer: in a cycle that of its error or function result, with what the ReadyForQuery adds;
otherwise that of the last message, which may be an error. -/
def Answer.response (kind : MessageKind) (answer : Answer config) : ParsedPostgresResponse :=
  match if kind.isCycle then resultOf answer.body else none with
  | some result => result.response.merge answer.last.response config.maxAttributes
  | none => answer.last.response

/-- One more message of an answer: it goes on or ends, and may make the backend skip what follows. -/
def extend (seen : List (BackendMessage config)) (f : BackendMessage config) (skip : Bool) :
    Option Bool → Reaction (List (BackendMessage config)) (Answer config)
  | none => .refuse
  | some false => .advance (seen ++ [f])
  | some true => .finish ⟨seen, f⟩ skip

/-- An error in an extended query skips what follows it. -/
def MessageKind.react (kind : MessageKind) (seen : List (BackendMessage config)) (f : BackendMessage config) :
    Reaction (List (BackendMessage config)) (Answer config) :=
  if isAside f.messageType then .advance seen
  else extend seen f (kind.isExtended && f.messageType == errorResponse)
    (kind.next (seen.map BackendMessage.messageType) f.messageType)

def backend (config : ProtocolExtractionConfig) :
    Service (Message config) (BackendMessage config) (List (BackendMessage config)) (Answer config) where
  start message := if message.kind = .flush then none else some []
  barrier message := message.kind = .sync
  react message := message.kind.react

/-! ## Lifecycles -/

def reactionOf : Option (Except PostgresExtraction (PostgresProgress × PostgresLifecycles)) →
    Reaction PostgresLifecycles ParsedPostgresResponse
  | some (.ok (.continue, lifecycles)) => .advance lifecycles
  | some (.ok (.complete response discard, _)) => .finish response discard
  | _ => .refuse

def follow (lifecycles : PostgresLifecycles) (f : BackendMessage config) :
    Reaction PostgresLifecycles ParsedPostgresResponse :=
  reactionOf (observeFront config f.bytes lifecycles)

/-- What the tracker keeps for a message and makes of the answer. -/
def lifecycles (config : ProtocolExtractionConfig) :
    Service (Message config) (BackendMessage config) PostgresLifecycles ParsedPostgresResponse where
  start message :=
    let lifecycles := lifecyclesOf config (.complete message.bytes)
    if lifecycles.request.any (fun lifecycle => !lifecycle.expectsResponse) then none else some lifecycles
  barrier message := (lifecyclesOf config (.complete message.bytes)).isSync
  react _ := follow

/-- The tracker's state for a message whose answer has come as far as `seen`. -/
def stateOf (kind : MessageKind) (seen : List (BackendMessage config)) : PostgresLifecycles :=
  let pending := (resultOf seen).map BackendMessage.response
  match kind with
  | .query => { simple := some { pendingError := pending } }
  | .parse => { request := some { kind := .parse } }
  | .bind => { request := some { kind := .bind } }
  | .describeStatement =>
    { request := some
        { kind := .describeStatement, phase := if seen.isEmpty then .initial else .parameterDescription } }
  | .describePortal => { request := some { kind := .describePortal } }
  | .close => { request := some { kind := .close } }
  | .execute => { request := some { kind := .execute } }
  | .functionCall => { request := some { kind := .functionCall, pendingResponse := pending } }
  | .flush => { request := some { kind := .noResponse } }
  | .sync => { request := some { kind := .sync, pendingResponse := pending } }

/-! ## A message starts in the state for an empty answer -/

def MessageKind.typeByte : MessageKind → UInt8
  | .query => 81
  | .parse => 80
  | .bind => 66
  | .describeStatement => 68
  | .describePortal => 68
  | .close => 67
  | .execute => 69
  | .functionCall => 70
  | .flush => 72
  | .sync => 83

namespace Message

variable (m : Message config)

theorem head? : m.bytes.head? = some m.kind.typeByte := by
  have hkind := m.kind_eq
  generalize m.kind = kind at hkind
  unfold messageKind at hkind
  split at hkind
  case h_4 h =>
      split at hkind
      · cases hkind
        exact h
      · cases hkind
        exact h
      · cases hkind
  all_goals first
    | cases hkind; assumption
    | cases hkind

/-- A message with a type is no startup message: read as a length, its first bytes are too large. -/
theorem startup_eq_none : (PostgresStartupLifecycle.fromRequest m.bytes config).toOption = none := by
  have hhead := m.head?
  have hshort := m.length_lt
  have htype : 64 ≤ m.kind.typeByte.toNat := by cases m.kind <;> decide
  have herror : ∃ e, parsePostgresStartupMessage m.bytes config = .error e := by
    unfold parsePostgresStartupMessage
    split
    · exact ⟨_, rfl⟩
    split
    · exact ⟨_, rfl⟩
    next hlen =>
      rw [if_pos (fun hdeclared => ?_)]
      · exact ⟨_, rfl⟩
      rcases hbytes : m.bytes with _ | ⟨b, _ | ⟨b1, _ | ⟨b2, _ | ⟨b3, rest⟩⟩⟩⟩
      all_goals
        rw [hbytes] at hlen hhead hshort hdeclared
        simp only [length_cons, length_nil] at hlen hshort hdeclared
      case cons.cons.cons.cons =>
        cases hhead
        simp only [take_succ_cons, take_zero, beNat, foldl_cons, foldl_nil] at hdeclared
        omega
      all_goals omega
  obtain ⟨e, he⟩ := herror
  rw [PostgresStartupLifecycle.fromRequest, he]
  rfl

theorem describe_target (h : m.kind.typeByte = 68) :
    ∃ body, frameBody m.bytes config.maxHeaderBytes = .ok body ∧
      body.head? = some (if m.kind = .describeStatement then 83 else 80) := by
  have hhead := m.head?
  have hkind := m.kind_eq
  rw [h] at hhead
  simp only [messageKind, hhead] at hkind
  rcases hbody : frameBody m.bytes config.maxHeaderBytes with e | body
  · rw [hbody] at hkind
    cases hkind
  · refine ⟨body, rfl, ?_⟩
    simp only [hbody, Except.toOption, bind_some] at hkind
    split at hkind
    next hbyte =>
      rw [if_pos (Option.some.inj hkind).symm]
      exact hbyte
    next hbyte =>
      rw [if_neg (by rw [← Option.some.inj hkind]; decide)]
      exact hbyte
    · cases hkind

theorem lifecyclesOf_eq :
    lifecyclesOf config (.complete m.bytes) = stateOf m.kind ([] : List (BackendMessage config)) := by
  have hhead := m.head?
  have haccepted := m.accepted
  have hdescribe := m.describe_target
  rw [lifecyclesOf, frameBytes, m.startup_eq_none]
  simp only [PostgresSimpleQueryLifecycle.fromRequest, fromRequest,
    requestKind, hhead, haccepted]
  rcases hkind : m.kind
  case describeStatement | describePortal =>
    rw [hkind] at hdescribe
    obtain ⟨body, hbody, htarget⟩ := hdescribe rfl
    simp only [MessageKind.typeByte, hbody, htarget]
    rfl
  all_goals rfl

end Message

/-! ## The lifecycles follow the answers -/

namespace BackendMessage

variable (f : BackendMessage config)

theorem head? : f.bytes.head? = some f.messageType := by
  have haccepted := f.accepted
  rw [parsePostgresResponse] at haccepted
  rcases hparts : messageParts f.bytes config with e | ⟨messageType, body⟩
  · rw [hparts] at haccepted
    cases haccepted
  · have hhead := (messageParts_ok hparts).1
    rw [BackendMessage.messageType, headD_eq_head?_getD, hhead]
    rfl

end BackendMessage

theorem follow_request (lifecycle : PostgresRequestLifecycle) (f : BackendMessage config) :
    follow { request := some lifecycle } f =
      reactionOf (some ((lifecycle.observeMessage f.messageType f.response config.maxAttributes).map
        fun (progress, lifecycle) => (progress, { request := some lifecycle }))) := by
  simp only [follow, observeFront, observeResponse, f.accepted, f.head?]
  rfl

theorem follow_simple (lifecycle : PostgresSimpleQueryLifecycle) (f : BackendMessage config) :
    follow { simple := some lifecycle } f =
      reactionOf (some ((lifecycle.observeMessage f.messageType f.response config.maxAttributes).map
        fun (progress, lifecycle) => (progress, { simple := some lifecycle }))) := by
  simp only [follow, observeFront, PostgresSimpleQueryLifecycle.observeResponse, f.accepted, f.head?]
  rfl

variable {f : BackendMessage config} {seen : List (BackendMessage config)} {b : UInt8}

theorem follow_aside (kind : MessageKind) (seen : List (BackendMessage config)) (h : isAside f.messageType = true) :
    follow (stateOf kind seen) f = .advance (stateOf kind seen) := by
  have htype : f.messageType = 65 ∨ f.messageType = 78 ∨ f.messageType = 83 := by
    simpa [isAside, notificationResponse, noticeResponse, parameterStatus] using h
  cases kind with
  | query =>
    rw [stateOf, follow_simple]
    rcases htype with h | h | h
    all_goals
      rw [h]
      rfl
  | _ =>
    rw [stateOf, follow_request]
    rcases htype with h | h | h
    all_goals
      rw [h]
      rfl

/-! ### What an answer has come to -/

theorem resultOf_snoc (seen : List (BackendMessage config)) (f : BackendMessage config) :
    resultOf (seen ++ [f]) = (resultOf seen).or (if isResult f.messageType then some f else none) := by
  rw [resultOf, List.find?_append, List.find?_singleton]
  rfl

theorem resultOf_eq_none (h : ¬ (seen.map BackendMessage.messageType).any isResult = true) : resultOf seen = none := by
  rw [resultOf, List.find?_eq_none]
  intro f hf hresult
  exact h (any_eq_true.mpr ⟨f.messageType, mem_map_of_mem hf, hresult⟩)

theorem exists_resultOf (h : (seen.map BackendMessage.messageType).any isResult = true) :
    ∃ result, resultOf seen = some result := by
  obtain ⟨b, hb, hresult⟩ := any_eq_true.mp h
  obtain ⟨f, hf, rfl⟩ := mem_map.mp hb
  exact isSome_iff_exists.mp (List.find?_isSome.mpr ⟨f, hf, hresult⟩)

theorem mem_of_oneOf {last : List UInt8} (h : oneOf last b ≠ none) : b ∈ last := by
  unfold oneOf at h
  split at h
  · assumption
  · exact absurd rfl h

/-! ### Cycles -/

theorem follow_ready (hcycle : kind.isCycle = true)
    (hseen : kind = .functionCall → resultOf seen ≠ none) (hlast : oneOf [readyForQuery] f.messageType ≠ none) :
    follow (stateOf kind seen) f =
      (extend seen f (kind.isExtended && f.messageType == errorResponse) (oneOf [readyForQuery] f.messageType)).map
        (stateOf kind) (Answer.response kind) := by
  have hb : f.messageType = readyForQuery := mem_singleton.mp (mem_of_oneOf hlast)
  have hskip : (kind.isExtended && f.messageType == errorResponse) = false := by
    rw [hb, show (readyForQuery == errorResponse) = false from rfl, Bool.and_false]
  have hanswer : oneOf [readyForQuery] f.messageType = some true := by
    rw [hb]
    rfl
  simp only [hskip, hanswer, extend, Reaction.map, Answer.response, if_pos hcycle]
  rcases hresult : resultOf seen with _ | result
  all_goals cases kind
  case none.functionCall => exact absurd hresult (hseen rfl)
  case none.query | some.query =>
    simp only [stateOf, hresult, follow_simple, hb]
    rfl
  case none.sync | some.sync | some.functionCall =>
    simp only [stateOf, hresult, follow_request, hb]
    rfl
  all_goals cases hcycle

/-- The first error or function result of a cycle is kept. -/
theorem follow_result (hcycle : kind.isCycle = true) (hseen : resultOf seen = none)
    (hb : f.messageType = errorResponse ∨ kind = .functionCall ∧ f.messageType = functionCallResponse) :
    follow (stateOf kind seen) f = .advance (stateOf kind (seen ++ [f])) := by
  have hmore : resultOf (seen ++ [f]) = some f := by
    rw [resultOf_snoc, hseen, none_or]
    rcases hb with hb | ⟨-, hb⟩
    all_goals
      rw [hb]
      rfl
  rcases hb with hb | ⟨rfl, hb⟩
  · cases kind with
    | query =>
      simp only [stateOf, hseen, hmore, follow_simple, hb]
      rfl
    | sync | functionCall =>
      simp only [stateOf, hseen, hmore, follow_request, hb]
      rfl
    | _ => cases hcycle
  · simp only [stateOf, hseen, hmore, follow_request, hb]
    rfl

theorem follow_rows (hb : f.messageType ∈ [rowDescription, dataRow, commandComplete, emptyQueryResponse]) :
    follow (stateOf .query seen) f = .advance (stateOf .query (seen ++ [f])) := by
  simp only [mem_cons, not_mem_nil, or_false] at hb
  have hmore : resultOf (seen ++ [f]) = resultOf seen := by
    rw [resultOf_snoc]
    rcases hb with hb | hb | hb | hb
    all_goals
      rw [hb]
      exact or_none
  simp only [stateOf, hmore, follow_simple]
  rcases hb with hb | hb | hb | hb
  all_goals
    rw [hb]
    rfl

/-- Whatever the backend may send in answer to a message, the message's lifecycle goes along with. -/
theorem follow_stateOf (h : kind.react seen f ≠ .refuse) :
    follow (stateOf kind seen) f = (kind.react seen f).map (stateOf kind) (Answer.response kind) := by
  unfold MessageKind.react at h ⊢
  by_cases haside : isAside f.messageType = true
  · rw [if_pos haside]
    exact follow_aside kind seen haside
  rw [if_neg haside] at h ⊢
  have hnext : kind.next (seen.map BackendMessage.messageType) f.messageType ≠ none := by
    intro hnone
    rw [hnone] at h
    exact h rfl
  cases kind with
  | parse | bind | close =>
    have hlast := mem_of_oneOf hnext
    simp only [mem_cons, not_mem_nil, or_false] at hlast
    rw [stateOf, follow_request]
    rcases hlast with hb | hb
    all_goals
      rw [hb]
      rfl
  | describePortal =>
    have hlast := mem_of_oneOf hnext
    simp only [mem_cons, not_mem_nil, or_false] at hlast
    rw [stateOf, follow_request]
    rcases hlast with hb | hb | hb
    all_goals
      rw [hb]
      rfl
  | describeStatement =>
    rw [stateOf, follow_request]
    rcases seen with _ | ⟨first, seen⟩
    · by_cases hparameters : f.messageType = parameterDescription
      · rw [hparameters]
        rfl
      · simp only [MessageKind.next, map_nil, if_pos, if_neg hparameters] at hnext
        have hb := mem_singleton.mp (mem_of_oneOf hnext)
        rw [hb]
        rfl
    · have hlast := mem_of_oneOf
        (show oneOf [rowDescription, noData, errorResponse] f.messageType ≠ none from hnext)
      simp only [mem_cons, not_mem_nil, or_false] at hlast
      rcases hlast with hb | hb | hb
      all_goals
        rw [hb]
        rfl
  | execute =>
    rw [stateOf, follow_request]
    by_cases hrow : f.messageType = dataRow
    · rw [hrow]
      rfl
    · simp only [MessageKind.next, if_neg hrow] at hnext
      have hlast := mem_of_oneOf hnext
      simp only [mem_cons, not_mem_nil, or_false] at hlast
      rcases hlast with hb | hb | hb | hb
      all_goals
        rw [hb]
        rfl
  | flush => exact absurd rfl hnext
  | query =>
    simp only [MessageKind.next] at hnext ⊢
    by_cases hresult : (seen.map BackendMessage.messageType).any isResult = true
    · rw [if_pos hresult] at hnext ⊢
      exact follow_ready rfl nofun hnext
    rw [if_neg hresult] at hnext ⊢
    by_cases hbody : f.messageType ∈ [rowDescription, dataRow, commandComplete, emptyQueryResponse, errorResponse]
    · rw [if_pos hbody]
      rcases mem_append.mp (show _ ∈ [rowDescription, dataRow, commandComplete, emptyQueryResponse] ++
        [errorResponse] from hbody) with hb | hb
      · exact follow_rows hb
      · exact follow_result rfl (resultOf_eq_none hresult) (.inl (mem_singleton.mp hb))
    · rw [if_neg hbody] at hnext ⊢
      exact follow_ready rfl nofun hnext
  | sync =>
    simp only [MessageKind.next] at hnext ⊢
    by_cases hresult : (seen.map BackendMessage.messageType).any isResult = true
    · rw [if_pos hresult] at hnext ⊢
      exact follow_ready rfl nofun hnext
    rw [if_neg hresult] at hnext ⊢
    by_cases herror : f.messageType = errorResponse
    · rw [if_pos herror]
      exact follow_result rfl (resultOf_eq_none hresult) (.inl herror)
    · rw [if_neg herror] at hnext ⊢
      exact follow_ready rfl nofun hnext
  | functionCall =>
    simp only [MessageKind.next] at hnext ⊢
    by_cases hresult : (seen.map BackendMessage.messageType).any isResult = true
    · rw [if_pos hresult] at hnext ⊢
      obtain ⟨result, hseen⟩ := exists_resultOf hresult
      exact follow_ready rfl (fun _ => by rw [hseen]; exact some_ne_none result) hnext
    rw [if_neg hresult] at hnext ⊢
    by_cases hbody : isResult f.messageType = true
    · rw [if_pos hbody]
      have hb : f.messageType = errorResponse ∨ f.messageType = functionCallResponse := by
        simpa only [isResult, mem_cons, not_mem_nil, or_false, decide_eq_true_eq] using hbody
      exact follow_result rfl (resultOf_eq_none hresult) (hb.imp_right fun hb => ⟨rfl, hb⟩)
    · rw [if_neg hbody] at hnext
      exact absurd rfl hnext

/-- The tracker's lifecycles stand for the backend. -/
def recognises (config : ProtocolExtractionConfig) : Simulation (backend config) (lifecycles config) where
  state message := stateOf message.kind
  result message := Answer.response message.kind
  start message := by
    simp only [lifecycles, backend, message.lifecyclesOf_eq]
    cases message.kind <;> rfl
  barrier message := by
    simp only [lifecycles, backend, message.lifecyclesOf_eq]
    cases message.kind <;> rfl
  react h := follow_stateOf h

/-! ## The error of an answer -/

def errorIn (messages : List (BackendMessage config)) : Option (BackendMessage config) :=
  messages.find? fun f => f.messageType == errorResponse

def Answer.error? (answer : Answer config) : Option (BackendMessage config) := errorIn (answer.body ++ [answer.last])

theorem errorIn_snoc (seen : List (BackendMessage config)) (f : BackendMessage config) :
    errorIn (seen ++ [f]) = (errorIn seen).or (if f.messageType == errorResponse then some f else none) := by
  rw [errorIn, List.find?_append, List.find?_singleton]
  rfl

/-- As far as an answer has come, an error is what it amounts to. -/
structure Prescribed (kind : MessageKind) (seen : List (BackendMessage config)) : Prop where
  cycle : kind.isCycle = true → ∀ e, errorIn seen = some e → resultOf seen = some e
  other : kind.isCycle = false → errorIn seen = none

theorem oneOf_ne_some_false (last : List UInt8) (b : UInt8) : oneOf last b ≠ some false := by
  unfold oneOf
  split <;> exact nofun

/-- A cycle goes on only before its result, and another answer not with an error. -/
theorem next_some_false {seen : List UInt8} (h : kind.next seen b = some false) :
    (kind.isCycle = true ∧ ¬ seen.any isResult = true) ∨ (kind.isCycle = false ∧ b ≠ errorResponse) := by
  unfold MessageKind.next at h
  cases kind with
  | parse | bind | close | describePortal => exact absurd h (oneOf_ne_some_false _ _)
  | flush => cases h
  | describeStatement =>
    refine .inr ⟨rfl, ?_⟩
    rintro rfl
    dsimp only at h
    split at h
    · exact absurd h (by decide)
    · exact absurd h (oneOf_ne_some_false _ _)
  | execute =>
    refine .inr ⟨rfl, ?_⟩
    rintro rfl
    dsimp only at h
    exact absurd h (by decide)
  | query | functionCall | sync =>
    refine .inl ⟨rfl, fun hresult => ?_⟩
    dsimp only at h
    rw [if_pos hresult] at h
    exact oneOf_ne_some_false _ _ h

theorem next_some_true {seen : List UInt8} (h : kind.next seen b = some true) (hcycle : kind.isCycle = true) :
    b ≠ errorResponse := by
  rintro rfl
  unfold MessageKind.next at h
  cases kind with
  | query | functionCall | sync =>
    dsimp only at h
    split at h
    · cases h
    · exact absurd h (by decide)
  | _ => cases hcycle

theorem prescribed_nil (kind : MessageKind) : Prescribed kind ([] : List (BackendMessage config)) :=
  ⟨fun _ _ h => absurd h.symm (some_ne_none _), fun _ => rfl⟩

theorem Prescribed.advance {seen' : List (BackendMessage config)} (h : Prescribed kind seen)
    (hreact : kind.react seen f = .advance seen') : Prescribed kind seen' := by
  unfold MessageKind.react at hreact
  split at hreact
  · cases hreact
    exact h
  rcases hnext : kind.next (seen.map BackendMessage.messageType) f.messageType with _ | _ | _
  all_goals
    rw [hnext] at hreact
    cases hreact
  rcases next_some_false hnext with ⟨hcycle, hopen⟩ | ⟨hother, herror⟩
  · refine ⟨fun _ e he => ?_, fun hother => absurd (hcycle.symm.trans hother) (by decide)⟩
    -- no result so far, so no error either
    have hresult := resultOf_eq_none hopen
    have hnone : errorIn seen = none := by
      rcases hseen : errorIn seen with _ | e'
      · rfl
      · rw [h.cycle hcycle e' hseen] at hresult
        cases hresult
    rw [errorIn_snoc, hnone, none_or] at he
    split at he
    · next hb =>
        cases he
        rw [resultOf_snoc, hresult, none_or, if_pos]
        rw [beq_iff_eq.mp hb]
        rfl
    · cases he
  · refine ⟨fun hcycle => absurd (hcycle.symm.trans hother) (by decide), fun _ => ?_⟩
    rw [errorIn_snoc, h.other hother, none_or, if_neg]
    exact fun hb => herror (beq_iff_eq.mp hb)

/-- **An answer with an error has the status of the error.** -/
theorem Prescribed.finish (h : Prescribed kind seen) {answer : Answer config} {skip : Bool}
    (hreact : kind.react seen f = .finish answer skip) {e : BackendMessage config} (he : answer.error? = some e) :
    (answer.response kind).statusCode = e.response.statusCode := by
  unfold MessageKind.react at hreact
  split at hreact
  · cases hreact
  rcases hnext : kind.next (seen.map BackendMessage.messageType) f.messageType with _ | _ | _
  all_goals
    rw [hnext] at hreact
    cases hreact
  rw [Answer.error?, errorIn_snoc] at he
  unfold Answer.response
  rcases hcycle : kind.isCycle with _ | _
  · rw [h.other hcycle, none_or] at he
    split at he
    · cases he
      rfl
    · cases he
  · have hlast : ¬ (f.messageType == errorResponse) = true := fun hb => next_some_true hnext hcycle (beq_iff_eq.mp hb)
    rw [if_neg hlast, or_none] at he
    rw [if_pos rfl, h.cycle hcycle e he]
    rfl

end ENavigator.Postgres
