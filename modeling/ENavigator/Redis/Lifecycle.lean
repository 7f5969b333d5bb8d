import ENavigator.Redis.Parser

/-!
# The response lifecycle of a Redis command

An ordinary command waits for one reply; a subscription waits for the confirmation of each channel, and an
unsubscription from everything has no response that could be told apart. Pushes and attributes pass by an
ordinary command (`observeResponse_aside`), and its reply completes it (`observeResponse_reply`).
-/

namespace ENavigator.Redis

open ENavigator.Correlation

/-! ## Roles of server frames -/

def isReplyByte (b : UInt8) : Bool := b ∈ text "+-:$*_#,(=!%~"

def redisResponseRole : Bytes → Except RedisExtraction RedisResponseRole
  | [] => .error .malformedFrame
  | first :: _ =>
    if first = 62 then .ok .push
    else if first = 124 then .ok .attribute
    else if isReplyByte first then .ok .reply
    else .error .unsupportedFrame

/-- A short string at the cursor, simple or bulk. -/
def respStringAt (bytes : Bytes) (cursor : Nat) : Option (Bytes × Nat) :=
  match bytes[cursor]? with
  | some 43 =>
    (lineEnd bytes (cursor + 1)).bind fun stop =>
      let value := slice bytes (cursor + 1) stop
      if value.length > maxRedisCommandBytes then none else some (value, stop + 2)
  | some 36 =>
    match parseDecimalLine bytes (cursor + 1) with
    | .error _ => none
    | .ok (len, cursor) =>
      if len < 0 || len.toNat > maxRedisCommandBytes then none
      else
        let stop := cursor + len.toNat
        if getRange bytes stop (stop + 2) ≠ some crlf then none else some (slice bytes cursor stop, stop + 2)
  | _ => none

def isResp2PubsubDelivery (bytes : Bytes) : Bool :=
  match parseDecimalLine bytes 1 with
  | .error _ => false
  | .ok (itemCount, cursor) =>
    match respStringAt bytes cursor with
    | none => false
    | some (kind, _) =>
      itemCount = 3 && (kind = text "message" || kind = text "smessage") || itemCount = 4 && kind = text "pmessage"

/-- A RESP2 array is out of band only on a connection that has subscribed. -/
def redisConnectionResponseRole (bytes : Bytes) (subscription : RedisSubscriptionState) :
    Except RedisExtraction RedisResponseRole :=
  if subscription = .resp2 && isResp2PubsubDelivery bytes then .ok .push else redisResponseRole bytes

/-! ## Subscription confirmations -/

def subscriptionConfirmationKind (kind : Bytes) : Option RedisSubscriptionKind :=
  if eqIgnoreAsciiCase kind (text "subscribe") then some .subscribe
  else if eqIgnoreAsciiCase kind (text "psubscribe") then some .psubscribe
  else if eqIgnoreAsciiCase kind (text "ssubscribe") then some .ssubscribe
  else if eqIgnoreAsciiCase kind (text "unsubscribe") then some .unsubscribe
  else if eqIgnoreAsciiCase kind (text "punsubscribe") then some .punsubscribe
  else if eqIgnoreAsciiCase kind (text "sunsubscribe") then some .sunsubscribe
  else none

def RedisSubscriptionKind.isSubscribe : RedisSubscriptionKind → Bool
  | .subscribe | .psubscribe | .ssubscribe => true
  | .unsubscribe | .punsubscribe | .sunsubscribe => false

def RedisSubscriptionKind.isUnsubscribe (kind : RedisSubscriptionKind) : Bool := !kind.isSubscribe

/-- Whether a channel is named, and the cursor behind the name. -/
def skipRespSubscriptionName (bytes : Bytes) (cursor : Nat) : Except RedisExtraction (Bool × Nat) :=
  match bytes[cursor]? with
  | some 43 =>
    match lineEnd bytes (cursor + 1) with
    | none => .error .malformedFrame
    | some stop =>
      if stop - (cursor + 1) > maxRedisBulkStringBytes then .error .bulkStringTooLong else .ok (true, stop + 2)
  | some 36 => do
    let (len, cursor) ← parseDecimalLine bytes (cursor + 1)
    if len = -1 then pure (false, cursor)
    else if len < 0 then throw .malformedFrame
    else if len.toNat > maxRedisBulkStringBytes then throw .bulkStringTooLong
    else
      let stop := cursor + len.toNat
      if getRange bytes stop (stop + 2) ≠ some crlf then throw .malformedFrame else pure (true, stop + 2)
  | _ => .error .malformedFrame

/-- The number of subscriptions that ends a confirmation of this kind. -/
def confirmationEnd (bytes : Bytes) (state : RedisSubscriptionState) (kind : RedisSubscriptionKind)
    (hasName : Bool) (cursor : Nat) : Except RedisExtraction RedisSubscriptionConfirmation := do
  if bytes[cursor]? ≠ some 58 then throw .malformedFrame
  let (subscriptions, cursor) ← parseDecimalLine bytes (cursor + 1)
  if subscriptions < 0 || cursor ≠ bytes.length then throw .malformedFrame
  if subscriptions = 0 && kind.isSubscribe then throw .malformedFrame
  if !hasName && (!kind.isUnsubscribe || subscriptions ≠ 0) then throw .malformedFrame
  pure ⟨kind, if subscriptions = 0 then .none else state, hasName⟩

def parseRedisSubscriptionConfirmation (bytes : Bytes) :
    Except RedisExtraction (Option RedisSubscriptionConfirmation) :=
  if bytes.length > maxRedisSubscriptionConfirmationBytes then .error .frameTooLong
  else
    let read (state : RedisSubscriptionState) : Except RedisExtraction (Option RedisSubscriptionConfirmation) := do
      let (itemCount, cursor) ← parseDecimalLine bytes 1
      if itemCount ≠ 3 then pure none
      else match respStringAt bytes cursor with
      | none => pure none
      | some (word, cursor) =>
        match subscriptionConfirmationKind word with
        | none => pure none
        | some kind =>
          let (hasName, cursor) ← skipRespSubscriptionName bytes cursor
          let confirmation ← confirmationEnd bytes state kind hasName cursor
          pure (some confirmation)
    match bytes.head? with
    | some 42 => read .resp2
    | some 62 => read .resp3
    | _ => .ok none

/-! ## The lifecycle -/

inductive RedisResponseKind where
  | standard
  | reset
  | subscriptionConfirmations (kind : RedisSubscriptionKind) (remaining : Nat)
  | noCorrelatedResponse (kind : RedisSubscriptionKind)

structure RedisResponseLifecycle where
  kind : RedisResponseKind

inductive RedisResponseProgress where
  | «continue» (subscriptionState : Option RedisSubscriptionState)
  | complete (response : ParsedRedisResponse) (subscriptionState : Option RedisSubscriptionState)

/-- The subscription command and whether it ends subscriptions. -/
def subscriptionKind (command : Bytes) : Option (RedisSubscriptionKind × Bool) :=
  (subscriptionConfirmationKind command).map fun kind => (kind, kind.isUnsubscribe)

namespace RedisResponseLifecycle

def fromRequest (bytes : Bytes) (config : ProtocolExtractionConfig) :
    Except RedisExtraction RedisResponseLifecycle := do
  let frame ← parseRedisCommandFrame bytes config
  let command := frame.command.getD []
  if eqIgnoreAsciiCase command (text "RESET") && frame.argumentCount = 0 then pure ⟨.reset⟩
  else match subscriptionKind command with
  | some (kind, all) =>
    if all && frame.argumentCount = 0 then pure ⟨.noCorrelatedResponse kind⟩
    else if frame.argumentCount > 0 then pure ⟨.subscriptionConfirmations kind frame.argumentCount⟩
    else pure ⟨.standard⟩
  | none => pure ⟨.standard⟩

def expectsResponse (lifecycle : RedisResponseLifecycle) : Bool :=
  match lifecycle.kind with
  | .noCorrelatedResponse _ => false
  | _ => true

/-- What a confirmation of the command's own kind says about the connection. -/
def confirmedState (expected : RedisSubscriptionKind) (bytes : Bytes) :
    Except RedisExtraction (Option RedisSubscriptionState) := do
  match ← parseRedisSubscriptionConfirmation bytes with
  | none => pure none
  | some confirmation =>
    if confirmation.kind ≠ expected then pure none
    else if !confirmation.hasName then throw .malformedFrame
    else pure (some confirmation.state)

def subscriptionStateUpdate (lifecycle : RedisResponseLifecycle) (bytes : Bytes) :
    Except RedisExtraction (Option RedisSubscriptionState) :=
  match lifecycle.kind with
  | .subscriptionConfirmations kind _ => confirmedState kind bytes
  | .noCorrelatedResponse kind => confirmedState kind bytes
  | .reset => .ok (if eqIgnoreAsciiCase bytes (text "+RESET" ++ crlf) then some .none else none)
  | .standard => .ok none

/-- One server frame: the progress, and the lifecycle after it. -/
def observeResponse (lifecycle : RedisResponseLifecycle) (bytes : Bytes) (subscription : RedisSubscriptionState)
    (config : ProtocolExtractionConfig) : Except RedisExtraction (RedisResponseProgress × RedisResponseLifecycle) := do
  if !lifecycle.expectsResponse then throw .unsupportedFrame
  let role ← redisConnectionResponseRole bytes subscription
  let response ← parseRedisResponse bytes config
  let update ← lifecycle.subscriptionStateUpdate bytes
  match lifecycle.kind with
  | .subscriptionConfirmations kind remaining =>
    if response.errorType.isSome then pure (.complete response none, lifecycle)
    else if update.isNone then pure (.continue none, lifecycle)
    else if remaining = 0 then throw .malformedFrame
    else
      let after : RedisResponseLifecycle := ⟨.subscriptionConfirmations kind (remaining - 1)⟩
      if remaining - 1 = 0 then pure (.complete response update, after) else pure (.continue update, after)
  | _ => if role = .reply then pure (.complete response update, lifecycle) else pure (.continue none, lifecycle)

def ordinary (lifecycle : RedisResponseLifecycle) : Bool :=
  match lifecycle.kind with
  | .standard | .reset => true
  | .subscriptionConfirmations _ _ | .noCorrelatedResponse _ => false

/-- What a reply says about the connection, to an ordinary command: nothing, or that it has no subscription. -/
theorem subscriptionStateUpdate_ordinary {lifecycle : RedisResponseLifecycle} (h : lifecycle.ordinary = true)
    (bytes : Bytes) : ∃ update, lifecycle.subscriptionStateUpdate bytes = .ok update ∧ ∀ s ∈ update, s = .none := by
  rcases lifecycle with ⟨_ | _ | ⟨_, _⟩ | _⟩
  · exact ⟨none, rfl, nofun⟩
  · refine ⟨_, rfl, fun s hs => ?_⟩
    split at hs
    · exact (Option.some.inj hs).symm
    · cases hs
  · cases h
  · cases h

variable {lifecycle : RedisResponseLifecycle} {bytes : Bytes} {config : ProtocolExtractionConfig}

theorem expectsResponse_ordinary (h : lifecycle.ordinary = true) : lifecycle.expectsResponse = true := by
  rcases lifecycle with ⟨_ | _ | ⟨_, _⟩ | _⟩
  · rfl
  · rfl
  · cases h
  · cases h

/-- The reply to an ordinary command completes it. -/
theorem observeResponse_reply {response : ParsedRedisResponse} (h : lifecycle.ordinary = true)
    (hrole : redisResponseRole bytes = .ok .reply) (hparse : parseRedisResponse bytes config = .ok response) :
    ∃ update, lifecycle.observeResponse bytes .none config = .ok (.complete response update, lifecycle) ∧
      ∀ s ∈ update, s = .none := by
  obtain ⟨update, hupdate, hnone⟩ := subscriptionStateUpdate_ordinary h bytes
  refine ⟨update, ?_, hnone⟩
  have hrole' : redisConnectionResponseRole bytes .none = .ok .reply := hrole
  simp only [observeResponse, expectsResponse_ordinary h, hrole', hparse, hupdate, Bool.not_true,
    Bool.false_eq_true, if_false, bind, Except.bind, pure, Except.pure]
  rcases lifecycle with ⟨_ | _ | ⟨_, _⟩ | _⟩
  · rfl
  · rfl
  · cases h
  · cases h

/-- A push or an attribute passes an ordinary command by. -/
theorem observeResponse_aside {role : RedisResponseRole} (h : lifecycle.ordinary = true)
    (hrole : redisResponseRole bytes = .ok role) (haside : role ≠ .reply) :
    (∃ e, lifecycle.observeResponse bytes .none config = .error e) ∨
      lifecycle.observeResponse bytes .none config = .ok (.continue none, lifecycle) := by
  obtain ⟨update, hupdate, -⟩ := subscriptionStateUpdate_ordinary h bytes
  have hrole' : redisConnectionResponseRole bytes .none = .ok role := hrole
  rcases hparse : parseRedisResponse bytes config with e | response
  all_goals
    simp only [observeResponse, expectsResponse_ordinary h, hrole', hparse, hupdate, Bool.not_true,
      Bool.false_eq_true, if_false, bind, Except.bind, pure, Except.pure]
  · exact .inl ⟨e, rfl⟩
  · right
    rcases lifecycle with ⟨_ | _ | ⟨_, _⟩ | _⟩
    · exact if_neg haside
    · exact if_neg haside
    · cases h
    · cases h

end RedisResponseLifecycle

end ENavigator.Redis
