import ENavigator.Kafka.Responses

/-!
# Kafka requests

A request is its header (key, version, correlation id and client id) and a body by key and version. Whether the client
id is written in the flexible form is tried out on its octets. The body of an `ApiVersions` request is modelled; the
checks of the bodies of other keys are a parameter.
-/

namespace ENavigator.Kafka

open ENavigator.Correlation

/-! ## Flexible fields -/

/-- The loop over the octets of a varint: `value` holds the first `shift` bits. -/
def readVarintFrom : Nat → Nat → Nat → BodyReader Nat
  | 0, _, _ => Reader.fail .malformedFrame
  | fuel + 1, shift, value => do
    let raw ← Reader.takeExactly 1 .malformedFrame
    let byte := raw.headD 0
    let value := value ||| ((byte &&& 0x7f).toNat <<< shift)
    if byte &&& 0x80 = 0 then pure value else readVarintFrom fuel (shift + 7) value

def readUnsignedVarint : BodyReader Nat := readVarintFrom maxVarintBytes 0 0

/-- The text of a string whose length is known. -/
def skipText (len maxStringBytes : Nat) : BodyReader Unit :=
  if len > maxStringBytes then Reader.fail .clientIdTooLong
  else do
    let raw ← Reader.takeExactly len .malformedFrame
    if validUtf8 raw then pure () else Reader.fail .invalidUtf8

def skipCompactString (maxStringBytes : Nat) : BodyReader Unit := do
  let encodedLen ← readUnsignedVarint
  if encodedLen = 0 then Reader.fail .malformedFrame
  else skipText (encodedLen - 1) maxStringBytes

def skipTag (maxTagValueBytes : Nat) : BodyReader Unit := do
  let _ ← readUnsignedVarint
  let len ← readUnsignedVarint
  if len > maxTagValueBytes then Reader.fail .frameTooLong
  else skipBytes len

def skipTaggedFields (maxTagValueBytes : Nat) : BodyReader Unit := do
  let tagCount ← readUnsignedVarint
  if tagCount > maxKafkaTags then Reader.fail .malformedFrame
  else Reader.times tagCount (fun _ => skipTag maxTagValueBytes) ()

/-! ## The header -/

structure KafkaRequestHeader where
  apiKey : Int
  apiVersion : Int
  clientIdPresent : Bool

/-- Whether the client id is there; the octets behind it are left. -/
def parseNullableString (maxClientIdBytes : Nat) : BodyReader Bool := do
  let len ← readI16BeCursor
  if len = -1 then pure false
  else if len < -1 then Reader.fail .malformedFrame
  else do
    skipText len.toNat maxClientIdBytes
    pure (decide (len > 0))

def parseCompactNullableString (maxClientIdBytes : Nat) : BodyReader Bool := do
  let encodedLen ← readUnsignedVarint
  if encodedLen ≠ 0 then skipText (encodedLen - 1) maxClientIdBytes else pure ()
  skipTaggedFields maxClientIdBytes
  pure (decide (encodedLen ≠ 0))

/-- The flexible form is tried when the other fails; the error is that of the other. -/
def parseClientId (maxClientIdBytes : Nat) : BodyReader Bool := fun input =>
  match parseNullableString maxClientIdBytes input with
  | .ok parsed => .ok parsed
  | .error e =>
    match parseCompactNullableString maxClientIdBytes input with
    | .ok parsed => .ok parsed
    | .error _ => .error e

def requestHeader (maxClientIdBytes : Nat) : BodyReader KafkaRequestHeader := do
  let apiKey ← readI16BeCursor
  let apiVersion ← readI16BeCursor
  let _ ← readI32BeCursor
  let present ← parseClientId maxClientIdBytes
  pure ⟨apiKey, apiVersion, present⟩

/-! ## Bodies -/

def validateApiVersionsRequestBody (header : KafkaRequestHeader) (config : ProtocolExtractionConfig) (rest : Bytes) :
    Except KafkaExtraction Unit := do
  if header.apiVersion < 0 then .error .unsupportedApiVersion
  else
    let skip : BodyReader Unit :=
      if 3 ≤ header.apiVersion then do
        skipCompactString config.maxRequestLineBytes
        skipCompactString config.maxRequestLineBytes
        skipTaggedFields config.maxRequestLineBytes
      else pure ()
    let ((), rest) ← skip rest
    if rest ≠ [] then .error .malformedFrame else .ok ()

def apiKeyName : Int → Option String
  | 0 => some "produce"
  | 1 => some "fetch"
  | 2 => some "list_offsets"
  | 3 => some "metadata"
  | 8 => some "offset_commit"
  | 9 => some "offset_fetch"
  | 10 => some "find_coordinator"
  | 11 => some "join_group"
  | 12 => some "heartbeat"
  | 13 => some "leave_group"
  | 14 => some "sync_group"
  | 15 => some "describe_groups"
  | 16 => some "list_groups"
  | 17 => some "sasl_handshake"
  | 18 => some "api_versions"
  | 19 => some "create_topics"
  | 20 => some "delete_topics"
  | 21 => some "delete_records"
  | 22 => some "init_producer_id"
  | 23 => some "offset_for_leader_epoch"
  | 24 => some "add_partitions_to_txn"
  | 25 => some "add_offsets_to_txn"
  | 26 => some "end_txn"
  | 27 => some "write_txn_markers"
  | 28 => some "txn_offset_commit"
  | 29 => some "describe_acls"
  | 30 => some "create_acls"
  | 31 => some "delete_acls"
  | 32 => some "describe_configs"
  | 33 => some "alter_configs"
  | 34 => some "alter_replica_log_dirs"
  | 35 => some "describe_log_dirs"
  | 36 => some "sasl_authenticate"
  | 37 => some "create_partitions"
  | 38 => some "create_delegation_token"
  | 39 => some "renew_delegation_token"
  | 40 => some "expire_delegation_token"
  | 41 => some "describe_delegation_token"
  | 42 => some "delete_groups"
  | 43 => some "elect_leaders"
  | 44 => some "incremental_alter_configs"
  | 45 => some "alter_partition_reassignments"
  | 46 => some "list_partition_reassignments"
  | 47 => some "offset_delete"
  | 48 => some "describe_client_quotas"
  | 49 => some "alter_client_quotas"
  | 50 => some "describe_user_scram_credentials"
  | 51 => some "alter_user_scram_credentials"
  | 55 => some "describe_quorum"
  | 57 => some "update_features"
  | 60 => some "describe_cluster"
  | 61 => some "describe_producers"
  | 63 => some "broker_heartbeat"
  | 64 => some "unregister_broker"
  | 65 => some "describe_transactions"
  | 66 => some "list_transactions"
  | 67 => some "allocate_producer_ids"
  | 68 => some "consumer_group_heartbeat"
  | 69 => some "consumer_group_describe"
  | 70 => some "controller_registration"
  | 71 => some "get_telemetry_subscriptions"
  | 72 => some "push_telemetry"
  | 74 => some "list_config_resources"
  | 75 => some "describe_topic_partitions"
  | 76 => some "share_group_heartbeat"
  | 80 => some "add_raft_voter"
  | 81 => some "remove_raft_voter"
  | 82 => some "update_raft_voter"
  | 83 => some "initialize_share_group_state"
  | 84 => some "read_share_group_state"
  | 85 => some "write_share_group_state"
  | 86 => some "delete_share_group_state"
  | 87 => some "read_share_group_state_summary"
  | 90 => some "describe_share_group_offsets"
  | 92 => some "delete_share_group_offsets"
  | _ => none

/-! ## Requests -/

structure ParsedKafkaRequest where
  operation : Option String
  warning : Option String
  attributes : List TraceAttribute
  deriving DecidableEq, Repr

/-- The check of a body; `others` are the keys that are not modelled. -/
def validateRequestBody
    (others : KafkaRequestHeader → ProtocolExtractionConfig → Bytes → Except KafkaExtraction Unit)
    (header : KafkaRequestHeader) (config : ProtocolExtractionConfig) (rest : Bytes) : Except KafkaExtraction Unit :=
  match header.apiKey with
  | 18 => validateApiVersionsRequestBody header config rest
  | _ => others header config rest

def kafkaRequest (header : KafkaRequestHeader) (config : ProtocolExtractionConfig) (operation : String) :
    ParsedKafkaRequest where
  operation := some operation
  warning := none
  attributes :=
    pushAttribute config.maxAttributes "messaging.kafka.client_id_present"
      (if header.clientIdPresent then some (text "true") else none)
      (pushAttribute config.maxAttributes "messaging.kafka.api_version" (some (text (toString header.apiVersion)))
        (pushAttribute config.maxAttributes "messaging.kafka.api_key" (some (text (toString header.apiKey)))
          (pushAttribute config.maxAttributes "messaging.operation" (some (text operation))
            (pushAttribute config.maxAttributes "messaging.system" (some (text "kafka")) []))))

def parseKafkaRequest
    (others : KafkaRequestHeader → ProtocolExtractionConfig → Bytes → Except KafkaExtraction Unit)
    (bytes : Bytes) (config : ProtocolExtractionConfig) : Except KafkaExtraction ParsedKafkaRequest :=
  if bytes.length > config.maxHeaderBytes then .error .frameTooLong
  else do
    let body ← frameBody bytes config.maxHeaderBytes
    let (header, rest) ← requestHeader config.maxRequestLineBytes body
    validateRequestBody others header config rest
    match apiKeyName header.apiKey with
    | none => .error .unsupportedApiKey
    | some operation => .ok (kafkaRequest header config operation)

end ENavigator.Kafka
