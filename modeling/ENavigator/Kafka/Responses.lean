import ENavigator.Correlation.Observation
import ENavigator.Lib.Reader

/-!
# Kafka responses

The walks over response bodies that look for the first error code. The cursor of the source is kept as what is left of
the body behind it. Modelled are the data path (produce, fetch, offsets, metadata) and group joins; the walks of the
other keys are a parameter of the dispatch.
-/

namespace ENavigator.Kafka

open ENavigator.Correlation

def maxKafkaTags : Nat := 16
def maxVarintBytes : Nat := 5
def maxKafkaResponseEntries : Nat := 1024

inductive KafkaExtraction
  | frameTooLong | invalidUtf8 | malformedFrame | clientIdTooLong | unsupportedApiKey | unsupportedApiVersion
  deriving DecidableEq, Repr

abbrev BodyReader := Reader UInt8 KafkaExtraction

/-! ## Fields -/

def readI16BeCursor : BodyReader Int := do
  let raw ← Reader.takeExactly 2 .malformedFrame
  pure (signed 16 (beNat raw))

def readI32BeCursor : BodyReader Int := do
  let raw ← Reader.takeExactly 4 .malformedFrame
  pure (signed 32 (beNat raw))

def skipBytes (len : Nat) : BodyReader Unit := do
  let _ ← Reader.takeExactly len .malformedFrame
  pure ()

def readRequestArrayLen : BodyReader Nat := do
  let len ← readI32BeCursor
  if len < 0 then Reader.fail .malformedFrame
  else if len.toNat > maxKafkaResponseEntries then Reader.fail .frameTooLong
  else pure len.toNat

def readResponseArrayLen : BodyReader Nat := readRequestArrayLen

/-- A length and as many octets; a nullable field may have length -1. -/
def skipCounted (readLen : BodyReader Int) (nullable : Bool) (maxLen : Nat) (tooLong : KafkaExtraction) :
    BodyReader Unit := do
  let len ← readLen
  if nullable ∧ len = -1 then pure ()
  else if len < 0 then Reader.fail .malformedFrame
  else if len.toNat > maxLen then Reader.fail tooLong
  else skipBytes len.toNat

def skipKafkaString (maxStringBytes : Nat) : BodyReader Unit :=
  skipCounted readI16BeCursor false maxStringBytes .clientIdTooLong

def skipNullableKafkaString (maxStringBytes : Nat) : BodyReader Unit :=
  skipCounted readI16BeCursor true maxStringBytes .clientIdTooLong

def skipKafkaBytes (maxLen : Nat) : BodyReader Unit := skipCounted readI32BeCursor false maxLen .frameTooLong

def skipNullableBytes (maxLen : Nat) : BodyReader Unit := skipCounted readI32BeCursor true maxLen .frameTooLong

def skipInt32Array : BodyReader Unit := do
  let len ← readResponseArrayLen
  skipBytes (saturatingMul len 4)

/-- `if api_version >= first { .. }` -/
def fromVersion (apiVersion first : Int) (r : BodyReader Unit) : BodyReader Unit :=
  if first ≤ apiVersion then r else pure ()

/-- The first code that is not zero is kept. -/
def recordError (first : Option Int) (code : Int) : Option Int :=
  if code ≠ 0 ∧ first.isNone then some code else first

/-! ## Bodies -/

variable (apiVersion : Int) (config : ProtocolExtractionConfig)

/-- The nested loops over topics and their partitions. -/
def forEachPartition (partition : Option Int → BodyReader (Option Int)) : BodyReader (Option Int) := do
  let topicCount ← readResponseArrayLen
  Reader.times topicCount (fun first => do
    skipKafkaString config.maxRequestLineBytes
    let partitionCount ← readResponseArrayLen
    Reader.times partitionCount partition first) none

variable (first : Option Int) (bytes : Bytes)

def producePartition : BodyReader (Option Int) := do
  skipBytes 4
  let errorCode ← readI16BeCursor
  skipBytes 8
  fromVersion apiVersion 2 (skipBytes 8)
  fromVersion apiVersion 5 (skipBytes 8)
  pure (recordError first errorCode)

def produceResponseErrorCode : BodyReader Int := do
  skipBytes 4
  let first ← forEachPartition config (producePartition apiVersion)
  fromVersion apiVersion 1 (skipBytes 4)
  pure (first.getD 0)

/-- The aborted transactions are read as an array that is not null. -/
def skipAbortedTransactions : BodyReader Unit := do
  let abortedCount ← readResponseArrayLen
  Reader.times abortedCount (fun _ => skipBytes 16) ()

def fetchPartition : BodyReader (Option Int) := do
  skipBytes 4
  let errorCode ← readI16BeCursor
  skipBytes 8
  fromVersion apiVersion 4 (skipBytes 8)
  fromVersion apiVersion 5 (skipBytes 8)
  fromVersion apiVersion 4 skipAbortedTransactions
  skipNullableBytes config.maxHeaderBytes
  pure (recordError first errorCode)

def fetchResponseErrorCode : BodyReader Int := do
  skipBytes 4
  fromVersion apiVersion 1 (skipBytes 4)
  let first ← forEachPartition config (fetchPartition apiVersion config)
  pure (first.getD 0)

def listOffsetsPartition : BodyReader (Option Int) := do
  skipBytes 4
  let errorCode ← readI16BeCursor
  skipBytes 16
  fromVersion apiVersion 4 (skipBytes 4)
  pure (recordError first errorCode)

def listOffsetsResponseErrorCode : BodyReader Int := do
  skipBytes 4
  fromVersion apiVersion 2 (skipBytes 4)
  let first ← forEachPartition config (listOffsetsPartition apiVersion)
  pure (first.getD 0)

def offsetCommitPartition : BodyReader (Option Int) := do
  skipBytes 4
  let errorCode ← readI16BeCursor
  pure (recordError first errorCode)

def offsetCommitResponseErrorCode : BodyReader Int := do
  skipBytes 4
  fromVersion apiVersion 3 (skipBytes 4)
  let first ← forEachPartition config offsetCommitPartition
  pure (first.getD 0)

def offsetFetchPartition : BodyReader (Option Int) := do
  skipBytes 12
  fromVersion apiVersion 5 (skipBytes 4)
  skipNullableKafkaString config.maxRequestLineBytes
  let errorCode ← readI16BeCursor
  pure (recordError first errorCode)

/-- The code of the response as a whole comes last and is looked at first. -/
def offsetFetchResponseErrorCode : BodyReader Int := do
  skipBytes 4
  fromVersion apiVersion 3 (skipBytes 4)
  let first ← forEachPartition config (offsetFetchPartition apiVersion config)
  if 2 ≤ apiVersion then do
    let topLevelErrorCode ← readI16BeCursor
    pure (if topLevelErrorCode ≠ 0 then topLevelErrorCode else first.getD 0)
  else pure (first.getD 0)

def metadataBroker : BodyReader Unit := do
  skipBytes 4
  skipKafkaString config.maxRequestLineBytes
  skipBytes 4
  fromVersion apiVersion 1 (skipNullableKafkaString config.maxRequestLineBytes)

def metadataPartition : BodyReader (Option Int) := do
  let partitionErrorCode ← readI16BeCursor
  skipBytes 8
  fromVersion apiVersion 7 (skipBytes 4)
  skipInt32Array
  skipInt32Array
  fromVersion apiVersion 5 skipInt32Array
  pure (recordError first partitionErrorCode)

def metadataTopic : BodyReader (Option Int) := do
  let topicErrorCode ← readI16BeCursor
  skipKafkaString config.maxRequestLineBytes
  fromVersion apiVersion 1 (skipBytes 1)
  let partitionCount ← readResponseArrayLen
  let first ← Reader.times partitionCount (metadataPartition apiVersion) (recordError first topicErrorCode)
  fromVersion apiVersion 8 (skipBytes 4)
  pure first

def metadataResponseErrorCode : BodyReader Int := do
  skipBytes 4
  fromVersion apiVersion 3 (skipBytes 4)
  let brokerCount ← readResponseArrayLen
  Reader.times brokerCount (fun _ => metadataBroker apiVersion config) ()
  fromVersion apiVersion 2 (skipNullableKafkaString config.maxRequestLineBytes)
  fromVersion apiVersion 1 (skipBytes 4)
  let topicCount ← readResponseArrayLen
  let first ← Reader.times topicCount (metadataTopic apiVersion config) none
  fromVersion apiVersion 8 (skipBytes 4)
  pure (first.getD 0)

/-- A member is read as its id and its metadata, at every version. -/
def joinGroupMember : BodyReader Unit := do
  skipKafkaString config.maxRequestLineBytes
  skipKafkaBytes config.maxHeaderBytes

def joinGroupResponseErrorCode : BodyReader Int := do
  skipBytes 4
  fromVersion apiVersion 2 (skipBytes 4)
  let errorCode ← readI16BeCursor
  skipBytes 4
  skipKafkaString config.maxRequestLineBytes
  skipKafkaString config.maxRequestLineBytes
  skipKafkaString config.maxRequestLineBytes
  let memberCount ← readResponseArrayLen
  Reader.times memberCount (fun _ => joinGroupMember config) ()
  pure errorCode

/-! ## Frames -/

structure ParsedKafkaResponse where
  operation : String
  statusCode : Bytes
  errorType : Option Bytes
  attributes : List TraceAttribute
  deriving DecidableEq, Repr

def frameBody (maxFrameBytes : Nat) : Except KafkaExtraction Bytes :=
  if bytes.length < 4 then .error .malformedFrame
  else
    let messageLen := signed 32 (beNat (bytes.take 4))
    if messageLen ≤ 0 then .error .malformedFrame
    else if messageLen.toNat + 4 > maxFrameBytes then .error .frameTooLong
    else if bytes.length < messageLen.toNat + 4 then .error .malformedFrame
    else .ok ((bytes.drop 4).take messageLen.toNat)

def kafkaResponse (operation apiKey : String) (errorCode : Int) : ParsedKafkaResponse :=
  let statusCode := text (toString errorCode)
  let errorType := if errorCode ≠ 0 then some statusCode else none
  { operation := operation
    statusCode := statusCode
    errorType := errorType
    attributes :=
      pushAttribute config.maxAttributes "error.type" errorType
        (pushAttribute config.maxAttributes "messaging.kafka.response.error_code" (some statusCode)
          (pushAttribute config.maxAttributes "messaging.kafka.api_version" (some (text (toString apiVersion)))
            (pushAttribute config.maxAttributes "messaging.kafka.api_key" (some (text apiKey))
              (pushAttribute config.maxAttributes "messaging.operation" (some (text operation))
                (pushAttribute config.maxAttributes "messaging.system" (some (text "kafka")) []))))) }

def parseKafkaResponseWithErrorCode (apiVersionSupported : Bool) (operation apiKey : String)
    (parseErrorCode : BodyReader Int) : Except KafkaExtraction ParsedKafkaResponse :=
  if !apiVersionSupported then .error .unsupportedApiVersion
  else if bytes.length > config.maxHeaderBytes then .error .frameTooLong
  else do
    let body ← frameBody bytes config.maxHeaderBytes
    let (errorCode, _) ← parseErrorCode body
    .ok (kafkaResponse apiVersion config operation apiKey errorCode)

def parseKafkaProduceResponse : Except KafkaExtraction ParsedKafkaResponse :=
  parseKafkaResponseWithErrorCode apiVersion config bytes (0 ≤ apiVersion ∧ apiVersion ≤ 7) "produce" "0"
    (produceResponseErrorCode apiVersion config)

def parseKafkaFetchResponse : Except KafkaExtraction ParsedKafkaResponse :=
  parseKafkaResponseWithErrorCode apiVersion config bytes (0 ≤ apiVersion ∧ apiVersion ≤ 5) "fetch" "1"
    (fetchResponseErrorCode apiVersion config)

def parseKafkaListOffsetsResponse : Except KafkaExtraction ParsedKafkaResponse :=
  parseKafkaResponseWithErrorCode apiVersion config bytes (1 ≤ apiVersion ∧ apiVersion ≤ 5) "list_offsets" "2"
    (listOffsetsResponseErrorCode apiVersion config)

def parseKafkaMetadataResponse : Except KafkaExtraction ParsedKafkaResponse :=
  parseKafkaResponseWithErrorCode apiVersion config bytes (0 ≤ apiVersion ∧ apiVersion ≤ 8) "metadata" "3"
    (metadataResponseErrorCode apiVersion config)

def parseKafkaOffsetCommitResponse : Except KafkaExtraction ParsedKafkaResponse :=
  parseKafkaResponseWithErrorCode apiVersion config bytes (2 ≤ apiVersion ∧ apiVersion ≤ 7) "offset_commit" "8"
    (offsetCommitResponseErrorCode apiVersion config)

def parseKafkaOffsetFetchResponse : Except KafkaExtraction ParsedKafkaResponse :=
  parseKafkaResponseWithErrorCode apiVersion config bytes (1 ≤ apiVersion ∧ apiVersion ≤ 5) "offset_fetch" "9"
    (offsetFetchResponseErrorCode apiVersion config)

def parseKafkaJoinGroupResponse : Except KafkaExtraction ParsedKafkaResponse :=
  parseKafkaResponseWithErrorCode apiVersion config bytes (0 ≤ apiVersion ∧ apiVersion ≤ 5) "join_group" "11"
    (joinGroupResponseErrorCode apiVersion config)

/-- The parser for the key of the request; `others` are the keys that are not modelled. -/
def parseKafkaResponseForApiKey
    (others : Int → Int → Bytes → ProtocolExtractionConfig → Except KafkaExtraction ParsedKafkaResponse)
    (apiKey : Int) (bytes : Bytes) : Except KafkaExtraction ParsedKafkaResponse :=
  match apiKey with
  | 0 => parseKafkaProduceResponse apiVersion config bytes
  | 1 => parseKafkaFetchResponse apiVersion config bytes
  | 2 => parseKafkaListOffsetsResponse apiVersion config bytes
  | 3 => parseKafkaMetadataResponse apiVersion config bytes
  | 8 => parseKafkaOffsetCommitResponse apiVersion config bytes
  | 9 => parseKafkaOffsetFetchResponse apiVersion config bytes
  | 11 => parseKafkaJoinGroupResponse apiVersion config bytes
  | _ => others apiKey apiVersion bytes config

end ENavigator.Kafka
