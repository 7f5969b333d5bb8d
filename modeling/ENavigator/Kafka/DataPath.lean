import ENavigator.Kafka.Errors

/-!
# Responses on the data path

Produce, offset and metadata responses, as brokers encode them: the walk of each reads the whole message, and what it
gives is the first error code (`DataApi.reads_walk`). A walk is local (`DataApi.local_walk`), so a frame whose body is
cut short is refused. `status_of_data_response` puts both together with the frame.
-/

namespace ENavigator.Kafka

open ENavigator.Correlation Schema Reader List

/-! ## The code that is kept -/

theorem foldl_recordError (codes : List Int) (first : Option Int) :
    codes.foldl recordError first = first.or (codes.find? (· != 0)) := by
  induction codes generalizing first with
  | nil => rw [foldl_nil, List.find?_nil, Option.or_none]
  | cons code codes ih =>
    rw [foldl_cons, ih, List.find?_cons, recordError]
    by_cases hcode : code = 0
    · subst hcode
      rfl
    · have hbne : (code != 0) = true := bne_iff_ne.mpr hcode
      rw [hbne]
      cases first with
      | none => rw [if_pos ⟨hcode, rfl⟩]; rfl
      | some kept => rw [if_neg fun h => nomatch h.2]; rfl

theorem getD_foldl_recordError (codes : List Int) : (codes.foldl recordError none).getD 0 = firstError codes := by
  rw [foldl_recordError]
  rfl

theorem firstError_cons (code : Int) (codes : List Int) :
    firstError (code :: codes) = if code ≠ 0 then code else firstError codes := by
  rw [firstError, List.find?_cons]
  by_cases hzero : code = 0
  · rw [hzero]
    rfl
  · rw [bne_iff_ne.mpr hzero, if_pos hzero]
    rfl

def Silent (s : Schema) : Prop := ∀ value, s.errorCodes value = []

theorem silent_fixed (width : Nat) : Silent (fixed width) := fun _ => rfl
theorem silent_nullableString : Silent nullableString := fun value => by cases value <;> rfl

variable {s : Schema} {config : ProtocolExtractionConfig} {v : Int}

theorem Silent.since (h : Silent s) (apiVersion first : Int) : Silent (Schema.since apiVersion first s) := by
  unfold Schema.since
  split
  · exact h
  · exact fun _ => rfl

theorem Silent.array (h : Silent s) : Silent (Schema.array s) := by
  intro items
  exact flatMap_eq_nil_iff.mpr fun i _ => h i

/-- The reader moves past a part of the message that has no error code. -/
structure Quiet (config : ProtocolExtractionConfig) (r : BodyReader Unit) (s : Schema) : Prop where
  skips : Skips config r s
  silent : Silent s

theorem quiet_fixed {width : Nat} : Quiet config (skipBytes width) (fixed width) := ⟨skips_fixed width, fun _ => rfl⟩

theorem quiet_string : Quiet config (skipKafkaString config.maxRequestLineBytes) string := ⟨skips_string, fun _ => rfl⟩

theorem quiet_nullableString : Quiet config (skipNullableKafkaString config.maxRequestLineBytes) nullableString :=
  ⟨skips_nullableString, silent_nullableString⟩

theorem quiet_int32Array : Quiet config skipInt32Array (array int32) := ⟨skips_int32Array, (silent_fixed 4).array⟩

theorem Quiet.since {r : BodyReader Unit} (h : Quiet config r s) (first : Int) :
    Quiet config (fromVersion v first r) (Schema.since v first s) :=
  ⟨h.skips.since v first, h.silent.since v first⟩

/-! ## Walks -/

section walks

variable {α : Type} {rest : List Schema} {acc : Option Int} {next : BodyReader α} {k : Option Int → α}

/-- The reader moves past every value of the schema and gives what `k` makes of the first error code, of those behind
`acc`. -/
def Walks (config : ProtocolExtractionConfig) (r : BodyReader α) (s : Schema) (acc : Option Int) (k : Option Int → α) :
    Prop :=
  ∀ value : s.Value, Readable config s value → Reads r (s.encode value) (k ((s.errorCodes value).foldl recordError acc))

theorem errorCodes_cons (a : s.Value) (b : (fields rest).Value) :
    (fields (s :: rest)).errorCodes (a, b) = s.errorCodes a ++ (fields rest).errorCodes b := rfl

theorem walks_pure (k : Option Int → α) : Walks config (pure (k acc)) (fields []) acc k := fun _ _ => reads_pure _

theorem Quiet.walks {r : BodyReader Unit} (h : Quiet config r s) (hnext : Walks config next (fields rest) acc k) :
    Walks config (r >>= fun _ => next) (fields (s :: rest)) acc k := by
  rintro ⟨a, b⟩ ⟨ha, hb⟩
  rw [errorCodes_cons, h.silent a]
  exact (h.skips a ha).bind (hnext b hb)

theorem walks_two_fixed {m n : Nat} (hnext : Walks config next (fields rest) acc k) :
    Walks config (skipBytes (m + n) >>= fun _ => next) (fields (fixed m :: fixed n :: rest)) acc k := by
  rintro ⟨first, second, b⟩ ⟨-, -, hb⟩
  exact (reads_two_fixed first second).bind_two (hnext b hb)

theorem walks_errorCode {next : Int → BodyReader α}
    (hnext : ∀ code, Walks config (next code) (fields rest) (recordError acc code) k) :
    Walks config (readI16BeCursor >>= next) (fields (errorCode :: rest)) acc k := by
  rintro ⟨code, b⟩ ⟨-, hb⟩
  exact (reads_readI16 code.2).bind (hnext code.1 b hb)

theorem walks_array {item : Schema} {r : Option Int → BodyReader (Option Int)} {next : Option Int → BodyReader α}
    (h : Counts config r item) (hnext : ∀ first, Walks config (next first) (fields rest) first k) :
    Walks config (do let n ← readResponseArrayLen; let first ← Reader.times n r acc; next first)
      (fields (array item :: rest)) acc k := by
  rintro ⟨items, b⟩ ⟨hitems, hb⟩
  rw [errorCodes_cons, foldl_append]
  show Reads _ ((int 4 items.length ++ items.flatMap item.encode) ++ (fields rest).encode b) _
  rw [append_assoc]
  exact (reads_readResponseArrayLen hitems.1).bind ((h.times items hitems acc).bind (hnext _ b hb))

theorem Quiet.walks_array {item : Schema} {r : BodyReader Unit} (h : Quiet config r item)
    (hnext : Walks config next (fields rest) acc k) :
    Walks config (do let n ← readResponseArrayLen; Reader.times n (fun _ => r) (); next)
      (fields (array item :: rest)) acc k := by
  rintro ⟨items, b⟩ ⟨hitems, hb⟩
  rw [errorCodes_cons, h.silent.array items]
  show Reads _ ((int 4 items.length ++ items.flatMap item.encode) ++ (fields rest).encode b) _
  rw [append_assoc]
  exact (reads_readResponseArrayLen hitems.1).bind ((skips_array h.skips items hitems).bind (hnext b hb))

theorem walks_topics {partition : Schema} {r : Option Int → BodyReader (Option Int)} {next : Option Int → BodyReader α}
    (h : Counts config r partition) (hnext : ∀ first, Walks config (next first) (fields rest) first k) :
    Walks config (forEachPartition config r >>= next) (fields (Kafka.topics partition :: rest)) none k := by
  rintro ⟨topics, b⟩ ⟨htopics, hb⟩
  rw [errorCodes_cons, foldl_append]
  exact (h.topics topics htopics).bind (hnext _ b hb)

end walks

/-! ## Partitions -/

section partitions

variable (v : Int)

theorem counts_of_walks {r : Option Int → BodyReader (Option Int)} (h : ∀ first, Walks config (r first) s first id) :
    Counts config r s := fun value hvalue first => h first value hvalue

theorem counts_producePartition : Counts config (producePartition v)
    (fields [int32, errorCode, int64, since v 2 int64, since v 5 int64]) :=
  counts_of_walks fun _ => quiet_fixed.walks <| walks_errorCode fun _ => quiet_fixed.walks <|
    (quiet_fixed.since 2).walks <| (quiet_fixed.since 5).walks <| walks_pure id

theorem counts_listOffsetsPartition : Counts config (listOffsetsPartition v)
    (fields [int32, errorCode, int64, int64, since v 4 int32]) :=
  counts_of_walks fun _ => quiet_fixed.walks <| walks_errorCode fun _ => walks_two_fixed (m := 8) (n := 8) <|
    (quiet_fixed.since 4).walks <| walks_pure id

theorem counts_offsetCommitPartition : Counts config offsetCommitPartition (fields [int32, errorCode]) :=
  counts_of_walks fun _ => quiet_fixed.walks <| walks_errorCode fun _ => walks_pure id

theorem counts_offsetFetchPartition : Counts config (offsetFetchPartition v config)
    (fields [int32, int64, since v 5 int32, nullableString, errorCode]) :=
  counts_of_walks fun _ => walks_two_fixed (m := 4) (n := 8) <| (quiet_fixed.since 5).walks <|
    quiet_nullableString.walks <| walks_errorCode fun _ => walks_pure id

theorem quiet_metadataBroker : Quiet config (metadataBroker v config)
    (fields [int32, string, int32, since v 1 nullableString]) := by
  constructor
  · rintro ⟨node, host, port, rack, ⟨⟩⟩ ⟨-, hhost, -, hrack, -⟩
    refine (reads_fixed node).bind ?_
    refine (skips_string host hhost).bind ?_
    refine (reads_fixed port).bind ?_
    show Reads _ ((since v 1 nullableString).encode rack ++ []) ()
    rw [append_nil]
    exact skips_nullableString.since v 1 rack hrack
  · rintro ⟨node, host, port, rack, ⟨⟩⟩
    simp [errorCodes, silent_nullableString.since v 1 rack]

theorem counts_metadataPartition : Counts config (metadataPartition v)
    (fields [errorCode, int32, int32, since v 7 int32, array int32, array int32, since v 5 (array int32)]) :=
  counts_of_walks fun _ => walks_errorCode fun _ => walks_two_fixed (m := 4) (n := 4) <| (quiet_fixed.since 7).walks <|
    quiet_int32Array.walks <| quiet_int32Array.walks <| (quiet_int32Array.since 5).walks <| walks_pure id

theorem counts_metadataTopic : Counts config (metadataTopic v config)
    (fields [errorCode, string, since v 1 int8,
      array (fields [errorCode, int32, int32, since v 7 int32, array int32, array int32, since v 5 (array int32)]),
      since v 8 int32]) :=
  counts_of_walks fun _ => walks_errorCode fun _ => quiet_string.walks <| (quiet_fixed.since 1).walks <|
    walks_array (counts_metadataPartition v) fun _ => (quiet_fixed.since 8).walks <| walks_pure id

end partitions

/-! ## Responses -/

inductive DataApi
  | produce | listOffsets | metadata | offsetCommit | offsetFetch

namespace DataApi

def key : DataApi → Int
  | produce => 0
  | listOffsets => 2
  | metadata => 3
  | offsetCommit => 8
  | offsetFetch => 9

def Supports : DataApi → Int → Prop
  | produce, v => 0 ≤ v ∧ v ≤ 7
  | listOffsets, v => 1 ≤ v ∧ v ≤ 5
  | metadata, v => 0 ≤ v ∧ v ≤ 8
  | offsetCommit, v => 2 ≤ v ∧ v ≤ 7
  | offsetFetch, v => 1 ≤ v ∧ v ≤ 5

instance : (api : DataApi) → (v : Int) → Decidable (api.Supports v)
  | produce, _ | listOffsets, _ | metadata, _ | offsetCommit, _ | offsetFetch, _ => inferInstanceAs (Decidable (_ ∧ _))

def schema : DataApi → Int → Schema
  | produce => produceResponse
  | listOffsets => listOffsetsResponse
  | metadata => metadataResponse
  | offsetCommit => offsetCommitResponse
  | offsetFetch => offsetFetchResponse

/-- The codes in the order in which they count: that of the wire, but the code of an offset fetch as a whole first. -/
def codes : (api : DataApi) → (v : Int) → (api.schema v).Value → List Int
  | produce, v, value => (produceResponse v).errorCodes value
  | listOffsets, v, value => (listOffsetsResponse v).errorCodes value
  | metadata, v, value => (metadataResponse v).errorCodes value
  | offsetCommit, v, value => (offsetCommitResponse v).errorCodes value
  | offsetFetch, v, (_, topics, topLevel, _) =>
    (since v 2 errorCode).errorCodes topLevel ++ (offsetFetchTopics v).errorCodes topics

def walk : DataApi → Int → ProtocolExtractionConfig → BodyReader Int
  | produce => produceResponseErrorCode
  | listOffsets => listOffsetsResponseErrorCode
  | metadata => metadataResponseErrorCode
  | offsetCommit => offsetCommitResponseErrorCode
  | offsetFetch => offsetFetchResponseErrorCode

end DataApi

/-- A response: the id of the request and the message. -/
def response (correlationId : int32.Value) {s : Schema} (value : s.Value) : Bytes := correlationId.1 ++ s.encode value

section reads

variable {config : ProtocolExtractionConfig} {v : Int} (id : int32.Value)

theorem reads_of_walks {r : BodyReader Int} (h : Walks config r s none (·.getD 0)) {value : s.Value}
    (hvalue : Readable config s value) :
    Reads (skipBytes 4 >>= fun _ => r) (response id value) (firstError (s.errorCodes value)) := by
  rw [← getD_foldl_recordError]
  exact (reads_fixed id).bind (h value hvalue)

/-- The code of an offset fetch as a whole, which is there from version 2 on, behind the `codes` of its partitions. -/
theorem reads_topLevel (topLevel : (since v 2 errorCode).Value) (codes : List Int) :
    Reads (if 2 ≤ v then do
        let topLevelErrorCode ← readI16BeCursor
        pure (if topLevelErrorCode ≠ 0 then topLevelErrorCode else (codes.foldl recordError none).getD 0)
      else pure ((codes.foldl recordError none).getD 0))
      ((since v 2 errorCode).encode topLevel) (firstError ((since v 2 errorCode).errorCodes topLevel ++ codes)) := by
  rw [getD_foldl_recordError]
  revert topLevel
  by_cases hv : 2 ≤ v
  · have hsince : since v 2 errorCode = errorCode := if_pos hv
    rw [hsince, if_pos hv]
    intro topLevel
    refine (reads_readI16 topLevel.2).bind_last ?_
    rw [show errorCode.errorCodes topLevel ++ codes = topLevel.1 :: codes from rfl, firstError_cons]
    exact reads_pure _
  · have hsince : since v 2 errorCode = empty := if_neg hv
    rw [hsince, if_neg hv]
    intro topLevel
    exact reads_pure _

theorem reads_offsetFetch {value : (offsetFetchResponse v).Value} (h : Readable config (offsetFetchResponse v) value) :
    Reads (offsetFetchResponseErrorCode v config) (response id value)
      (firstError (DataApi.codes .offsetFetch v value)) := by
  obtain ⟨throttle, topics, topLevel, ⟨⟩⟩ := value
  obtain ⟨hthrottle, htopics, -, -⟩ := h
  refine (reads_fixed id).bind ?_
  refine ((skips_fixed 4).since v 3 throttle hthrottle).bind ?_
  refine ((counts_offsetFetchPartition v).topics topics htopics).bind ?_
  have hlast := reads_topLevel topLevel ((offsetFetchTopics v).errorCodes topics)
  rw [← append_nil ((since v 2 errorCode).encode topLevel)] at hlast
  exact hlast

end reads

/-- **The walk of a response reads all of it and gives its first error code.** -/
theorem DataApi.reads_walk (api : DataApi) (id : int32.Value)
    {value : (api.schema v).Value} (h : Readable config (api.schema v) value) :
    Reads (api.walk v config) (response id value) (firstError (api.codes v value)) := by
  cases api with
  | produce =>
    refine reads_of_walks id ?_ h
    exact walks_topics (counts_producePartition v) fun _ => (quiet_fixed.since 1).walks <| walks_pure (·.getD 0)
  | listOffsets =>
    refine reads_of_walks id ?_ h
    exact (quiet_fixed.since 2).walks <| walks_topics (counts_listOffsetsPartition v) fun _ => walks_pure (·.getD 0)
  | metadata =>
    refine reads_of_walks id ?_ h
    exact (quiet_fixed.since 3).walks <| (quiet_metadataBroker v).walks_array <| (quiet_nullableString.since 2).walks <|
      (quiet_fixed.since 1).walks <| walks_array (counts_metadataTopic v) fun _ => (quiet_fixed.since 8).walks <|
        walks_pure (·.getD 0)
  | offsetCommit =>
    refine reads_of_walks id ?_ h
    exact (quiet_fixed.since 3).walks <| walks_topics counts_offsetCommitPartition fun _ => walks_pure (·.getD 0)
  | offsetFetch => exact reads_offsetFetch id h

section locality

set_option synthInstance.maxSize 1000

instance (first : Option Int) : IsLocal (metadataPartition v first) := by unfold metadataPartition; infer_instance

instance (first : Option Int) : IsLocal (metadataTopic v config first) := by unfold metadataTopic; infer_instance

theorem DataApi.local_walk (api : DataApi) (v : Int) (config : ProtocolExtractionConfig) :
    IsLocal (api.walk v config) := by
  cases api with
  | produce =>
    show IsLocal (produceResponseErrorCode v config)
    unfold produceResponseErrorCode producePartition
    infer_instance
  | listOffsets =>
    show IsLocal (listOffsetsResponseErrorCode v config)
    unfold listOffsetsResponseErrorCode listOffsetsPartition
    infer_instance
  | metadata =>
    show IsLocal (metadataResponseErrorCode v config)
    unfold metadataResponseErrorCode metadataBroker
    infer_instance
  | offsetCommit =>
    show IsLocal (offsetCommitResponseErrorCode v config)
    unfold offsetCommitResponseErrorCode offsetCommitPartition
    infer_instance
  | offsetFetch =>
    show IsLocal (offsetFetchResponseErrorCode v config)
    unfold offsetFetchResponseErrorCode offsetFetchPartition
    infer_instance

end locality

/-! ## Frames -/

/-- A body behind its length. -/
def frame (body : Bytes) : Bytes := int 4 body.length ++ body

theorem length_frame (body : Bytes) : (frame body).length = 4 + body.length := by
  rw [frame, length_append, length_int]

theorem frameBody_frame {body : Bytes} {max : Nat} (hpos : 0 < body.length) (hlen : body.length < 2 ^ 31)
    (hmax : (frame body).length ≤ max) (trailing : Bytes) : frameBody (frame body ++ trailing) max = .ok body := by
  have hlength : (frame body ++ trailing).length = 4 + body.length + trailing.length := by
    rw [length_append, length_frame]
  have htake : (frame body ++ trailing).take 4 = int 4 body.length := by
    rw [frame, append_assoc, take_left' (length_int _ _)]
  have hdrop : (frame body ++ trailing).drop 4 = body ++ trailing := by
    rw [frame, append_assoc, drop_left' (length_int _ _)]
  rw [length_frame] at hmax
  rw [frameBody, if_neg (by omega), htake, signed_int_four (by omega), hdrop, hlength]
  simp only [Int.toNat_natCast, take_left]
  rw [if_neg (by omega), if_neg (by omega), if_neg (by omega)]

theorem frameBody_frame_nil (max : Nat) (trailing : Bytes) :
    frameBody (frame [] ++ trailing) max = .error .malformedFrame := by
  have hframe : frame [] = [0, 0, 0, 0] := by decide
  have hzero : signed 32 (beNat [0, 0, 0, 0]) = 0 := by decide
  rw [frameBody, hframe]
  simp [hzero]

theorem parse_frame {body trailing : Bytes} (hpos : 0 < body.length) (hlen : body.length < 2 ^ 31)
    (hmax : (frame body ++ trailing).length ≤ config.maxHeaderBytes) (operation key : String) (walk : BodyReader Int) :
    parseKafkaResponseWithErrorCode v config (frame body ++ trailing) true operation key walk
      = (walk body).map fun p => kafkaResponse v config operation key p.1 := by
  have hframe : (frame body).length ≤ config.maxHeaderBytes := by
    rw [length_append] at hmax
    omega
  rw [parseKafkaResponseWithErrorCode, if_neg (by simp), if_neg (by omega), frameBody_frame hpos hlen hframe]
  show (walk body >>= _) = _
  rcases walk body with _ | ⟨code, rest⟩ <;> rfl

theorem DataApi.parse_eq (api : DataApi) (hv : api.Supports v) (config : ProtocolExtractionConfig)
    (others : Int → Int → Bytes → ProtocolExtractionConfig → Except KafkaExtraction ParsedKafkaResponse)
    (bytes : Bytes) : ∃ operation key, parseKafkaResponseForApiKey v config others api.key bytes
      = parseKafkaResponseWithErrorCode v config bytes true operation key (api.walk v config) := by
  have hsupported : ∀ p [Decidable p], p → ∀ operation key walk,
      parseKafkaResponseWithErrorCode v config bytes (decide p) operation key walk
        = parseKafkaResponseWithErrorCode v config bytes true operation key walk := by
    intro p _ hp operation key walk
    rw [decide_eq_true hp]
  cases api with
  | produce => exact ⟨"produce", "0", hsupported _ hv _ _ _⟩
  | listOffsets => exact ⟨"list_offsets", "2", hsupported _ hv _ _ _⟩
  | metadata => exact ⟨"metadata", "3", hsupported _ hv _ _ _⟩
  | offsetCommit => exact ⟨"offset_commit", "8", hsupported _ hv _ _ _⟩
  | offsetFetch => exact ⟨"offset_fetch", "9", hsupported _ hv _ _ _⟩

/-- The frame that Kafka prescribes for a body: its length is a positive `INT32`. -/
def Framed (bytes body : Bytes) : Prop := bytes = frame body ∧ body.length < 2 ^ 31

theorem length_response_pos (id : int32.Value) (value : s.Value) : 0 < (response id value).length := by
  rw [response, length_append]
  omega

theorem length_encode_le (id : int32.Value) (value : s.Value) {max : Nat}
    (h : (frame (response id value)).length ≤ max) : (s.encode value).length ≤ max := by
  rw [length_frame, response, length_append] at h
  omega

theorem parse_response {supported : Bool} (hsupported : supported = true) (id : int32.Value) (value : s.Value)
    (hlen : (response id value).length < 2 ^ 31) (hmax : (frame (response id value)).length ≤ config.maxHeaderBytes)
    (operation key : String) (walk : BodyReader Int) :
    parseKafkaResponseWithErrorCode v config (frame (response id value)) supported operation key walk
      = (walk (response id value)).map fun p => kafkaResponse v config operation key p.1 := by
  subst hsupported
  have hparse := @parse_frame config v (response id value) [] (length_response_pos id value) hlen
    (by rwa [append_nil]) operation key walk
  rwa [append_nil] at hparse

/-- **The status of a response on the data path is its first error code, and no body that is cut short is accepted.** -/
theorem status_of_data_response (api : DataApi) {v : Int} (hv : api.Supports v) (config : ProtocolExtractionConfig)
    (others : Int → Int → Bytes → ProtocolExtractionConfig → Except KafkaExtraction ParsedKafkaResponse)
    (id : int32.Value) {value : (api.schema v).Value} {bytes : Bytes}
    (hwithin : (api.schema v).Within config.maxRequestLineBytes value) (hframed : Framed bytes (response id value))
    (hmax : bytes.length ≤ config.maxHeaderBytes) :
    (∃ parsed, parseKafkaResponseForApiKey v config others api.key bytes = .ok parsed ∧
      parsed.statusCode = text (toString (firstError (api.codes v value)))) ∧
    ∀ cut trailing, cut <+: response id value → cut ≠ response id value →
      ∃ e, parseKafkaResponseForApiKey v config others api.key (frame cut ++ trailing) = .error e := by
  obtain ⟨rfl, hlen⟩ := hframed
  have hreads := api.reads_walk id (readable_of_within config hwithin (length_encode_le id value hmax))
  constructor
  · obtain ⟨operation, key, hparse⟩ := api.parse_eq hv config others (frame (response id value))
    rw [hparse, parse_response rfl id value hlen hmax, hreads.run]
    exact ⟨_, rfl, rfl⟩
  · intro cut trailing hcut hne
    obtain ⟨operation, key, hparse⟩ := api.parse_eq hv config others (frame cut ++ trailing)
    rw [hparse]
    by_cases hlong : (frame cut ++ trailing).length ≤ config.maxHeaderBytes
    · have hle := hcut.length_le
      rcases Nat.eq_zero_or_pos cut.length with hzero | hpos
      · -- a frame of no body at all
        obtain rfl := length_eq_zero_iff.mp hzero
        refine ⟨.malformedFrame, ?_⟩
        rw [parseKafkaResponseWithErrorCode, if_neg (by simp), if_neg (by omega), frameBody_frame_nil]
        rfl
      · obtain ⟨e, he⟩ := (api.local_walk v config).isLocal.not_ok_of_cut hreads hcut hne
        rw [parse_frame hpos (by omega) hlong, he]
        exact ⟨e, rfl⟩
    · refine ⟨.frameTooLong, ?_⟩
      rw [parseKafkaResponseWithErrorCode, if_neg (by simp), if_pos (by omega)]

theorem length_zeros : ([0, 0, 0, 0] : Bytes).length = 4 := rfl

theorem length_orders : (text "orders").length < 2 ^ 15 := by decide

/-- A commit of one partition that was refused with code 3. -/
def refusedCommit : (DataApi.offsetCommit.schema 3).Value :=
  (⟨[0, 0, 0, 0], length_zeros⟩,
    [(⟨text "orders", length_orders⟩, [(⟨[0, 0, 0, 7], rfl⟩, ⟨3, by decide⟩, ())], ())], ())

theorem status_of_refusedCommit :
    (∃ parsed, parseKafkaResponseForApiKey 3 {} (fun _ _ _ _ => .error .unsupportedApiKey) 8
        (frame (response ⟨[0, 0, 0, 1], rfl⟩ refusedCommit)) = .ok parsed ∧ parsed.statusCode = text "3") ∧
    ∀ cut trailing, cut <+: response ⟨[0, 0, 0, 1], rfl⟩ refusedCommit →
      cut ≠ response ⟨[0, 0, 0, 1], rfl⟩ refusedCommit →
      ∃ e, parseKafkaResponseForApiKey 3 {} (fun _ _ _ _ => .error .unsupportedApiKey) 8 (frame cut ++ trailing)
        = .error e :=
  status_of_data_response .offsetCommit (by decide) {} _ ⟨[0, 0, 0, 1], rfl⟩ (by decide) ⟨rfl, by decide⟩ (by decide)

end ENavigator.Kafka
