import ENavigator.Kafka.DataPath

/-!
# Fetch and join responses

Two walks that do not follow the schema everywhere. The aborted transactions of a fetched partition may be null from
version 4 on, and the walk reads them as an array that is not. A member of a joined group carries an instance id from
version 5 on, and the walk reads its metadata in the place of the id.

* `reads_fetchPartition`, `fails_fetchPartition` : a partition is read unless an array of it is null;
* `joinGroup_ok_iff` : a join response is read when its members also read as pairs of an id and metadata.
-/

namespace ENavigator.Kafka

open ENavigator.Correlation Schema Reader List

/-- No array of the message is null. -/
def ArraysGiven : (s : Schema) → s.Value → Prop
  | array item, items => ∀ i ∈ items, ArraysGiven item i
  | nullableArray _, none => False
  | nullableArray item, some items => ∀ i ∈ items, ArraysGiven item i
  | seq first second, (a, b) => ArraysGiven first a ∧ ArraysGiven second b
  | _, _ => True

theorem arraysGiven_since_fixed (v first : Int) (width : Nat) (value : (since v first (fixed width)).Value) :
    ArraysGiven (since v first (fixed width)) value :=
  since_cases (fun s => ∀ value, ArraysGiven s value) v first (fixed width) (fun _ _ => trivial) (fun _ _ => trivial)
    value

/-! ## Fetch -/

section fetch

variable {config : ProtocolExtractionConfig} {v : Int}

abbrev aborted (v : Int) : Schema := since v 4 (nullableArray (fields [int64, int64]))

theorem reads_aborted (value : (aborted v).Value) (h : Readable config (aborted v) value)
    (hgiven : ArraysGiven (aborted v) value) :
    Reads (fromVersion v 4 skipAbortedTransactions) ((aborted v).encode value) () := by
  revert value
  refine since_cases (fun s => ∀ value, Readable config s value → ArraysGiven s value →
    Reads (fromVersion v 4 skipAbortedTransactions) (s.encode value) ()) v 4 _ ?_ ?_
  · intro hv value h hgiven
    rw [fromVersion, if_pos hv]
    cases value with
    | none => exact hgiven.elim
    | some items =>
      have hitem : Skips config (skipBytes 16) (fields [int64, int64]) := by
        rintro ⟨producer, offset, ⟨⟩⟩ -
        have htwo := reads_two_fixed producer offset
        rw [← append_nil (int64.encode offset)] at htwo
        exact htwo
      exact (reads_readResponseArrayLen h.1).bind (skips_array hitem items h)
  · intro hv _ _ _
    rw [fromVersion, if_neg hv]
    exact reads_pure ()

theorem fails_aborted (value : (aborted v).Value) (hnull : ¬ ArraysGiven (aborted v) value) :
    Fails (fromVersion v 4 skipAbortedTransactions) ((aborted v).encode value) .malformedFrame := by
  revert value
  refine since_cases (fun s => ∀ value, ¬ ArraysGiven s value →
    Fails (fromVersion v 4 skipAbortedTransactions) (s.encode value) .malformedFrame) v 4 _ ?_ ?_
  · intro hv value hnull
    rw [fromVersion, if_pos hv]
    cases value with
    | none =>
      have hfails := fails_readResponseArrayLen.bind (fun n => Reader.times n (fun _ => skipBytes 16) ()) []
      rwa [append_nil] at hfails
    | some items =>
      refine absurd ?_ hnull
      exact fun i _ => ⟨trivial, trivial, trivial⟩
  · exact fun _ _ hnull => absurd trivial hnull

abbrev fetchedPartition (v : Int) : Schema :=
  fields [int32, errorCode, int64, since v 4 int64, since v 5 int64, aborted v, nullableBytes]

theorem arraysGiven_fetchedPartition (index code watermark stable start records)
    (transactions : (aborted v).Value) :
    ArraysGiven (fetchedPartition v) (index, code, watermark, stable, start, transactions, records, ())
      ↔ ArraysGiven (aborted v) transactions := by
  constructor
  · exact fun h => h.2.2.2.2.2.1
  · exact fun h => ⟨trivial, trivial, trivial, arraysGiven_since_fixed v 4 8 stable,
      arraysGiven_since_fixed v 5 8 start, h, by cases records <;> trivial, trivial⟩

theorem reads_fetchPartition (partition : (fetchedPartition v).Value)
    (h : Readable config (fetchedPartition v) partition)
    (hgiven : ArraysGiven (fetchedPartition v) partition) (first : Option Int) :
    Reads (fetchPartition v config first) ((fetchedPartition v).encode partition)
      (((fetchedPartition v).errorCodes partition).foldl recordError first) := by
  obtain ⟨index, code, watermark, stable, start, transactions, records, ⟨⟩⟩ := partition
  obtain ⟨-, -, -, hstable, hstart, htransactions, hrecords, -⟩ := h
  have hsilent : Silent (aborted v) := by
    refine Silent.since ?_ v 4
    intro value
    cases value with
    | none => rfl
    | some items => exact flatMap_eq_nil_iff.mpr fun i _ => rfl
  have hcodes : (fetchedPartition v).errorCodes (index, code, watermark, stable, start, transactions, records, ())
      = [code.1] := by
    show [] ++ ([code.1] ++ ([] ++ ((since v 4 int64).errorCodes stable ++ ((since v 5 int64).errorCodes start ++
      ((aborted v).errorCodes transactions ++ (nullableBytes.errorCodes records ++ [])))))) = _
    rw [(silent_fixed 8).since v 4 stable, (silent_fixed 8).since v 5 start, hsilent transactions]
    cases records <;> rfl
  rw [hcodes]
  refine (reads_fixed index).bind ?_
  refine (reads_readI16 code.2).bind ?_
  refine (reads_fixed watermark).bind ?_
  refine ((skips_fixed 8).since v 4 stable hstable).bind ?_
  refine ((skips_fixed 8).since v 5 start hstart).bind ?_
  refine (reads_aborted transactions htransactions ((arraysGiven_fetchedPartition ..).mp hgiven)).bind ?_
  exact (skips_nullableBytes records hrecords).bind (reads_pure _)

theorem fails_fetchPartition (partition : (fetchedPartition v).Value)
    (h : Readable config (fetchedPartition v) partition)
    (hnull : ¬ ArraysGiven (fetchedPartition v) partition) (first : Option Int) :
    Fails (fetchPartition v config first) ((fetchedPartition v).encode partition) .malformedFrame := by
  obtain ⟨index, code, watermark, stable, start, transactions, records, ⟨⟩⟩ := partition
  obtain ⟨-, -, -, hstable, hstart, -, -, -⟩ := h
  refine (reads_fixed index).bind_fails ?_
  refine (reads_readI16 code.2).bind_fails ?_
  refine (reads_fixed watermark).bind_fails ?_
  refine ((skips_fixed 8).since v 4 stable hstable).bind_fails ?_
  refine ((skips_fixed 8).since v 5 start hstart).bind_fails ?_
  exact (fails_aborted transactions (mt (arraysGiven_fetchedPartition ..).mpr hnull)).bind _ _

theorem arraysGiven_fetchResponse (value : (fetchResponse v).Value) :
    ArraysGiven (fetchResponse v) value ↔
      ∀ topic ∈ value.2.1, ∀ p ∈ topic.2.1, ArraysGiven (fetchedPartition v) p := by
  obtain ⟨throttle, topics, ⟨⟩⟩ := value
  constructor
  · exact fun h topic ht => (h.2.1 topic ht).2.1
  · exact fun h => ⟨arraysGiven_since_fixed v 1 4 throttle, fun topic ht => ⟨trivial, h topic ht, trivial⟩, trivial⟩

theorem reads_fetch (id : int32.Value) {value : (fetchResponse v).Value} (h : Readable config (fetchResponse v) value)
    (hgiven : ArraysGiven (fetchResponse v) value) :
    Reads (fetchResponseErrorCode v config) (response id value) (firstError ((fetchResponse v).errorCodes value)) := by
  rw [arraysGiven_fetchResponse] at hgiven
  obtain ⟨throttle, topics, ⟨⟩⟩ := value
  obtain ⟨hthrottle, htopics, -⟩ := h
  have hcodes : (fetchResponse v).errorCodes (throttle, topics, ()) =
      (Kafka.topics (fetchedPartition v)).errorCodes topics := by
    show (since v 1 int32).errorCodes throttle ++ (_ ++ []) = _
    rw [(silent_fixed 4).since v 1 throttle, append_nil, nil_append]
  rw [hcodes, ← getD_foldl_recordError]
  refine (reads_fixed id).bind ?_
  refine ((skips_fixed 4).since v 1 throttle hthrottle).bind ?_
  exact (reads_topics reads_fetchPartition htopics hgiven).bind (reads_pure _)

theorem fails_fetch (id : int32.Value) {value : (fetchResponse v).Value} (h : Readable config (fetchResponse v) value)
    (hnull : ¬ ArraysGiven (fetchResponse v) value) :
    Fails (fetchResponseErrorCode v config) (response id value) .malformedFrame := by
  rw [arraysGiven_fetchResponse] at hnull
  obtain ⟨throttle, topics, ⟨⟩⟩ := value
  obtain ⟨hthrottle, htopics, -⟩ := h
  refine (reads_fixed id).bind_fails ?_
  refine ((skips_fixed 4).since v 1 throttle hthrottle).bind_fails ?_
  exact (fails_topics reads_fetchPartition htopics fails_fetchPartition hnull).bind _ _

end fetch

/-! ## Joined groups -/

/-- What the walk takes for a member: an id within the limits and metadata that a frame can hold. -/
def ReadableMember (config : ProtocolExtractionConfig) (pair : Bytes × Bytes) : Prop :=
  pair.1.length ≤ config.maxRequestLineBytes ∧ pair.1.length < 2 ^ 15 ∧
    pair.2.length ≤ config.maxHeaderBytes ∧ pair.2.length < 2 ^ 31

def encodePair (pair : Bytes × Bytes) : Bytes := encodeString pair.1 ++ encodeBytes pair.2

abbrev member (v : Int) : Schema := fields [string, since v 5 nullableString, Schema.bytes]

/-- The members of a response, with their octets, also read as that many pairs of an id and metadata. -/
def ReadAsPairs (config : ProtocolExtractionConfig) (v : Int) (members : List (member v).Value) : Prop :=
  ∃ pairs : List (Bytes × Bytes), pairs.length = members.length ∧
    pairs.flatMap encodePair <+: members.flatMap (member v).encode ∧ ∀ pair ∈ pairs, ReadableMember config pair

section join

variable {config : ProtocolExtractionConfig} {v : Int}

theorem reads_joinGroupMember {pair : Bytes × Bytes} (h : ReadableMember config pair) :
    Reads (joinGroupMember config) (encodePair pair) () := by
  obtain ⟨hid, hid', hmetadata, hmetadata'⟩ := h
  exact (reads_skipCounted _ _ (reads_readI16 (by omega)) hid).bind
    (reads_skipCounted _ _ (reads_readI32 (by omega)) hmetadata)

theorem int_signed (raw : Bytes) : int raw.length (signed (8 * raw.length) (beNat raw)) = raw := by
  have hbound : beNat raw < 2 ^ (8 * raw.length) := by
    rw [Nat.pow_mul]
    exact beNat_lt raw
  have hword : (signed (8 * raw.length) (beNat raw) % 2 ^ (8 * raw.length)).toNat = beNat raw := by
    have hcast : ((2 ^ (8 * raw.length) : Nat) : Int) = 2 ^ (8 * raw.length) := by exact_mod_cast rfl
    unfold signed
    split
    · rw [Int.emod_eq_of_lt (by omega) (by omega), Int.toNat_natCast]
    · rw [Int.sub_emod_right, Int.emod_eq_of_lt (by omega) (by omega), Int.toNat_natCast]
  rw [int, hword, beBytes_beNat]

theorem accepts_int {width bits : Nat} {bound : Int} (hbits : bits = 8 * width)
    (hbound : ∀ n < 256 ^ width, signed bits n < bound) :
    Accepts (do let raw ← takeExactly width KafkaExtraction.malformedFrame; pure (signed bits (beNat raw)))
      fun used n => used = int width n ∧ n < bound := by
  subst hbits
  refine ((accepts_takeExactly width _).bind fun raw => accepts_pure (signed (8 * width) (beNat raw))).imp ?_
  rintro _ _ ⟨raw, _, _, rfl, ⟨rfl, rfl⟩, rfl, rfl⟩
  rw [append_nil]
  exact ⟨(int_signed raw).symm, hbound _ (beNat_lt raw)⟩

theorem accepts_readI16 : Accepts readI16BeCursor fun used n => used = int 2 n ∧ n < 2 ^ 15 := by
  refine accepts_int rfl fun n hn => ?_
  unfold signed
  split <;> omega

theorem accepts_readI32 : Accepts readI32BeCursor fun used n => used = int 4 n ∧ n < 2 ^ 31 := by
  refine accepts_int rfl fun n hn => ?_
  unfold signed
  split <;> omega

theorem accepts_skipCounted {readLen : BodyReader Int} {width : Nat} {bound : Int}
    (hread : Accepts readLen fun used n => used = int width n ∧ n < bound) (maxLen : Nat) (tooLong : KafkaExtraction) :
    Accepts (skipCounted readLen false maxLen tooLong) fun used _ =>
      ∃ octets : Bytes, used = int width octets.length ++ octets ∧ octets.length ≤ maxLen ∧ octets.length < bound := by
  intro input a rest hok
  obtain ⟨n, mid, hn, hbody⟩ := bind_ok hok
  obtain ⟨_, rfl, rfl, hbound⟩ := hread _ _ _ hn
  rw [if_neg (by simp)] at hbody
  split at hbody
  · cases hbody
  split at hbody
  · cases hbody
  obtain ⟨octets, _, htake, hlast⟩ := bind_ok hbody
  cases hlast
  obtain ⟨used, rfl, hused, hlength⟩ := accepts_takeExactly _ _ _ _ _ htake
  subst hused
  have hcount : (used.length : Int) = n := by omega
  refine ⟨int width n ++ used, by rw [append_assoc], used, ?_, ?_, ?_⟩
  · rw [hcount]
  · omega
  · rw [hcount]
    exact hbound

theorem accepts_joinGroupMember :
    Accepts (joinGroupMember config) fun used _ => ∃ pair, used = encodePair pair ∧ ReadableMember config pair := by
  refine ((accepts_skipCounted accepts_readI16 _ _).bind fun _ => accepts_skipCounted accepts_readI32 _ _).imp ?_
  rintro _ _ ⟨_, _, _, rfl, ⟨id, rfl, hid, hid'⟩, metadata, rfl, hmetadata, hmetadata'⟩
  exact ⟨(id, metadata), rfl, hid, by exact_mod_cast hid', hmetadata, by exact_mod_cast hmetadata'⟩

def joinHead (id : int32.Value) (value : (joinGroupResponse v).Value) : Bytes :=
  id.1 ++ ((since v 2 int32).encode value.1 ++ (errorCode.encode value.2.1 ++ (int32.encode value.2.2.1 ++
    (string.encode value.2.2.2.1 ++ (string.encode value.2.2.2.2.1 ++ (string.encode value.2.2.2.2.2.1 ++
      int 4 value.2.2.2.2.2.2.1.length))))))

theorem response_joinGroup (id : int32.Value) (value : (joinGroupResponse v).Value) :
    response id value = joinHead id value ++ value.2.2.2.2.2.2.1.flatMap (member v).encode := by
  obtain ⟨throttle, code, generation, protocol, leader, memberId, members, ⟨⟩⟩ := value
  show id.1 ++ ((since v 2 int32).encode throttle ++ (errorCode.encode code ++ (int32.encode generation ++
    (string.encode protocol ++ (string.encode leader ++ (string.encode memberId ++
      ((int 4 members.length ++ members.flatMap (member v).encode) ++ []))))))) = _
  simp only [joinHead, append_assoc, append_nil]

theorem errorCodes_joinGroup (value : (joinGroupResponse v).Value) :
    firstError ((joinGroupResponse v).errorCodes value) = value.2.1.1 := by
  obtain ⟨throttle, code, generation, protocol, leader, memberId, members, ⟨⟩⟩ := value
  have hmember : Silent (member v) := by
    rintro ⟨name, instanceId, metadata, ⟨⟩⟩
    show [] ++ ((since v 5 nullableString).errorCodes instanceId ++ ([] ++ [])) = []
    rw [silent_nullableString.since v 5 instanceId]
    rfl
  have hcodes : (joinGroupResponse v).errorCodes (throttle, code, generation, protocol, leader, memberId, members, ())
      = [code.1] := by
    show (since v 2 int32).errorCodes throttle ++ ([code.1] ++ ([] ++ ([] ++ ([] ++ ([] ++
      ((array (member v)).errorCodes members ++ [])))))) = _
    rw [(silent_fixed 4).since v 2 throttle, hmember.array members]
    rfl
  rw [hcodes, firstError_cons]
  by_cases hzero : code.1 = 0
  · rw [if_neg (not_not.mpr hzero), hzero]
    rfl
  · exact if_pos hzero

section readable

variable (id : int32.Value) {value : (joinGroupResponse v).Value} (h : Readable config (joinGroupResponse v) value)
include h

theorem run_joinGroup (rest : Bytes) : joinGroupResponseErrorCode v config (joinHead id value ++ rest) =
      (Reader.times value.2.2.2.2.2.2.1.length (fun _ => joinGroupMember config) () >>= fun _ =>
        pure value.2.1.1) rest := by
  obtain ⟨throttle, code, generation, protocol, leader, memberId, members, ⟨⟩⟩ := value
  obtain ⟨hthrottle, -, -, hprotocol, hleader, hmemberId, hmembers, -⟩ := h
  simp only [joinHead, append_assoc]
  refine ((reads_fixed id).run_bind _ _).trans ?_
  refine (((skips_fixed 4).since v 2 throttle hthrottle).run_bind _ _).trans ?_
  refine ((reads_readI16 code.2).run_bind _ _).trans ?_
  refine ((reads_fixed generation).run_bind _ _).trans ?_
  refine ((skips_string protocol hprotocol).run_bind _ _).trans ?_
  refine ((skips_string leader hleader).run_bind _ _).trans ?_
  refine ((skips_string memberId hmemberId).run_bind _ _).trans ?_
  exact (reads_readResponseArrayLen hmembers.1).run_bind _ _

theorem joinGroup_code {p : Int × Bytes}
    (hok : joinGroupResponseErrorCode v config (response id value) = .ok p) : p.1 = value.2.1.1 := by
  rw [response_joinGroup, run_joinGroup id h] at hok
  obtain ⟨_, mid, -, hlast⟩ := bind_ok hok
  exact congrArg Prod.fst (Except.ok.inj hlast).symm

/-- **A join response is understood if and only if its members read as pairs.** -/
theorem joinGroup_ok_iff : (∃ p, joinGroupResponseErrorCode v config (response id value) = .ok p) ↔
      ReadAsPairs config v value.2.2.2.2.2.2.1 := by
  rw [response_joinGroup, run_joinGroup id h]
  constructor
  · rintro ⟨p, hok⟩
    obtain ⟨_, mid, htimes, -⟩ := bind_ok hok
    obtain ⟨_, hused, pairs, hlength, rfl, hpairs⟩ := accepts_times accepts_joinGroupMember _ _ _ _ htimes
    exact ⟨pairs, hlength, ⟨mid, hused.symm⟩, hpairs⟩
  · rintro ⟨pairs, hlength, ⟨mid, hmid⟩, hpairs⟩
    have htimes :
        Reads (Reader.times pairs.length (fun _ => joinGroupMember config) ()) (pairs.flatMap encodePair) () :=
      reads_times (fun _ _ => ()) (fun pair hpair _ => reads_joinGroupMember (hpairs pair hpair)) ()
    rw [← hmid, ← hlength]
    exact ⟨_, htimes.run_bind _ _⟩

end readable

end join

/-! ## Both -/

/-- **When fetch and join responses are understood.** A fetch response gives its first error code if and only if none
of its arrays is null; a join response gives its error code if and only if its members, with their octets, also read
as that many pairs of an id and metadata. -/
theorem understood_iff {v : Int} (hv : 0 ≤ v ∧ v ≤ 5) (config : ProtocolExtractionConfig)
    (others : Int → Int → Bytes → ProtocolExtractionConfig → Except KafkaExtraction ParsedKafkaResponse)
    (id : int32.Value) (bytes : Bytes) (hmax : bytes.length ≤ config.maxHeaderBytes) :
    (∀ value : (fetchResponse v).Value, (fetchResponse v).Within config.maxRequestLineBytes value →
      Framed bytes (response id value) →
      ((∃ parsed, parseKafkaResponseForApiKey v config others 1 bytes = .ok parsed ∧
        parsed.statusCode = text (toString (firstError ((fetchResponse v).errorCodes value)))) ↔
        ArraysGiven (fetchResponse v) value)) ∧
    (∀ value : (joinGroupResponse v).Value, (joinGroupResponse v).Within config.maxRequestLineBytes value →
      Framed bytes (response id value) →
      ((∃ parsed, parseKafkaResponseForApiKey v config others 11 bytes = .ok parsed ∧
        parsed.statusCode = text (toString (firstError ((joinGroupResponse v).errorCodes value)))) ↔
        ReadAsPairs config v value.2.2.2.2.2.2.1)) := by
  have hsupported : decide (0 ≤ v ∧ v ≤ 5) = true := decide_eq_true hv
  constructor
  · rintro value hwithin ⟨rfl, hlen⟩
    have hreadable := readable_of_within config hwithin (length_encode_le id value hmax)
    have hkey : parseKafkaResponseForApiKey v config others 1 (frame (response id value))
        = (fetchResponseErrorCode v config (response id value)).map fun p => kafkaResponse v config "fetch" "1" p.1 :=
      parse_response hsupported id value hlen hmax _ _ _
    rw [hkey]
    constructor
    · rintro ⟨parsed, hok, -⟩
      by_contra hnull
      rw [(fails_fetch id hreadable hnull).run] at hok
      cases hok
    · intro hgiven
      rw [(reads_fetch id hreadable hgiven).run]
      exact ⟨_, rfl, rfl⟩
  · rintro value hwithin ⟨rfl, hlen⟩
    have hreadable := readable_of_within config hwithin (length_encode_le id value hmax)
    have hkey : parseKafkaResponseForApiKey v config others 11 (frame (response id value))
        = (joinGroupResponseErrorCode v config (response id value)).map fun p =>
            kafkaResponse v config "join_group" "11" p.1 := parse_response hsupported id value hlen hmax _ _ _
    rw [hkey, errorCodes_joinGroup, ← joinGroup_ok_iff id hreadable]
    constructor
    · rintro ⟨parsed, hok, -⟩
      rcases hwalk : joinGroupResponseErrorCode v config (response id value) with e | p
      · rw [hwalk] at hok
        cases hok
      · exact ⟨p, rfl⟩
    · rintro ⟨p, hok⟩
      rw [hok, ← joinGroup_code id hreadable hok]
      exact ⟨_, rfl, rfl⟩

/-- A fetch at version 4 whose one partition has no list of aborted transactions, as brokers answer a consumer that
reads uncommitted records. -/
def nullAborted : (fetchResponse 4).Value :=
  (⟨[0, 0, 0, 0], rfl⟩, [(⟨text "orders", by decide⟩, [(⟨[0, 0, 0, 0], rfl⟩, ⟨0, by decide⟩,
    ⟨[0, 0, 0, 0, 0, 0, 0, 9], rfl⟩, ⟨[0, 0, 0, 0, 0, 0, 0, 9], rfl⟩, (), none, none, ())], ())], ())

/-- A group at version 5 with one member that is not static. -/
def dynamicMember : (joinGroupResponse 5).Value :=
  (⟨[0, 0, 0, 0], rfl⟩, ⟨0, by decide⟩, ⟨[0, 0, 0, 1], rfl⟩, ⟨text "range", by decide⟩, ⟨text "a", by decide⟩,
    ⟨text "a", by decide⟩, [(⟨text "a", by decide⟩, none, ⟨[0, 0], by decide⟩, ())], ())

/-- Both are standard messages within the limits, and both are refused. -/
theorem not_understood_null :
    (fetchResponse 4).Within 1024 nullAborted ∧
    parseKafkaResponseForApiKey 4 {} (fun _ _ _ _ => .error .unsupportedApiKey) 1
      (frame (response ⟨[0, 0, 0, 1], rfl⟩ nullAborted)) = .error .malformedFrame ∧
    (joinGroupResponse 5).Within 1024 dynamicMember ∧
    parseKafkaResponseForApiKey 5 {} (fun _ _ _ _ => .error .unsupportedApiKey) 11
      (frame (response ⟨[0, 0, 0, 1], rfl⟩ dynamicMember)) = .error .malformedFrame := by
  decide +kernel

def oldFetch : (fetchResponse 3).Value :=
  (⟨[0, 0, 0, 0], rfl⟩, [(⟨text "orders", by decide⟩, [(⟨[0, 0, 0, 0], rfl⟩, ⟨6, by decide⟩,
    ⟨[0, 0, 0, 0, 0, 0, 0, 9], rfl⟩, (), (), (), none, ())], ())], ())

theorem understood_oldFetch :
    ∃ parsed, parseKafkaResponseForApiKey 3 {} (fun _ _ _ _ => .error .unsupportedApiKey) 1
      (frame (response ⟨[0, 0, 0, 1], rfl⟩ oldFetch)) = .ok parsed ∧ parsed.statusCode = text "6" := by
  refine ((understood_iff (v := 3) (by decide) {} _ _ _ (by decide)).1 oldFetch (by decide) ⟨rfl, by decide⟩).mpr ?_
  rw [arraysGiven_fetchResponse]
  rintro topic - ⟨index, code, watermark, stable, start, transactions, records, ⟨⟩⟩ -
  exact (arraysGiven_fetchedPartition ..).mpr trivial

end ENavigator.Kafka
