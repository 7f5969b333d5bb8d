import ENavigator.Kafka.Responses
import ENavigator.Kafka.Schema

/-!
# Error codes of Kafka responses

The walks of `Responses` on messages that are encoded by their schema.

* `Skips config r s` : `r` moves past every value of `s`; `Counts config r s` : it also keeps the first error code;
* `Local` : every walk looks only at what it moves past, so a body that is cut short is not accepted;
* `reads_topics`, `fails_topics` : the walk over the partitions of all topics, by what each partition does.
-/

namespace ENavigator.Kafka

open ENavigator.Correlation Schema Reader List

/-! ## Fields -/

variable {n : Int} {readLen : BodyReader Int} {r : BodyReader Unit} {s : Schema}

theorem signed_int_two (h : -2 ^ 15 ≤ n ∧ n < 2 ^ 15) : signed 16 (beNat (int 2 n)) = n := by
  rw [int, beNat_beBytes, signed]
  split <;> omega

theorem signed_int_four (h : -2 ^ 31 ≤ n ∧ n < 2 ^ 31) : signed 32 (beNat (int 4 n)) = n := by
  rw [int, beNat_beBytes, signed]
  split <;> omega

theorem length_int (width : Nat) (n : Int) : (int width n).length = width := length_beBytes _ _

theorem reads_int {width bits : Nat} (h : signed bits (beNat (int width n)) = n) :
    Reads (do let raw ← takeExactly width KafkaExtraction.malformedFrame; pure (signed bits (beNat raw)))
      (int width n) n := by
  have hraw := reads_takeExactly KafkaExtraction.malformedFrame (int width n)
  rw [length_int] at hraw
  have hread := hraw.bind_pure fun raw => signed bits (beNat raw)
  rwa [h] at hread

theorem reads_readI16 (h : -2 ^ 15 ≤ n ∧ n < 2 ^ 15) : Reads readI16BeCursor (int 2 n) n :=
  reads_int (signed_int_two h)

theorem reads_readI32 (h : -2 ^ 31 ≤ n ∧ n < 2 ^ 31) : Reads readI32BeCursor (int 4 n) n :=
  reads_int (signed_int_four h)

theorem reads_skipBytes {len : Nat} {octets : Bytes} (h : octets.length = len) : Reads (skipBytes len) octets () := by
  subst h
  exact (reads_takeExactly _ octets).bind_pure fun _ => ()

theorem reads_readResponseArrayLen {n : Nat} (h : n ≤ 1024) : Reads readResponseArrayLen (int 4 n) n := by
  refine (reads_readI32 (n := n) (by omega)).bind_last ?_
  rw [if_neg (by omega), if_neg (by simpa [maxKafkaResponseEntries] using h)]
  exact reads_pure n

/-- A null array is no array for `read_response_array_len`. -/
theorem fails_readResponseArrayLen : Fails readResponseArrayLen (int 4 (-1)) .malformedFrame :=
  (reads_readI32 (n := -1) (by omega)).bind_fails_last (fails_fail _)

theorem reads_skipCounted {octets head : Bytes} {maxLen : Nat} (nullable : Bool)
    (tooLong : KafkaExtraction) (hread : Reads readLen head octets.length) (hlen : octets.length ≤ maxLen) :
    Reads (skipCounted readLen nullable maxLen tooLong) (head ++ octets) () := by
  refine hread.bind ?_
  rw [if_neg (by omega), if_neg (by omega), if_neg (by simpa using hlen)]
  exact reads_skipBytes rfl

theorem reads_skipCounted_null {head : Bytes} (maxLen : Nat) (tooLong : KafkaExtraction)
    (hread : Reads readLen head (-1)) : Reads (skipCounted readLen true maxLen tooLong) head () :=
  hread.bind_last (reads_pure ())

/-! ## Locality -/

instance : IsLocal readI16BeCursor := by unfold readI16BeCursor; infer_instance

instance : IsLocal readI32BeCursor := by unfold readI32BeCursor; infer_instance

instance (len : Nat) : IsLocal (skipBytes len) := by unfold skipBytes; infer_instance

instance : IsLocal readResponseArrayLen := by unfold readResponseArrayLen readRequestArrayLen; infer_instance

instance (nullable : Bool) (maxLen : Nat) (tooLong : KafkaExtraction) :
    IsLocal (skipCounted readI16BeCursor nullable maxLen tooLong) := by unfold skipCounted; infer_instance

instance (maxLen : Nat) : IsLocal (skipKafkaString maxLen) := by unfold skipKafkaString; infer_instance

instance (maxLen : Nat) : IsLocal (skipNullableKafkaString maxLen) := by unfold skipNullableKafkaString; infer_instance

instance : IsLocal skipInt32Array := by unfold skipInt32Array; infer_instance

instance (apiVersion first : Int) [IsLocal r] : IsLocal (fromVersion apiVersion first r) := by
  unfold fromVersion; infer_instance

instance (config : ProtocolExtractionConfig) {partition : Option Int → BodyReader (Option Int)}
    [∀ first, IsLocal (partition first)] : IsLocal (forEachPartition config partition) := by
  unfold forEachPartition; infer_instance

/-! ## Values of a schema -/

variable (config : ProtocolExtractionConfig)

/-- The limits of the walks: those of `Within`, and byte strings that the largest frame can hold. -/
def Readable : (s : Schema) → s.Value → Prop
  | string, octets => octets.1.length ≤ config.maxRequestLineBytes
  | nullableString, some octets => octets.1.length ≤ config.maxRequestLineBytes
  | bytes, octets => octets.1.length ≤ config.maxHeaderBytes
  | nullableBytes, some octets => octets.1.length ≤ config.maxHeaderBytes
  | array item, items => items.length ≤ 1024 ∧ ∀ i ∈ items, Readable item i
  | nullableArray item, some items => items.length ≤ 1024 ∧ ∀ i ∈ items, Readable item i
  | seq first second, (a, b) => Readable first a ∧ Readable second b
  | _, _ => True

theorem length_encode_le_of_mem {items : List s.Value} {item : s.Value} (h : item ∈ items) :
    (s.encode item).length ≤ (items.flatMap s.encode).length := by
  obtain ⟨before, after, rfl⟩ := append_of_mem h
  rw [flatMap_append, flatMap_cons, length_append, length_append]
  omega

/-- Byte strings are not longer than the message they are in. -/
theorem readable_of_within {value : s.Value} (h : s.Within config.maxRequestLineBytes value)
    (hlength : (s.encode value).length ≤ config.maxHeaderBytes) : Readable config s value := by
  induction s with
  | empty => trivial
  | fixed width => trivial
  | errorCode => trivial
  | string => exact h
  | nullableString =>
    cases value with
    | none => trivial
    | some octets => exact h
  | bytes =>
    rw [encode, encodeBytes, length_append] at hlength
    exact Nat.le_of_add_left_le hlength
  | nullableBytes =>
    cases value with
    | none => trivial
    | some octets =>
      rw [encode, encodeBytes, length_append] at hlength
      exact Nat.le_of_add_left_le hlength
  | array item ih =>
    refine ⟨h.1, fun i hi => ih (h.2 i hi) ?_⟩
    have hle := length_encode_le_of_mem hi
    rw [encode, length_append] at hlength
    omega
  | nullableArray item ih =>
    cases value with
    | none => trivial
    | some items =>
      refine ⟨h.1, fun i hi => ih (h.2 i hi) ?_⟩
      have hle := length_encode_le_of_mem hi
      rw [encode, length_append] at hlength
      omega
  | seq first second ihfirst ihsecond =>
    obtain ⟨a, b⟩ := value
    rw [encode, length_append] at hlength
    exact ⟨ihfirst h.1 (by omega), ihsecond h.2 (by omega)⟩

def Skips (r : BodyReader Unit) (s : Schema) : Prop :=
  ∀ value : s.Value, Readable config s value → Reads r (s.encode value) ()

/-- It moves past every value of the schema and keeps the first error code. -/
def Counts (r : Option Int → BodyReader (Option Int)) (s : Schema) : Prop :=
  ∀ value : s.Value, Readable config s value →
    ∀ first, Reads (r first) (s.encode value) ((s.errorCodes value).foldl recordError first)

variable {config}

theorem reads_fixed {width : Nat} (value : (fixed width).Value) :
    Reads (skipBytes width) ((fixed width).encode value) () := reads_skipBytes value.2

theorem reads_two_fixed {m n : Nat} (first : (fixed m).Value) (second : (fixed n).Value) :
    Reads (skipBytes (m + n)) ((fixed m).encode first ++ (fixed n).encode second) () := by
  apply reads_skipBytes
  rw [length_append, encode, encode, first.2, second.2]

theorem skips_fixed (width : Nat) : Skips config (skipBytes width) (fixed width) := fun value _ => reads_fixed value

theorem skips_string : Skips config (skipKafkaString config.maxRequestLineBytes) string := by
  intro value h
  exact reads_skipCounted _ _ (reads_readI16 (by omega)) h

theorem skips_nullableString : Skips config (skipNullableKafkaString config.maxRequestLineBytes) nullableString := by
  intro value h
  cases value with
  | none => exact reads_skipCounted_null _ _ (reads_readI16 (by omega))
  | some octets =>
    exact reads_skipCounted _ _ (reads_readI16 (by omega)) h

theorem skips_nullableBytes : Skips config (skipNullableBytes config.maxHeaderBytes) nullableBytes := by
  intro value h
  cases value with
  | none => exact reads_skipCounted_null _ _ (reads_readI32 (by omega))
  | some octets =>
    exact reads_skipCounted _ _ (reads_readI32 (by omega)) h

theorem Skips.since (h : Skips config r s) (apiVersion first : Int) :
    Skips config (fromVersion apiVersion first r) (Schema.since apiVersion first s) := by
  unfold Schema.since fromVersion
  split
  · exact h
  · exact fun _ _ => reads_pure ()

theorem skips_array {item : Schema} (h : Skips config r item) (items : List item.Value)
    (hitems : Readable config (array item) items) :
    Reads (Reader.times items.length (fun _ => r) ()) (items.flatMap item.encode) () :=
  reads_times (fun _ _ => ()) (fun i hi _ => h i (hitems.2 i hi)) ()

theorem skips_int32Array : Skips config skipInt32Array (array int32) := by
  intro items h
  refine (reads_readResponseArrayLen h.1).bind (reads_skipBytes ?_)
  have hlength : (items.flatMap int32.encode).length = items.length * 4 := by
    rw [length_flatMap, map_congr_left (g := fun _ => 4) fun i _ => i.2, map_const', sum_replicate_nat]
  rw [hlength, saturatingMul, Nat.min_eq_left]
  have := h.1
  exact Nat.le_trans (Nat.mul_le_mul_right 4 this) (by decide)

theorem Counts.times {r : Option Int → BodyReader (Option Int)} {item : Schema} (h : Counts config r item)
    (items : List item.Value) (hitems : Readable config (array item) items) (first : Option Int) :
    Reads (Reader.times items.length r first) (items.flatMap item.encode)
      (((array item).errorCodes items).foldl recordError first) := by
  rw [errorCodes, foldl_flatMap]
  exact reads_times _ (fun i hi first => h i (hitems.2 i hi) first) first

section topics

variable {r : Option Int → BodyReader (Option Int)} {partition : Schema} {P : partition.Value → Prop}

def forTopic (config : ProtocolExtractionConfig) (r : Option Int → BodyReader (Option Int)) (first : Option Int) :
    BodyReader (Option Int) := do
  skipKafkaString config.maxRequestLineBytes
  let partitionCount ← readResponseArrayLen
  Reader.times partitionCount r first

variable (h : ∀ p, Readable config partition p → P p →
    ∀ first, Reads (r first) (partition.encode p) ((partition.errorCodes p).foldl recordError first))
include h

theorem reads_forTopic {topic : (fields [string, array partition]).Value}
    (htopic : Readable config (fields [string, array partition]) topic)
    (hP : ∀ p ∈ topic.2.1, P p) (first : Option Int) :
    Reads (forTopic config r first) ((fields [string, array partition]).encode topic)
      (((fields [string, array partition]).errorCodes topic).foldl recordError first) := by
  obtain ⟨name, partitions, ⟨⟩⟩ := topic
  obtain ⟨hname, hpartitions, -⟩ := htopic
  have hcodes : (fields [string, array partition]).errorCodes (name, partitions, ())
      = partitions.flatMap partition.errorCodes := append_nil _
  rw [hcodes, foldl_flatMap]
  refine (skips_string name hname).bind ?_
  show Reads _ ((int 4 partitions.length ++ partitions.flatMap partition.encode) ++ []) _
  rw [append_nil]
  refine (reads_readResponseArrayLen hpartitions.1).bind ?_
  exact reads_times _ (fun p hp first => h p (hpartitions.2 p hp) (hP p hp) first) first

theorem reads_topics {value : (Kafka.topics partition).Value}
    (hvalue : Readable config (Kafka.topics partition) value) (hP : ∀ topic ∈ value, ∀ p ∈ topic.2.1, P p) :
    Reads (forEachPartition config r) ((Kafka.topics partition).encode value)
      (((Kafka.topics partition).errorCodes value).foldl recordError none) := by
  have hcodes : (Kafka.topics partition).errorCodes value
      = value.flatMap (fields [string, array partition]).errorCodes := rfl
  rw [hcodes, foldl_flatMap]
  refine (reads_readResponseArrayLen hvalue.1).bind ?_
  exact reads_times _ (fun topic ht first => reads_forTopic h (hvalue.2 topic ht) (hP topic ht) first) none

theorem fails_topics {e : KafkaExtraction} {value : (Kafka.topics partition).Value}
    (hvalue : Readable config (Kafka.topics partition) value)
    (hfail : ∀ p, Readable config partition p → ¬ P p → ∀ first, Fails (r first) (partition.encode p) e)
    (hP : ¬ ∀ topic ∈ value, ∀ p ∈ topic.2.1, P p) :
    Fails (forEachPartition config r) ((Kafka.topics partition).encode value) e := by
  refine (reads_readResponseArrayLen hvalue.1).bind_fails ?_
  refine fails_times _ (fun topic => ∀ p ∈ topic.2.1, P p)
    (fun topic ht hgood first => reads_forTopic h (hvalue.2 topic ht) hgood first) ?_ hP none
  rintro ⟨name, partitions, ⟨⟩⟩ ht hbad first
  obtain ⟨hname, hpartitions, -⟩ := hvalue.2 _ ht
  refine (skips_string name hname).bind_fails ?_
  show Fails _ ((int 4 partitions.length ++ partitions.flatMap partition.encode) ++ []) _
  rw [append_nil]
  refine (reads_readResponseArrayLen hpartitions.1).bind_fails ?_
  exact fails_times _ P (fun p hp hgood first => h p (hpartitions.2 p hp) hgood first)
    (fun p hp hbad first => hfail p (hpartitions.2 p hp) hbad first) hbad first

end topics

theorem Counts.topics {r : Option Int → BodyReader (Option Int)} {partition : Schema} (h : Counts config r partition)
    (value : (Kafka.topics partition).Value) (hvalue : Readable config (Kafka.topics partition) value) :
    Reads (forEachPartition config r) ((Kafka.topics partition).encode value)
      (((Kafka.topics partition).errorCodes value).foldl recordError none) :=
  reads_topics (P := fun _ => True) (fun p hp _ => h p hp) hvalue fun _ _ _ _ => trivial

end ENavigator.Kafka
