import ENavigator.Kafka.DataPath
import ENavigator.Kafka.Requests

/-!
# Requests with a flexible header

`ApiVersions` requests from version 3 on: behind the client id, which keeps its old form, comes a section of tagged
fields. The parser takes the client id in its old form and goes on with the body at once, so it reads that section as
the start of the body.

* `Varint`, `CompactText`, `TagSection` : the flexible fields, as they are accepted;
* `recognised_iff` : a request is recognised if and only if the tagged fields of its header and its body, taken
  together, read as a body; with no tagged fields in the header, as clients send it, it never is.
-/

namespace ENavigator.Kafka

open ENavigator.Correlation Schema Reader List

/-! ## Varints -/

inductive Varint : Bytes → Nat → Prop
  | last {b : UInt8} (h : b < 128) : Varint [b] b.toNat
  | more {b : UInt8} {rest : Bytes} {n : Nat} (h : ¬ b < 128) (hrest : Varint rest n) :
      Varint (b :: rest) (b.toNat - 128 + 128 * n)

theorem and_high (b : UInt8) : b &&& 0x80 = 0 ↔ b < 128 := by
  revert b
  exact forall_byte (by decide +kernel)

theorem toNat_and_low (b : UInt8) : (b &&& 0x7f).toNat = if b < 128 then b.toNat else b.toNat - 128 := by
  revert b
  exact forall_byte (by decide +kernel)

variable {value shift n : Nat} {octets : Bytes} {header : KafkaRequestHeader}

/-- The next seven bits go in front of those that are there. -/
theorem or_shift (h : value < 2 ^ shift) (low : Nat) :
    value ||| (low <<< shift) = value + low * 2 ^ shift := by
  rw [Nat.shiftLeft_eq, Nat.mul_comm, Nat.or_comm, ← Nat.two_pow_add_eq_or_of_lt h, Nat.add_comm]

theorem readVarintFrom_cons (fuel : Nat) (hvalue : value < 2 ^ shift) (b : UInt8) (rest : Bytes) :
    readVarintFrom (fuel + 1) shift value (b :: rest) =
      if b < 128 then .ok (value + b.toNat * 2 ^ shift, rest)
      else readVarintFrom fuel (shift + 7) (value + (b.toNat - 128) * 2 ^ shift) rest := by
  refine ((reads_takeExactly _ [b]).run_bind _ rest).trans ?_
  show (if b &&& 0x80 = 0 then pure (value ||| ((b &&& 0x7f).toNat <<< shift))
    else readVarintFrom fuel (shift + 7) (value ||| ((b &&& 0x7f).toNat <<< shift)) : BodyReader Nat) rest = _
  rw [toNat_and_low, or_shift hvalue]
  by_cases hb : b < 128
  · rw [if_pos ((and_high b).mpr hb), if_pos hb, if_pos hb]
    rfl
  · rw [if_neg (mt (and_high b).mp hb), if_neg hb, if_neg hb]

/-- The bits that are read stay below the next shift. -/
theorem varint_bound (hvalue : value < 2 ^ shift) (b : UInt8) :
    value + (b.toNat - 128) * 2 ^ shift < 2 ^ (shift + 7) := by
  have hbyte := UInt8.toNat_lt b
  have hlow : (b.toNat - 128) * 2 ^ shift ≤ 127 * 2 ^ shift := Nat.mul_le_mul_right _ (by omega)
  rw [Nat.pow_add]
  omega

theorem varint_sum (value low n shift : Nat) :
    value + low * 2 ^ shift + n * 2 ^ (shift + 7) = value + (low + 128 * n) * 2 ^ shift := by
  rw [Nat.pow_add, Nat.add_mul, Nat.mul_comm 128 n, Nat.mul_assoc, Nat.mul_comm 128 (2 ^ shift), Nat.add_assoc]

theorem reads_readVarintFrom (h : Varint octets n) (fuel shift value : Nat)
    (hfuel : octets.length ≤ fuel) (hvalue : value < 2 ^ shift) :
    Reads (readVarintFrom fuel shift value) octets (value + n * 2 ^ shift) := by
  induction h generalizing fuel shift value with
  | @last b hb =>
    obtain ⟨fuel, rfl⟩ := Nat.exists_eq_succ_of_ne_zero (by simp at hfuel; omega : fuel ≠ 0)
    intro rest
    rw [singleton_append, readVarintFrom_cons fuel hvalue, if_pos hb]
  | @more b more n hb hmore ih =>
    obtain ⟨fuel, rfl⟩ := Nat.exists_eq_succ_of_ne_zero (by simp at hfuel; omega : fuel ≠ 0)
    intro rest
    rw [cons_append, readVarintFrom_cons fuel hvalue, if_neg hb,
      ih fuel (shift + 7) _ (by simp at hfuel; omega) (varint_bound hvalue b), varint_sum]

theorem accepts_readVarintFrom (fuel shift value : Nat) (hvalue : value < 2 ^ shift) :
    Accepts (readVarintFrom fuel shift value) fun octets result =>
      ∃ n, Varint octets n ∧ octets.length ≤ fuel ∧ result = value + n * 2 ^ shift := by
  induction fuel generalizing shift value with
  | zero =>
    intro input result rest hok
    cases hok
  | succ fuel ih =>
    intro input result rest hok
    rcases input with _ | ⟨b, input⟩
    · cases hok
    · rw [readVarintFrom_cons fuel hvalue] at hok
      by_cases hb : b < 128
      · rw [if_pos hb] at hok
        cases hok
        exact ⟨[b], rfl, b.toNat, .last hb, by simp, rfl⟩
      · rw [if_neg hb] at hok
        obtain ⟨more, rfl, n, hvarint, hmore, rfl⟩ := ih _ _ (varint_bound hvalue b) _ _ _ hok
        exact ⟨b :: more, rfl, b.toNat - 128 + 128 * n, .more hb hvarint, by simp; omega, varint_sum ..⟩

/-- A varint of at most five octets. -/
def ShortVarint (octets : Bytes) (n : Nat) : Prop := Varint octets n ∧ octets.length ≤ maxVarintBytes

theorem reads_readUnsignedVarint (h : ShortVarint octets n) :
    Reads readUnsignedVarint octets n := by
  have hreads := reads_readVarintFrom h.1 maxVarintBytes 0 0 h.2 Nat.one_pos
  rwa [Nat.pow_zero, Nat.mul_one, Nat.zero_add] at hreads

theorem accepts_readUnsignedVarint : Accepts readUnsignedVarint ShortVarint := by
  refine (accepts_readVarintFrom maxVarintBytes 0 0 Nat.one_pos).imp ?_
  rintro used _ ⟨n, hvarint, hlength, rfl⟩
  rw [Nat.pow_zero, Nat.mul_one, Nat.zero_add]
  exact ⟨hvarint, hlength⟩

/-! ## Compact strings and tagged fields -/

def CompactText (maxBytes : Nat) (octets : Bytes) : Prop :=
  ∃ len content, octets = len ++ content ∧ ShortVarint len (content.length + 1) ∧ content.length ≤ maxBytes ∧
    validUtf8 content

def Tag (maxBytes : Nat) (octets : Bytes) : Prop :=
  ∃ id n len content, octets = id ++ (len ++ content) ∧ ShortVarint id n ∧ ShortVarint len content.length ∧
    content.length ≤ maxBytes

def TagSection (maxBytes : Nat) (octets : Bytes) : Prop :=
  ∃ (count : Bytes) (tags : List Bytes), octets = count ++ tags.flatten ∧ ShortVarint count tags.length ∧
    tags.length ≤ 16 ∧ ∀ tag ∈ tags, Tag maxBytes tag

variable {maxBytes : Nat}

theorem reads_skipText {content : Bytes} (hlen : content.length ≤ maxBytes) (hutf8 : validUtf8 content) :
    Reads (skipText content.length maxBytes) content () := by
  rw [skipText, if_neg (by omega)]
  refine (reads_takeExactly _ content).bind_last ?_
  rw [if_pos hutf8]
  exact reads_pure ()

theorem accepts_skipText (len : Nat) :
    Accepts (skipText len maxBytes) fun used _ => used.length = len ∧ used.length ≤ maxBytes ∧ validUtf8 used := by
  intro input a rest hok
  unfold skipText at hok
  split at hok
  · cases hok
  · obtain ⟨raw, mid, htake, hcheck⟩ := bind_ok hok
    obtain ⟨used, rfl, hused, hlength⟩ := accepts_takeExactly _ _ _ _ _ htake
    subst hused
    split at hcheck
    next hutf8 =>
      cases hcheck
      exact ⟨used, rfl, hlength, by omega, hutf8⟩
    next => cases hcheck

theorem reads_skipCompactString (h : CompactText maxBytes octets) :
    Reads (skipCompactString maxBytes) octets () := by
  obtain ⟨len, content, rfl, hlen, hmax, hutf8⟩ := h
  refine (reads_readUnsignedVarint hlen).bind ?_
  exact reads_skipText hmax hutf8

theorem accepts_skipCompactString :
    Accepts (skipCompactString maxBytes) fun used _ => CompactText maxBytes used := by
  intro input a rest hok
  obtain ⟨n, mid, hread, hbody⟩ := bind_ok hok
  obtain ⟨len, rfl, hlen⟩ := accepts_readUnsignedVarint _ _ _ hread
  split at hbody
  · cases hbody
  · obtain ⟨content, rfl, hlength, hmax, hutf8⟩ := accepts_skipText _ _ _ _ hbody
    have hn : content.length + 1 = n := by omega
    exact ⟨len ++ content, by rw [append_assoc], len, content, rfl, by rwa [hn], hmax, hutf8⟩

theorem reads_skipTag (h : Tag maxBytes octets) : Reads (skipTag maxBytes) octets () := by
  obtain ⟨id, n, len, content, rfl, hid, hlen, hmax⟩ := h
  refine (reads_readUnsignedVarint hid).bind ((reads_readUnsignedVarint hlen).bind ?_)
  rw [if_neg (by omega)]
  exact reads_skipBytes rfl

theorem accepts_skipTag : Accepts (skipTag maxBytes) fun used _ => ∃ tag, used = id tag ∧ Tag maxBytes tag := by
  intro input a rest hok
  obtain ⟨n, _, hread, hbody⟩ := bind_ok hok
  obtain ⟨idOctets, rfl, hid⟩ := accepts_readUnsignedVarint _ _ _ hread
  obtain ⟨m, _, hread', hskip⟩ := bind_ok hbody
  obtain ⟨len, rfl, hlen⟩ := accepts_readUnsignedVarint _ _ _ hread'
  split at hskip
  · cases hskip
  · obtain ⟨content, _, htake, hlast⟩ := bind_ok hskip
    cases hlast
    obtain ⟨used, rfl, hused, hlength⟩ := accepts_takeExactly _ _ _ _ _ htake
    subst hused
    refine ⟨idOctets ++ (len ++ used), by simp only [append_assoc], _, rfl, idOctets, n, len, used, rfl, hid, ?_,
      by omega⟩
    rwa [hlength]

theorem reads_skipTaggedFields (h : TagSection maxBytes octets) :
    Reads (skipTaggedFields maxBytes) octets () := by
  obtain ⟨count, tags, rfl, hcount, hmax, htags⟩ := h
  refine (reads_readUnsignedVarint hcount).bind ?_
  rw [if_neg (by simp only [maxKafkaTags]; omega), ← flatMap_id]
  exact reads_times (fun _ _ => ()) (fun tag htag _ => reads_skipTag (htags tag htag)) ()

theorem accepts_skipTaggedFields :
    Accepts (skipTaggedFields maxBytes) fun used _ => TagSection maxBytes used := by
  intro input a rest hok
  obtain ⟨n, mid, hread, hbody⟩ := bind_ok hok
  obtain ⟨count, rfl, hcount⟩ := accepts_readUnsignedVarint _ _ _ hread
  split at hbody
  · cases hbody
  next hmax =>
    obtain ⟨_, rfl, tags, rfl, rfl, htags⟩ := accepts_times accepts_skipTag n _ _ _ hbody
    rw [flatMap_id] at *
    refine ⟨count ++ tags.flatten, by rw [append_assoc], count, tags, rfl, hcount, ?_, htags⟩
    simp only [maxKafkaTags] at hmax
    omega

/-- Octets that read as the body of an `ApiVersions` request. -/
def ReadsAsBody (config : ProtocolExtractionConfig) (octets : Bytes) : Prop :=
  ∃ name version tags, octets = name ++ (version ++ tags) ∧ CompactText config.maxRequestLineBytes name ∧
    CompactText config.maxRequestLineBytes version ∧ TagSection config.maxRequestLineBytes tags

section validate

variable (hversion : 3 ≤ header.apiVersion) (config : ProtocolExtractionConfig) (octets : Bytes)
include hversion

theorem validateApiVersions_eq : validateApiVersionsRequestBody header config octets
      = ((skipCompactString config.maxRequestLineBytes >>= fun _ =>
          skipCompactString config.maxRequestLineBytes >>= fun _ =>
            skipTaggedFields config.maxRequestLineBytes : BodyReader Unit) octets >>= fun p =>
          if p.2 ≠ [] then .error .malformedFrame else .ok ()) := by
  rw [validateApiVersionsRequestBody, if_neg (by omega), if_pos hversion]

theorem validateApiVersions_ok_iff :
    validateApiVersionsRequestBody header config octets = .ok () ↔ ReadsAsBody config octets := by
  rw [validateApiVersions_eq hversion]
  constructor
  · intro hok
    obtain ⟨⟨⟨⟩, rest⟩, hread, hend⟩ := bind_eq_ok hok
    obtain ⟨used, rfl, name, _, _, rfl, hname, version, tags, _, rfl, hv, htags⟩ :=
      (accepts_skipCompactString.bind fun _ => accepts_skipCompactString.bind fun _ => accepts_skipTaggedFields)
        _ _ _ hread
    split at hend
    · cases hend
    next hrest =>
      rw [ne_eq, not_not] at hrest
      subst hrest
      exact ⟨name, version, tags, append_nil _, hname, hv, htags⟩
  · rintro ⟨name, version, tags, rfl, hname, hv, htags⟩
    have hread := ((reads_skipCompactString hname).bind (f := fun _ => _)
      ((reads_skipCompactString hv).bind (f := fun _ => _) (reads_skipTaggedFields htags))).run
    rw [hread]
    rfl

/-- A compact string of length zero stands for null, which the body does not allow. -/
theorem validateApiVersions_zero :
    validateApiVersionsRequestBody header config (0 :: octets) = .error .malformedFrame := by
  have hzero : Reads readUnsignedVarint [0] 0 := reads_readUnsignedVarint ⟨.last (by decide), by decide⟩
  have hfails : Fails (skipCompactString config.maxRequestLineBytes) [0] .malformedFrame := by
    refine hzero.bind_fails_last ?_
    exact fails_fail _
  have hskip := (hfails.bind (fun _ => skipCompactString config.maxRequestLineBytes >>= fun _ =>
    skipTaggedFields config.maxRequestLineBytes) octets).run
  rw [validateApiVersions_eq hversion, ← singleton_append, hskip]
  rfl

end validate

/-! ## ApiVersions requests -/

/-- A varint in its shortest form, for numbers below `2 ^ 35`. -/
def encodeVarintFrom : Nat → Nat → Bytes
  | 0, _ => []
  | fuel + 1, n => if n < 128 then [UInt8.ofNat n] else UInt8.ofNat (n % 128 + 128) :: encodeVarintFrom fuel (n / 128)

def encodeVarint (n : Nat) : Bytes := encodeVarintFrom maxVarintBytes n

def encodeCompact (content : Bytes) : Bytes := encodeVarint (content.length + 1) ++ content

def encodeTags (tags : List (Nat × Bytes)) : Bytes :=
  encodeVarint tags.length ++ tags.flatMap fun tag => encodeVarint tag.1 ++ (encodeVarint tag.2.length ++ tag.2)

theorem varint_encodeVarintFrom {fuel : Nat} (hfuel : fuel ≠ 0) (h : n < 128 ^ fuel) :
    Varint (encodeVarintFrom fuel n) n ∧ (encodeVarintFrom fuel n).length ≤ fuel := by
  induction fuel generalizing n with
  | zero => exact absurd rfl hfuel
  | succ fuel ih =>
    rw [encodeVarintFrom]
    by_cases hn : n < 128
    · have hoctet : (UInt8.ofNat n).toNat = n := by rw [UInt8.toNat_ofNat']; omega
      have hlast : Varint [UInt8.ofNat n] (UInt8.ofNat n).toNat :=
        .last (by rw [UInt8.lt_iff_toNat_lt, hoctet]; exact hn)
      rw [hoctet] at hlast
      rw [if_pos hn]
      exact ⟨hlast, by simp⟩
    · have hoctet : (UInt8.ofNat (n % 128 + 128)).toNat = n % 128 + 128 := by rw [UInt8.toNat_ofNat']; omega
      have hmore : fuel ≠ 0 := by
        rintro rfl
        exact hn h
      obtain ⟨hrest, hlength⟩ := ih (n := n / 128) hmore (by rw [Nat.pow_succ] at h; omega)
      have hvarint := Varint.more (b := UInt8.ofNat (n % 128 + 128))
        (by rw [UInt8.lt_iff_toNat_lt, hoctet]; exact Nat.not_lt.mpr (Nat.le_add_left _ _)) hrest
      rw [hoctet, show n % 128 + 128 - 128 + 128 * (n / 128) = n by omega] at hvarint
      rw [if_neg hn]
      exact ⟨hvarint, Nat.succ_le_succ hlength⟩

theorem shortVarint_encodeVarint (h : n < 2 ^ 35) : ShortVarint (encodeVarint n) n :=
  @varint_encodeVarintFrom n maxVarintBytes (by decide) (by simpa [maxVarintBytes] using h)

structure ApiVersionsRequest where
  apiVersion : Int
  correlationId : int32.Value
  clientId : Option Bytes
  headerTags : List (Nat × Bytes)
  clientSoftwareName : Bytes
  clientSoftwareVersion : Bytes
  tags : List (Nat × Bytes)

namespace ApiVersionsRequest

def encodeClientId : Option Bytes → Bytes
  | none => int 2 (-1)
  | some id => encodeString id

def encodeBody (r : ApiVersionsRequest) : Bytes :=
  encodeCompact r.clientSoftwareName ++ (encodeCompact r.clientSoftwareVersion ++ encodeTags r.tags)

def encode (r : ApiVersionsRequest) : Bytes :=
  int 2 18 ++ (int 2 r.apiVersion ++ (r.correlationId.1 ++ (encodeClientId r.clientId ++
    (encodeTags r.headerTags ++ r.encodeBody))))

structure WellFormed (config : ProtocolExtractionConfig) (r : ApiVersionsRequest) : Prop where
  version : r.apiVersion = 3 ∨ r.apiVersion = 4
  clientId : ∀ id ∈ r.clientId, validUtf8 id ∧ id.length ≤ config.maxRequestLineBytes ∧ id.length < 2 ^ 15
  name : validUtf8 r.clientSoftwareName ∧ r.clientSoftwareName.length ≤ config.maxRequestLineBytes
  softwareVersion : validUtf8 r.clientSoftwareVersion ∧ r.clientSoftwareVersion.length ≤ config.maxRequestLineBytes
  headerTags : r.headerTags.length ≤ 16 ∧ ∀ tag ∈ r.headerTags, tag.1 < 2 ^ 32
  tags : r.tags.length ≤ 16 ∧ ∀ tag ∈ r.tags, tag.1 < 2 ^ 32

variable {config : ProtocolExtractionConfig} {r : ApiVersionsRequest}

theorem reads_parseNullableString (h : r.WellFormed config) :
    ∃ present, Reads (parseNullableString config.maxRequestLineBytes) (encodeClientId r.clientId) present := by
  rcases hid : r.clientId with _ | id
  · exact ⟨false, (reads_readI16 (by omega)).bind_last (reads_pure false)⟩
  · obtain ⟨hutf8, hmax, hlen⟩ := h.clientId id hid
    refine ⟨decide ((id.length : Int) > 0), (reads_readI16 (by omega)).bind ?_⟩
    exact (reads_skipText hmax hutf8).bind_pure _

theorem compactText_encodeCompact {content : Bytes} (hutf8 : validUtf8 content) (hmax : content.length ≤ maxBytes)
    (hlen : content.length < 2 ^ 31) : CompactText maxBytes (encodeCompact content) :=
  ⟨encodeVarint (content.length + 1), content, rfl, shortVarint_encodeVarint (by omega), hmax, hutf8⟩

theorem tagSection_encodeTags {tags : List (Nat × Bytes)} (hcount : tags.length ≤ 16)
    (htags : ∀ tag ∈ tags, tag.1 < 2 ^ 32 ∧ tag.2.length ≤ maxBytes) (hlen : (encodeTags tags).length < 2 ^ 31) :
    TagSection maxBytes (encodeTags tags) := by
  refine ⟨encodeVarint tags.length, tags.map fun tag => encodeVarint tag.1 ++ (encodeVarint tag.2.length ++ tag.2),
    by rw [encodeTags, flatMap_def], ?_, by rwa [length_map], ?_⟩
  · rw [length_map]
    exact shortVarint_encodeVarint (by omega)
  · intro octets hoctets
    have hpart := (sublist_flatten_of_mem hoctets).length_le
    obtain ⟨tag, htag, rfl⟩ := mem_map.mp hoctets
    obtain ⟨hid, hvalue⟩ := htags tag htag
    rw [encodeTags, length_append, flatMap_def] at hlen
    simp only [length_append] at hpart
    exact ⟨_, tag.1, _, tag.2, rfl, shortVarint_encodeVarint (by omega), shortVarint_encodeVarint (by omega), hvalue⟩

/-- The body would be read if the parser started where it starts. -/
theorem readsAsBody_encodeBody (h : r.WellFormed config) (hlen : r.encodeBody.length < 2 ^ 31)
    (hvalues : ∀ tag ∈ r.tags, tag.2.length ≤ config.maxRequestLineBytes) : ReadsAsBody config r.encodeBody := by
  simp only [encodeBody, length_append] at hlen
  have hname : r.clientSoftwareName.length ≤ (encodeCompact r.clientSoftwareName).length := by
    rw [encodeCompact, length_append]
    omega
  have hversion : r.clientSoftwareVersion.length ≤ (encodeCompact r.clientSoftwareVersion).length := by
    rw [encodeCompact, length_append]
    omega
  exact ⟨_, _, _, rfl, compactText_encodeCompact h.name.1 h.name.2 (by omega),
    compactText_encodeCompact h.softwareVersion.1 h.softwareVersion.2 (by omega),
    tagSection_encodeTags h.tags.1 (fun tag htag => ⟨h.tags.2 tag htag, hvalues tag htag⟩) (by omega)⟩

theorem reads_parseClientId (h : r.WellFormed config) :
    ∃ present, Reads (parseClientId config.maxRequestLineBytes) (encodeClientId r.clientId) present := by
  obtain ⟨present, hpresent⟩ := reads_parseNullableString h
  refine ⟨present, fun rest => ?_⟩
  rw [parseClientId, hpresent]

theorem reads_correlationId (id : int32.Value) : ∃ n, Reads readI32BeCursor id.1 n := by
  have hraw := reads_takeExactly KafkaExtraction.malformedFrame id.1
  rw [id.2] at hraw
  exact ⟨_, hraw.bind_pure fun raw => signed 32 (beNat raw)⟩

theorem requestHeader_encode (h : r.WellFormed config) :
    ∃ present, requestHeader config.maxRequestLineBytes r.encode =
      .ok (⟨18, r.apiVersion, present⟩, encodeTags r.headerTags ++ r.encodeBody) := by
  obtain ⟨present, hpresent⟩ := reads_parseClientId h
  obtain ⟨n, hn⟩ := reads_correlationId r.correlationId
  have hversion := h.version
  refine ⟨present, ?_⟩
  refine ((reads_readI16 (n := 18) (by omega)).run_bind _ _).trans ?_
  refine ((reads_readI16 (n := r.apiVersion) (by omega)).run_bind _ _).trans ?_
  refine (hn.run_bind _ _).trans ?_
  exact hpresent.run_bind _ _

end ApiVersionsRequest

/-- **When a request with a flexible header is recognised**: if and only if the tagged fields of its header and its
body, taken together, read as a body. With no tagged fields in the header it is refused. -/
theorem recognised_iff {config : ProtocolExtractionConfig} {r : ApiVersionsRequest} (h : r.WellFormed config)
    {bytes : Bytes} (hframed : Framed bytes r.encode) (hmax : bytes.length ≤ config.maxHeaderBytes)
    (others : KafkaRequestHeader → ProtocolExtractionConfig → Bytes → Except KafkaExtraction Unit) :
    ((∃ parsed, parseKafkaRequest others bytes config = .ok parsed ∧ parsed.operation = some "api_versions") ↔
      ReadsAsBody config (encodeTags r.headerTags ++ r.encodeBody)) ∧
    (r.headerTags = [] → parseKafkaRequest others bytes config = .error .malformedFrame) := by
  obtain ⟨rfl, hlen⟩ := hframed
  obtain ⟨present, hheader⟩ := r.requestHeader_encode h
  have hpos : 0 < r.encode.length := by
    rw [ApiVersionsRequest.encode, length_append, length_int]
    omega
  have hbody := frameBody_frame hpos hlen hmax []
  rw [append_nil] at hbody
  have hversion : 3 ≤ r.apiVersion := by
    rcases h.version with hv | hv <;> omega
  have hparse : parseKafkaRequest others (frame r.encode) config
      = validateApiVersionsRequestBody ⟨18, r.apiVersion, present⟩ config (encodeTags r.headerTags ++ r.encodeBody)
        >>= fun _ => .ok (kafkaRequest ⟨18, r.apiVersion, present⟩ config "api_versions") := by
    rw [parseKafkaRequest, if_neg (by omega), hbody]
    show (requestHeader config.maxRequestLineBytes r.encode >>= _) = _
    rw [hheader]
    rfl
  rw [hparse]
  refine ⟨?_, ?_⟩
  · rw [← @validateApiVersions_ok_iff ⟨18, r.apiVersion, present⟩ hversion]
    constructor
    · rintro ⟨parsed, hok, -⟩
      obtain ⟨⟨⟩, hvalid, -⟩ := bind_eq_ok hok
      exact hvalid
    · intro hvalid
      rw [hvalid]
      exact ⟨_, rfl, rfl⟩
  · intro htags
    have hsection : encodeTags r.headerTags = [0] := by
      rw [htags]
      rfl
    rw [hsection, singleton_append, validateApiVersions_zero hversion]
    rfl

theorem length_firstId : ([0, 0, 0, 1] : Bytes).length = 4 := rfl

/-- A first request as clients send it: no tagged fields in the header. -/
def firstRequest : ApiVersionsRequest where
  apiVersion := 3
  correlationId := ⟨[0, 0, 0, 1], length_firstId⟩
  clientId := some (text "a")
  headerTags := []
  clientSoftwareName := text "kafka"
  clientSoftwareVersion := text "3"
  tags := []

theorem wellFormed_firstRequest : firstRequest.WellFormed {} :=
  ⟨.inl rfl, by rintro _ ⟨⟩; decide, by decide, by decide, by decide, by decide⟩

theorem not_recognised_firstRequest :
    firstRequest.WellFormed {} ∧ Framed (frame firstRequest.encode) firstRequest.encode ∧
    (frame firstRequest.encode).length ≤ ({} : ProtocolExtractionConfig).maxHeaderBytes ∧
    parseKafkaRequest (fun _ _ _ => .ok ()) (frame firstRequest.encode) {} = .error .malformedFrame :=
  ⟨wellFormed_firstRequest, ⟨rfl, by decide⟩, by decide, by decide +kernel⟩

/-- **Every body of an ApiVersions request passes its check**: only the tagged fields of the header, which are not
skipped, stand before it. -/
theorem validateApiVersions_encodeBody {config : ProtocolExtractionConfig} {r : ApiVersionsRequest}
    (h : r.WellFormed config) (hlen : r.encodeBody.length < 2 ^ 31)
    (hvalues : ∀ tag ∈ r.tags, tag.2.length ≤ config.maxRequestLineBytes) (present : Bool) :
    validateApiVersionsRequestBody ⟨18, r.apiVersion, present⟩ config r.encodeBody = .ok () := by
  refine (validateApiVersions_ok_iff ?_ _ _).mpr (r.readsAsBody_encodeBody h hlen hvalues)
  show 3 ≤ r.apiVersion
  rcases h.version with hv | hv <;> omega

theorem validateApiVersions_firstRequest :
    validateApiVersionsRequestBody ⟨18, 3, true⟩ {} firstRequest.encodeBody = .ok () :=
  validateApiVersions_encodeBody wellFormed_firstRequest (by decide) nofun true

/-- One tagged field in the header whose octets, with those of the body, happen to read as a body. -/
def luckyRequest : ApiVersionsRequest where
  apiVersion := 3
  correlationId := ⟨[0, 0, 0, 1], length_firstId⟩
  clientId := none
  headerTags := [(1, [120, 0])]
  clientSoftwareName := []
  clientSoftwareVersion := []
  tags := []

theorem recognised_luckyRequest :
    ∃ parsed, parseKafkaRequest (fun _ _ _ => .ok ()) (frame luckyRequest.encode) {} = .ok parsed ∧
      parsed.operation = some "api_versions" := by
  have hwell : luckyRequest.WellFormed {} :=
    ⟨.inl rfl, by rintro _ ⟨⟩, by decide, by decide, by decide, by decide⟩
  refine (recognised_iff hwell ⟨rfl, by decide⟩ (by decide) _).1.mpr ?_
  have hempty : CompactText 1024 [1] := ⟨[1], [], rfl, ⟨.last (by decide), by decide⟩, by decide, by decide⟩
  refine ⟨[1], [1], [2, 120, 0, 1, 1, 0], rfl, hempty, hempty, [2], [[120, 0], [1, 1, 0]], rfl,
    ⟨.last (by decide), by decide⟩, by decide, ?_⟩
  rintro tag htag
  rcases mem_pair.mp htag with rfl | rfl
  · exact ⟨[120], 120, [0], [], rfl, ⟨.last (by decide), by decide⟩, ⟨.last (by decide), by decide⟩, by decide⟩
  · exact ⟨[1], 1, [1], [0], rfl, ⟨.last (by decide), by decide⟩, ⟨.last (by decide), by decide⟩, by decide⟩

end ENavigator.Kafka
