import Mathlib.Tactic.Ring
import ENavigator.Http2.Encoding

/-!
# HPACK integers and strings

What the readers of the two primitives accept and return.

* `decodeContinuation_eq_ok_iff` : the continuation bytes of an integer;
* `exact_iff_not_wraps` : when an integer is the number its bytes stand for; the fifth continuation byte loses what is
  above the 32-bit word;
* `huffmanDecode_eq_ok_iff` : a Huffman string is accepted if and only if it is the coding of the string returned;
* `huffman_bijective` : the same for the coder that the decoder's tables give.
-/

namespace ENavigator.Http2

open List

open PrefixCode (bitsMsb IsWord)

variable {code : Bytes} {bits tag p : Nat}

/-! ## Integers -/

/-- The number that continuation bytes stand for, seven bits each, least significant first. -/
def groupsValue : Bytes → Nat
  | [] => 0
  | byte :: rest => byte.toNat % 128 + 128 * groupsValue rest

/-- The number that the bytes of an integer stand for, without a bound. -/
def integerValue (bits : Nat) : Bytes → Nat
  | [] => 0
  | first :: groups => first.toNat % 2 ^ bits + groupsValue groups

theorem groupsValue_concat (groups : Bytes) {last : UInt8} (h : last.toNat < 128) :
    groupsValue (groups ++ [last]) = groupsValue groups + last.toNat * 2 ^ (7 * groups.length) := by
  induction groups with
  | nil => simp [groupsValue, Nat.mod_eq_of_lt h]
  | cons byte groups ih =>
    rw [cons_append, groupsValue, ih, groupsValue, length_cons, Nat.mul_succ, Nat.pow_add]
    ring

theorem low_bits (byte : UInt8) : (byte &&& 0x7f).toNat = byte.toNat % 128 := by
  rw [UInt8.toNat_and]
  exact Nat.and_two_pow_sub_one_eq_mod byte.toNat 7

theorem octet_tests {p : Nat} (h : p < 256) : (UInt8.ofNat p &&& 0x80 = 0 ↔ p < 128) ∧
    (UInt8.ofNat p &&& 0xc0 = 0x40 ↔ 64 ≤ p ∧ p < 128) ∧ (UInt8.ofNat p &&& 0xe0 = 0x20 ↔ 32 ≤ p ∧ p < 64) := by
  revert h
  revert p
  decide +kernel

theorem unmarked_iff (byte : UInt8) : byte &&& 0x80 = 0 ↔ byte.toNat < 128 := by
  have h := (octet_tests byte.toNat_lt).1
  rwa [UInt8.ofNat_toNat] at h

theorem groupsValue_cons_mul (byte : UInt8) (groups : Bytes) (shift : Nat) :
    groupsValue (byte :: groups) * 2 ^ shift
      = byte.toNat % 128 * 2 ^ shift + groupsValue groups * 2 ^ (shift + 7) := by
  rw [groupsValue, Nat.pow_add]
  ring

variable {bytes s raw : Bytes} {n maxBytes : Nat}

/-- What a reader with `turns` turns left accepts: marked bytes and an unmarked one. Of that one the bits above the
32-bit word are lost. -/
theorem decodeContinuation_eq_ok_iff {turns shift value v : Nat} {rest : Bytes} (hturns : shift + 7 * turns = 35) :
    decodeContinuation turns shift value bytes = .ok (v, rest) ↔
      ∃ groups last, bytes = groups ++ last :: rest ∧ groups.length < turns ∧ (∀ byte ∈ groups, 128 ≤ byte.toNat) ∧
        last.toNat < 128 ∧ v < 2 ^ 32 ∧
        v = value + groupsValue groups * 2 ^ shift + last.toNat * 2 ^ (shift + 7 * groups.length) % 2 ^ 32 := by
  induction turns generalizing shift value bytes with
  | zero => simp [decodeContinuation]
  | succ turns ih =>
    rcases bytes with _ | ⟨byte, bytes⟩
    · simp [decodeContinuation]
    rw [decodeContinuation, if_neg (by omega), low_bits, Nat.shiftLeft_eq]
    simp only [unmarked_iff]
    by_cases hbyte : byte.toNat < 128
    · rw [Nat.mod_eq_of_lt hbyte, if_pos hbyte]
      constructor
      · intro h
        split at h
        · cases h
        next hfits =>
          cases h
          exact ⟨[], byte, rfl, by simp, by simp, hbyte, Nat.not_le.mp hfits, by simp [groupsValue]⟩
      · rintro ⟨_ | ⟨_, groups⟩, last, heq, -, hmarked, -, hv, rfl⟩
        · cases heq
          simp only [groupsValue, Nat.zero_mul, Nat.add_zero, length_nil, Nat.mul_zero] at hv ⊢
          rw [if_neg (Nat.not_le.mpr hv)]
        · cases heq
          exact absurd hbyte (Nat.not_lt.mpr (hmarked _ mem_cons_self))
    · rw [if_neg hbyte]
      -- a turn follows, so this byte is far from the end of the word; without one both sides fail
      rcases turns with _ | turns
      · constructor
        · intro h
          split at h <;> cases h
        · rintro ⟨_ | ⟨_, groups⟩, last, heq, hlen, -, hlast, -⟩
          · cases heq
            exact absurd hlast hbyte
          · simp at hlen
      have hfits : byte.toNat % 128 * 2 ^ shift < 2 ^ 32 :=
        calc byte.toNat % 128 * 2 ^ shift ≤ 127 * 2 ^ 21 :=
              Nat.mul_le_mul (by omega) (Nat.pow_le_pow_right (by decide) (by omega))
          _ < 2 ^ 32 := by decide
      rw [Nat.mod_eq_of_lt hfits]
      constructor
      · intro h
        split at h
        · cases h
        obtain ⟨groups, last, rfl, hlen, hmarked, hlast, hv, rfl⟩ := (ih (by omega)).mp h
        refine ⟨byte :: groups, last, rfl, Nat.succ_lt_succ hlen,
          forall_mem_cons.mpr ⟨Nat.not_lt.mp hbyte, hmarked⟩, hlast, hv, ?_⟩
        rw [groupsValue_cons_mul, length_cons, Nat.mul_succ, Nat.add_comm (7 * _), ← Nat.add_assoc shift]
        omega
      · rintro ⟨_ | ⟨_, groups⟩, last, heq, hlen, hmarked, hlast, hv, hval⟩
        · cases heq
          exact absurd hlast hbyte
        · cases heq
          rw [groupsValue_cons_mul, length_cons, Nat.mul_succ, Nat.add_comm (7 * _), ← Nat.add_assoc shift,
            ← Nat.add_assoc value] at hval
          rw [if_neg (by omega)]
          exact (ih (by omega)).mpr
            ⟨groups, last, rfl, Nat.lt_of_succ_lt_succ hlen, (forall_mem_cons.mp hmarked).2, hlast, hv, hval⟩

theorem Groups.split (h : Groups n bytes) :
    ∃ groups last, bytes = groups ++ [last] ∧ (∀ byte ∈ groups, 128 ≤ byte.toNat) ∧ last.toNat < 128 ∧
      n = groupsValue groups + last.toNat * 2 ^ (7 * groups.length) := by
  induction h with
  | @last d hd =>
    have hval : (UInt8.ofNat d).toNat = d := by
      rw [UInt8.toNat_ofNat']
      omega
    exact ⟨[], _, rfl, by simp, by omega, by simp [groupsValue, hval]⟩
  | @more d n bytes hd _ ih =>
    obtain ⟨groups, last, rfl, hmarked, hlast, rfl⟩ := ih
    have hval : (UInt8.ofNat (128 + d)).toNat = 128 + d := by
      rw [UInt8.toNat_ofNat']
      omega
    refine ⟨_ :: groups, last, rfl, forall_mem_cons.mpr ⟨by omega, hmarked⟩, hlast, ?_⟩
    rw [groupsValue, hval, Nat.add_mod_left, Nat.mod_eq_of_lt hd, length_cons, Nat.mul_succ, Nat.pow_add]
    ring

theorem decodeContinuation_groups {value : Nat} (h : Groups n bytes) (hlen : bytes.length ≤ 5)
    (hword : value + n < 2 ^ 32) (rest : Bytes) :
    decodeContinuation maxHpackIntContinuationBytes 0 value (bytes ++ rest) = .ok (value + n, rest) := by
  obtain ⟨groups, last, rfl, hmarked, hlast, rfl⟩ := h.split
  rw [length_append] at hlen
  refine (decodeContinuation_eq_ok_iff rfl).mpr ⟨groups, last, by simp, hlen, hmarked, hlast, hword, ?_⟩
  rw [Nat.zero_add, Nat.mod_eq_of_lt (by omega)]
  omega

theorem lastGroup {d : Nat} (h : d < 128) : UInt8.ofNat d &&& 0x80 = 0 :=
  (octet_tests (by omega)).1.mpr h

theorem markedGroup {d : Nat} (h : d < 128) : UInt8.ofNat (128 + d) &&& 0x80 ≠ 0 :=
  mt (octet_tests (by omega)).1.mp (by omega)

theorem and_mask_of_dvd (htag : 2 ^ bits ∣ tag) (hfit : tag + 2 ^ bits ≤ 256) (hp : p < 2 ^ bits) :
    (UInt8.ofNat (tag + p)).toNat &&& (2 ^ bits - 1) = p := by
  have hbyte : tag + p < UInt8.size := by
    rw [show UInt8.size = 256 from rfl]
    omega
  obtain ⟨k, rfl⟩ := htag
  rw [UInt8.toNat_ofNat_of_lt' hbyte, Nat.and_two_pow_sub_one_eq_mod, Nat.mul_add_mod,
    Nat.mod_eq_of_lt hp]

theorem decodeInteger_integerCode (h : IntegerCode bits tag n code) (htag : 2 ^ bits ∣ tag)
    (hfit : tag + 2 ^ bits ≤ 256) (hn : n < 2 ^ 32) (rest : Bytes) :
    decodeInteger bits (code ++ rest) = .ok (n, rest) := by
  cases h with
  | short hshort =>
    rw [singleton_append, decodeInteger, and_mask_of_dvd htag hfit (by omega)]
    exact if_pos hshort
  | @long n bytes hgroups hlen =>
    rw [cons_append, decodeInteger, and_mask_of_dvd htag hfit (by omega)]
    simp only [if_neg (Nat.lt_irrefl _)]
    exact decodeContinuation_groups hgroups hlen hn rest

theorem IntegerCode.first (h : IntegerCode bits tag n code) :
    ∃ p < 2 ^ bits, ∃ tail, code = UInt8.ofNat (tag + p) :: tail := by
  have hpos := Nat.two_pow_pos bits
  rcases h with hshort | ⟨_, _⟩
  · exact ⟨n, by omega, [], rfl⟩
  · exact ⟨2 ^ bits - 1, by omega, _, rfl⟩

/-- What the reader returns fits a 32-bit word and is the number that the bytes it took stand for. -/
def Exact (bits : Nat) (bytes : Bytes) : Prop :=
  ∀ v rest, decodeInteger bits bytes = .ok (v, rest) →
    v < 2 ^ 32 ∧ ∃ taken, bytes = taken ++ rest ∧ v = integerValue bits taken

/-- A fifth continuation byte with bits above the 32-bit word, and a sum that fits once these are lost. -/
def Wraps (bits : Nat) (bytes : Bytes) : Prop :=
  ∃ first groups last rest, bytes = first :: (groups ++ last :: rest) ∧ first.toNat % 2 ^ bits = 2 ^ bits - 1 ∧
    groups.length = 4 ∧ (∀ byte ∈ groups, 128 ≤ byte.toNat) ∧ 16 ≤ last.toNat ∧ last.toNat < 128 ∧
    integerValue bits (first :: groups) + last.toNat % 16 * 2 ^ 28 < 2 ^ 32

/-- **When an integer is read exactly.** -/
theorem exact_iff_not_wraps (bits : Nat) (bytes : Bytes) : Exact bits bytes ↔ ¬ Wraps bits bytes := by
  rcases bytes with _ | ⟨first, bytes⟩
  · constructor
    · rintro - ⟨_, _, _, _, heq, -⟩
      cases heq
    · intro _ v rest h
      cases h
  have hmask : first.toNat &&& (2 ^ bits - 1) = first.toNat % 2 ^ bits := Nat.and_two_pow_sub_one_eq_mod _ _
  unfold Exact
  rw [decodeInteger, hmask]
  by_cases hshort : first.toNat % 2 ^ bits < 2 ^ bits - 1
  · rw [if_pos hshort]
    constructor
    · rintro - ⟨_, _, _, _, heq, hones, -⟩
      cases heq
      omega
    · rintro - v rest h
      cases h
      have hbyte := first.toNat_lt
      have hmod := Nat.mod_le first.toNat (2 ^ bits)
      exact ⟨by omega, [first], rfl, rfl⟩
  rw [if_neg hshort]
  simp only [decodeContinuation_eq_ok_iff (show 0 + 7 * maxHpackIntContinuationBytes = 35 from rfl), Nat.zero_add,
    Nat.pow_zero, Nat.mul_one]
  constructor
  · rintro h ⟨_, groups, last, rest, heq, -, hfour, hmarked, hwide, hlast, hfits⟩
    cases heq
    have hlost : last.toNat * 2 ^ (7 * groups.length) % 2 ^ 32 = last.toNat % 16 * 2 ^ 28 := by
      rw [hfour]
      omega
    obtain ⟨-, taken, htaken, hvalue⟩ := h _ rest
      ⟨groups, last, rfl, by rw [hfour]; decide, hmarked, hlast, by rw [hlost]; exact hfits, rfl⟩
    have hcut : first :: (groups ++ last :: rest) = (first :: (groups ++ [last])) ++ rest := by simp
    rw [hcut] at htaken
    rw [← append_cancel_right htaken, integerValue, groupsValue_concat groups hlast, hlost, hfour] at hvalue
    omega
  · rintro hwraps v rest ⟨groups, last, rfl, hlen, hmarked, hlast, hv, hval⟩
    have hlen : groups.length < 5 := hlen
    have hfits : last.toNat * 2 ^ (7 * groups.length) < 2 ^ 32 := by
      by_cases hfour : groups.length = 4
      · by_contra hwide
        refine hwraps ⟨first, groups, last, rest, rfl, by omega, hfour, hmarked, ?_, hlast, ?_⟩
        · rw [hfour] at hwide
          omega
        · rw [hfour] at hval
          rw [integerValue]
          omega
      · calc last.toNat * 2 ^ (7 * groups.length) ≤ 127 * 2 ^ 21 :=
              Nat.mul_le_mul (by omega) (Nat.pow_le_pow_right (by decide) (by omega))
          _ < 2 ^ 32 := by decide
    rw [Nat.mod_eq_of_lt hfits] at hval
    refine ⟨hv, first :: (groups ++ [last]), by simp, ?_⟩
    rw [hval, integerValue, groupsValue_concat groups hlast, Nat.add_assoc]

/-- The fifth continuation byte is 16: the bytes stand for 127 + 2 ^ 32, and 127 is returned. -/
theorem not_exact_wrapped :
    decodeInteger 7 [0x7f, 0x80, 0x80, 0x80, 0x80, 0x10] = .ok (127, []) ∧
    integerValue 7 [0x7f, 0x80, 0x80, 0x80, 0x80, 0x10] = 2 ^ 32 + 127 ∧
    ¬ Exact 7 [0x7f, 0x80, 0x80, 0x80, 0x80, 0x10] := by
  have hread : decodeInteger 7 [0x7f, 0x80, 0x80, 0x80, 0x80, 0x10] = .ok (127, []) := by decide
  refine ⟨hread, by decide, ?_⟩
  intro h
  obtain ⟨-, taken, htaken, hvalue⟩ := h 127 [] hread
  rw [append_nil] at htaken
  rw [← htaken] at hvalue
  revert hvalue
  decide

/-! ## Huffman strings -/

/-- Whole bytes, most significant bit first. -/
def packBits : List Bool → Bytes
  | a :: b :: c :: d :: e :: f :: g :: h :: rest =>
    UInt8.ofNat ([a, b, c, d, e, f, g, h].foldl (fun n bit => 2 * n + bit.toNat) 0) :: packBits rest
  | _ => []

theorem byteBits_inverse :
    (∀ n < 256, UInt8.ofNat ((byteBits (.ofNat n)).foldl (fun n bit => 2 * n + bit.toNat) 0) = .ofNat n) ∧
    ∀ a b c d e f g h : Bool, byteBits (UInt8.ofNat
      ([a, b, c, d, e, f, g, h].foldl (fun n bit => 2 * n + bit.toNat) 0)) = [a, b, c, d, e, f, g, h] := by
  decide +kernel

theorem packBits_flatMap (raw : Bytes) : packBits (raw.flatMap byteBits) = raw := by
  have hbyte := forall_byte (P := fun b => UInt8.ofNat ((byteBits b).foldl (fun n bit => 2 * n + bit.toNat) 0) = b)
    (byteBits_inverse).1
  induction raw with
  | nil => rfl
  | cons byte raw ih =>
    rw [flatMap_cons, ← congrArg₂ List.cons (hbyte byte) ih]
    rfl

theorem flatMap_packBits {bits : List Bool} (h : bits.length % 8 = 0) : (packBits bits).flatMap byteBits = bits := by
  fun_induction packBits bits with
  | case1 a b c d e f g i rest ih =>
    simp only [length_cons] at h
    rw [flatMap_cons, (byteBits_inverse).2, ih (by omega)]
    rfl
  | case2 bits hshort =>
    rcases bits with _ | ⟨a, _ | ⟨b, _ | ⟨c, _ | ⟨d, _ | ⟨e, _ | ⟨f, _ | ⟨g, _ | ⟨i, rest⟩⟩⟩⟩⟩⟩⟩⟩
    · rfl
    all_goals first
      | cases h
      | exact absurd rfl (hshort _ _ _ _ _ _ _ _ _)

def huffmanReader : PrefixCode.Reader Nat := ⟨huffmanSymbol, 30⟩

/-- The word that the tables give a symbol: its place among the words of its length, from the first of them on. -/
def tableWord (symbol : Nat) : Nat × Nat :=
  let index := huffmanSymbols.idxOf symbol
  let position := huffmanFirstIndex.countP (· ≤ index) - 1
  (huffmanFirstCode.getD position 0 + (index - huffmanFirstIndex.getD position 0), huffmanLengths.getD position 0)

/-- What is checked of the tables entry by entry: every word is found and no start of one is, ones are no word before
the end-of-string word, every entry but the last is the word of an octet, and the tables give the words back. -/
theorem huffman_tables :
    (∀ n < 256, IsWord huffmanReader (huffmanWord (.ofNat n)).1 (huffmanWord (.ofNat n)).2 (UInt8.ofNat n).toNat) ∧
    (∀ n < 30, huffmanReader.read {} (List.replicate n true) = some (⟨2 ^ n - 1, n⟩, [])) ∧
    (∀ position < 21, ∀ offset < huffmanCount.getD position 0,
      ∀ symbol ∈ huffmanSymbols[huffmanFirstIndex.getD position 0 + offset]?, symbol ≠ huffmanEosSymbol →
        symbol < 256 ∧ huffmanWord (UInt8.ofNat symbol) =
          (huffmanFirstCode.getD position 0 + offset, huffmanLengths.getD position 0)) ∧
    (∀ n < 256, tableWord (UInt8.ofNat n).toNat = huffmanWord (.ofNat n)) ∧
      tableWord huffmanEosSymbol = (2 ^ 30 - 1, 30) := by
  decide +kernel

theorem isWord_huffmanWord (byte : UInt8) :
    IsWord huffmanReader (huffmanWord byte).1 (huffmanWord byte).2 byte.toNat :=
  forall_byte (P := fun b => IsWord huffmanReader (huffmanWord b).1 (huffmanWord b).2 b.toNat) (huffman_tables).1 byte

theorem read_ones (h : n < 30) : huffmanReader.read {} (List.replicate n true) = some (⟨2 ^ n - 1, n⟩, []) :=
  (huffman_tables).2.1 n h

theorem huffmanWord_of_symbol {code len symbol : Nat} (h : huffmanSymbol code len = some symbol)
    (hsymbol : symbol ≠ huffmanEosSymbol) : symbol < 256 ∧ huffmanWord (UInt8.ofNat symbol) = (code, len) := by
  obtain ⟨-, -, htable, -⟩ := huffman_tables
  obtain ⟨position, hposition, h⟩ := Option.bind_eq_some_iff.mp h
  obtain ⟨hlt, hlen, -⟩ := List.findIdx?_eq_some_iff_getElem.mp hposition
  dsimp only at h
  split at h
  next hrange =>
    rw [Bool.and_eq_true, decide_eq_true_eq, decide_eq_true_eq] at hrange
    obtain ⟨hbyte, hword⟩ := htable position hlt (code - huffmanFirstCode.getD position 0) (by omega) symbol h hsymbol
    rw [getD_eq_getElem _ _ hlt, eq_of_beq hlen, Nat.add_sub_of_le hrange.1] at hword
    exact ⟨hbyte, hword⟩
  · cases h

/-- A turn of the loop does what the word reader does, up to the bounds. -/
theorem huffmanBit_eq_ok_iff {output : Bytes} (hroom : output.length ≤ maxBytes)
    (w : PrefixCode.Word) (bit : Bool) {s : HuffmanState} :
    huffmanBit maxBytes ⟨output, w.code, w.len⟩ bit = .ok s ↔
      ∃ w' symbols, huffmanReader.push w bit = some (w', symbols) ∧ huffmanEosSymbol ∉ symbols ∧
        output.length + symbols.length ≤ maxBytes ∧ s = ⟨output ++ symbols.map UInt8.ofNat, w'.code, w'.len⟩ := by
  have hlookup : huffmanReader.lookup = huffmanSymbol := rfl
  have hmax : huffmanReader.maxLen = 30 := rfl
  rw [huffmanBit, PrefixCode.Reader.push, hlookup, hmax]
  cases huffmanSymbol (2 * w.code + bit.toNat) (w.len + 1) with
  | none => by_cases hlen : 30 ≤ w.len + 1 <;> simp [hlen, hroom, eq_comm]
  | some symbol =>
    by_cases heos : symbol = huffmanEosSymbol
    · simp [heos]
    · by_cases hfull : maxBytes ≤ output.length
      · simp [heos, hfull, Nat.not_le.mpr (Nat.lt_succ_of_le hfull)]
      · simp [heos, Ne.symm heos, hfull, Nat.succ_le_of_lt (Nat.not_le.mp hfull), eq_comm]

theorem foldlM_huffmanBit {bits : List Bool} (w : PrefixCode.Word) {output : Bytes}
    (hroom : output.length ≤ maxBytes) {s : HuffmanState} :
    bits.foldlM (huffmanBit maxBytes) ⟨output, w.code, w.len⟩ = .ok s ↔
      ∃ w' symbols, huffmanReader.read w bits = some (w', symbols) ∧ huffmanEosSymbol ∉ symbols ∧
        output.length + symbols.length ≤ maxBytes ∧ s = ⟨output ++ symbols.map UInt8.ofNat, w'.code, w'.len⟩ := by
  induction bits generalizing w output with
  | nil => simp [PrefixCode.Reader.read, hroom, pure, Except.pure, eq_comm]
  | cons bit bits ih =>
    have hbind : ∀ turn : Except Http2Extraction HuffmanState,
        (turn >>= fun s => bits.foldlM (huffmanBit maxBytes) s) = .ok s ↔
          ∃ next, turn = .ok next ∧ bits.foldlM (huffmanBit maxBytes) next = .ok s := by
      rintro (_ | next) <;> simp [bind, Except.bind]
    rw [foldlM_cons, hbind, PrefixCode.Reader.read]
    simp only [huffmanBit_eq_ok_iff hroom, Option.bind_eq_some_iff, Option.map_eq_some_iff]
    constructor
    · rintro ⟨_, ⟨w₁, out, hpush, hnot, hlen, rfl⟩, h⟩
      obtain ⟨w', symbols, hread, hnot', hlen', rfl⟩ := (ih w₁ (by simpa using hlen)).mp h
      refine ⟨w', out ++ symbols, ⟨_, hpush, _, hread, rfl⟩, by simp [hnot, hnot'], ?_, by simp⟩
      simpa [Nat.add_assoc] using hlen'
    · rintro ⟨_, _, ⟨⟨w₁, out⟩, hpush, ⟨w', symbols⟩, hread, heq⟩, hnot, hlen, rfl⟩
      cases heq
      dsimp only at hnot hlen
      rw [mem_append, not_or] at hnot
      rw [length_append] at hlen
      refine ⟨_, ⟨w₁, out, hpush, hnot.1, by omega, rfl⟩, (ih w₁ ?_).mpr ⟨w', symbols, hread, hnot.2, ?_, by simp⟩⟩
      all_goals
        rw [length_append, length_map]
        omega

theorem length_flatMap_byteBits (raw : Bytes) : (raw.flatMap byteBits).length = 8 * raw.length := by
  induction raw with
  | nil => rfl
  | cons b bs ih =>
    rw [flatMap_cons, length_append, ih, length_cons]
    simp only [byteBits, length_map, length_cons, length_nil]
    omega

theorem read_words (s : Bytes) (rest : List Bool) :
    huffmanReader.read {} ((s.flatMap fun byte => bitsMsb (huffmanWord byte).1 (huffmanWord byte).2) ++ rest) =
      (huffmanReader.read {} rest).map fun q => (q.1, s.map UInt8.toNat ++ q.2) :=
  huffmanReader.read_append (PrefixCode.Reader.read_flatMap fun byte _ => isWord_huffmanWord byte) rest

theorem eos_notMem (s : Bytes) : huffmanEosSymbol ∉ s.map UInt8.toNat := by
  intro h
  obtain ⟨byte, -, hbyte⟩ := mem_map.mp h
  have := byte.toNat_lt
  rw [hbyte] at this
  exact absurd this (by decide)

/-- **A Huffman string is accepted if and only if it is the coding of the string returned.** -/
theorem huffmanDecode_eq_ok_iff :
    huffmanDecode raw maxBytes = .ok s ↔ s.length ≤ maxBytes ∧ HuffmanCoded s raw := by
  have hfold : ∀ last, (raw.flatMap byteBits).foldlM (huffmanBit maxBytes) {} = .ok last ↔ _ :=
    fun last => foldlM_huffmanBit {} (Nat.zero_le _)
  rw [huffmanDecode]
  constructor
  · intro h
    cases hlast : (raw.flatMap byteBits).foldlM (huffmanBit maxBytes) {} with
    | error e =>
      rw [hlast] at h
      cases h
    | ok last =>
      rw [hlast] at h
      obtain ⟨w, symbols, hread, hnot, hlen, rfl⟩ := (hfold last).mp hlast
      dsimp only at h
      split at h
      · cases h
      next hpad =>
        rw [Bool.or_eq_true, not_or, decide_eq_true_eq, bne_iff_ne, not_not] at hpad
        cases h
        have hword : ∀ symbol ∈ symbols, ∀ code len, huffmanReader.lookup code len = some symbol →
            huffmanWord (UInt8.ofNat symbol) = (code, len) := fun symbol hmem code len hfound =>
          (huffmanWord_of_symbol hfound fun heq => hnot (heq ▸ hmem)).2
        refine ⟨by simpa using hlen, w.len, by omega, ?_⟩
        have hones : ∀ n < 8, bitsMsb (2 ^ n - 1) n = List.replicate n true := by decide
        have hbits := huffmanReader.words_of_read hread hword
        rw [hpad.2, hones w.len (by omega)] at hbits
        rw [nil_append, flatMap_map]
        exact hbits
  · rintro ⟨hmax, padding, hpad, hbits⟩
    have hread := read_words s (List.replicate padding true)
    rw [← hbits, read_ones (by omega), Option.map_some, append_nil] at hread
    have hout : (s.map UInt8.toNat).map UInt8.ofNat = s := by
      rw [map_map]
      exact map_id'' (fun byte => UInt8.ofNat_toNat) s
    rw [(hfold _).mpr ⟨_, _, hread, eos_notMem s, by simpa using hmax, rfl⟩, nil_append, hout]
    dsimp only
    rw [if_neg]
    simp only [bne_self_eq_false, Bool.or_false, decide_eq_true_eq]
    omega

theorem length_huffmanCoded (h : HuffmanCoded s raw) :
    8 * raw.length ≤ 30 * s.length + 7 := by
  obtain ⟨padding, hpad, hbits⟩ := h
  have hwords : ∀ s : Bytes, (s.flatMap fun byte =>
      bitsMsb (huffmanWord byte).1 (huffmanWord byte).2).length ≤ 30 * s.length := by
    intro s
    induction s with
    | nil => exact Nat.le_refl _
    | cons b bs ih =>
      have hle : (huffmanWord b).2 ≤ 30 := (isWord_huffmanWord b).le
      rw [flatMap_cons, length_append, PrefixCode.length_bitsMsb, length_cons]
      omega
  have hlen := congrArg List.length hbits
  rw [length_flatMap_byteBits, length_append, length_replicate] at hlen
  have := hwords s
  omega

/-! ## The coder of the tables -/

def symbolBits (symbol : Nat) : List Bool := bitsMsb (tableWord symbol).1 (tableWord symbol).2

def huffmanEncode (s : Bytes) : Bytes :=
  let bits := s.flatMap fun byte => symbolBits byte.toNat
  packBits (bits ++ List.replicate ((8 - bits.length % 8) % 8) true)

theorem symbolBits_toNat (byte : UInt8) :
    symbolBits byte.toNat = bitsMsb (huffmanWord byte).1 (huffmanWord byte).2 := by
  have hword := forall_byte (P := fun b => tableWord b.toNat = huffmanWord b) (huffman_tables).2.2.2.1 byte
  rw [symbolBits, hword]

theorem huffmanCoded_iff : HuffmanCoded s raw ↔ raw = huffmanEncode s := by
  unfold huffmanEncode HuffmanCoded
  simp only [symbolBits_toNat]
  generalize (s.flatMap fun byte => bitsMsb (huffmanWord byte).1 (huffmanWord byte).2) = bits
  constructor
  · rintro ⟨padding, hpad, hbits⟩
    have hlen := congrArg List.length hbits
    rw [length_flatMap_byteBits, length_append, length_replicate] at hlen
    rw [show (8 - bits.length % 8) % 8 = padding by omega, ← hbits, packBits_flatMap]
  · rintro rfl
    refine ⟨_, Nat.mod_lt _ (by decide), flatMap_packBits ?_⟩
    rw [length_append, length_replicate]
    omega

theorem huffmanDecode_ne_ok_eos {x t : Bytes} {rest : List Bool}
    (h : x.flatMap byteBits =
      (s.flatMap fun byte => bitsMsb (huffmanWord byte).1 (huffmanWord byte).2) ++ (List.replicate 30 true ++ rest)) :
    huffmanDecode x maxBytes ≠ .ok t := by
  intro hok
  obtain ⟨-, padding, hpad, hbits⟩ := huffmanDecode_eq_ok_iff.mp hok
  have heos : huffmanReader.read {} (List.replicate 30 true) = some ({}, [huffmanEosSymbol]) :=
    huffmanReader.read_append (read_ones (by decide : 29 < 30)) [true]
  have hread := read_words t (List.replicate padding true)
  rw [← hbits, h, read_words, huffmanReader.read_append heos, read_ones (by omega), Option.map_some,
    append_nil, Option.map_map] at hread
  obtain ⟨q, -, heq⟩ := Option.map_eq_some_iff.mp hread
  have hmem : huffmanEosSymbol ∈ t.map UInt8.toNat := by
    rw [← (Prod.mk.inj heq).2]
    simp
  exact eos_notMem t hmem

/-- **Huffman coding is a bijection onto what the decoder accepts**: strings within the bound come back from their
coding, what is accepted is the coding of what is returned, and neither the end-of-string word nor padding of a byte
or more is accepted. -/
theorem huffman_bijective (maxBytes : Nat) :
    (∀ s : Bytes, s.length ≤ maxBytes → huffmanDecode (huffmanEncode s) maxBytes = .ok s) ∧
    (∀ x s : Bytes, huffmanDecode x maxBytes = .ok s → x = huffmanEncode s) ∧
    (∀ (x s t : Bytes) (rest : List Bool),
      x.flatMap byteBits = s.flatMap (symbolBits ·.toNat) ++ (symbolBits huffmanEosSymbol ++ rest) →
      huffmanDecode x maxBytes ≠ .ok t) ∧
    (∀ (x s t : Bytes) (padding : Nat), 8 ≤ padding →
      x.flatMap byteBits = s.flatMap (symbolBits ·.toNat) ++ List.replicate padding true →
      huffmanDecode x maxBytes ≠ .ok t) := by
  have heos : symbolBits huffmanEosSymbol = List.replicate 30 true := by
    rw [symbolBits, (huffman_tables).2.2.2.2]
    decide
  simp only [symbolBits_toNat, heos]
  refine ⟨?_, ?_, ?_, ?_⟩
  · intro s hs
    exact huffmanDecode_eq_ok_iff.mpr ⟨hs, huffmanCoded_iff.mpr rfl⟩
  · intro x s h
    exact huffmanCoded_iff.mp (huffmanDecode_eq_ok_iff.mp h).2
  · intro x s t rest h
    exact huffmanDecode_ne_ok_eos h
  · intro x s t padding hpad h
    by_cases hlong : 30 ≤ padding
    · rw [← Nat.add_sub_of_le hlong, replicate_add] at h
      exact huffmanDecode_ne_ok_eos h
    · intro hok
      obtain ⟨-, padding', hpad', hbits⟩ := huffmanDecode_eq_ok_iff.mp hok
      have hread := read_words t (List.replicate padding' true)
      rw [← hbits, h, read_words, read_ones (by omega), read_ones (by omega)] at hread
      simp only [Option.map_some, Option.some.injEq, Prod.mk.injEq, PrefixCode.Word.mk.injEq] at hread
      omega

end ENavigator.Http2
