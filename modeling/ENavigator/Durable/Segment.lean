import ENavigator.Lib.Bytes

/-!
# Spool segments

One request per file: a header with magic, time, count and length, a checksum over header and body, and
the body. `readEntry` gives back what `segmentBytes` wrote (`readEntry_segmentBytes`), and a segment's
name gives back its number (`parseSegmentName_filename`).
-/

namespace ENavigator.Durable

open List

/-- The errors the spool returns; `failed` is any failure of a file-system call. -/
inductive IoError where
  | invalidData | storageFull | wouldBlock | notFound | failed
  deriving DecidableEq, Repr

def headerBytes : Nat := 36
def maxSegmentBytes : Nat := 4 * 1024 * 1024
def magic : Bytes := text "ENSP0001"

structure Entry where
  id : Nat
  count : Nat
  body : Bytes
  deriving DecidableEq, Repr

/-- The checksum of `flate2`; what it computes does not matter to a spool that reads what it wrote. -/
class Checksum where
  crc32 : Bytes → UInt32

/-! ## The format -/

def segmentHead (body : Bytes) (count now : Nat) : Bytes :=
  magic ++ (leBytes 8 now ++ (leBytes 8 count ++ leBytes 8 body.length))

section checksum

variable [Checksum]

open Checksum

def segmentBytes (body : Bytes) (count now : Nat) : Bytes :=
  segmentHead body count now
    ++ (leBytes 4 (crc32 (segmentHead body count now ++ body)).toNat ++ body)

/-- The little-endian number of eight bytes at `start`. -/
def number (bytes : Bytes) (start : Nat) : Nat := leNat ((bytes.drop start).take 8)

def readEntry (file : Bytes) (id : Nat) : Except IoError (Nat × Entry) :=
  let bytes := file.take (maxSegmentBytes + 1)
  if bytes.length < headerBytes || bytes.length > maxSegmentBytes || bytes.take 8 != magic then
    .error .invalidData
  else
    let created := number bytes 8
    let count := number bytes 16
    let size := number bytes 24
    let expected := leNat ((bytes.drop 32).take 4)
    if size != bytes.length - headerBytes || size == 0 || count == 0 || decide (count > 4096)
        || expected != (crc32 (bytes.take 32 ++ bytes.drop headerBytes)).toNat then
      .error .invalidData
    else .ok (created, ⟨id, count, bytes.drop headerBytes⟩)

omit [Checksum] in
theorem length_segmentHead (body : Bytes) (count now : Nat) : (segmentHead body count now).length = 32 := rfl

theorem length_segmentBytes (body : Bytes) (count now : Nat) :
    (segmentBytes body count now).length = headerBytes + body.length := by
  rw [segmentBytes, length_append, length_append, length_segmentHead, length_leBytes]
  rw [headerBytes]
  omega

/-- **A segment reads back as the request it was written for.** -/
theorem readEntry_segmentBytes {body : Bytes} {count : Nat} (now id : Nat) (hbody : body ≠ [])
    (hsize : headerBytes + body.length ≤ maxSegmentBytes) (hcount : 1 ≤ count ∧ count ≤ 4096) :
    readEntry (segmentBytes body count now) id = .ok (now % 256 ^ 8, ⟨id, count, body⟩) := by
  have hmagic : magic.length = 8 := rfl
  have hbytes := length_segmentBytes body count now
  have hpos : 0 < body.length := length_pos_iff.mpr hbody
  have hmax : maxSegmentBytes = 4194304 := rfl
  rw [headerBytes] at hsize hbytes
  have htake : (segmentBytes body count now).take (maxSegmentBytes + 1) = segmentBytes body count now :=
    take_of_length_le (by omega)
  have h8 : (segmentBytes body count now).take 8 = magic := by
    rw [segmentBytes, segmentHead, append_assoc, take_left' hmagic]
  have hcreated : number (segmentBytes body count now) 8 = now % 256 ^ 8 := by
    rw [number, segmentBytes, segmentHead, append_assoc, drop_left' hmagic, append_assoc,
      take_left' (length_leBytes 8 now), leNat_leBytes]
  have hcount' : number (segmentBytes body count now) 16 = count := by
    rw [number, segmentBytes, segmentHead, append_assoc, ← drop_drop (i := 8) (j := 8),
      drop_left' hmagic, append_assoc, drop_left' (length_leBytes 8 now), append_assoc,
      take_left' (length_leBytes 8 count), leNat_leBytes, Nat.mod_eq_of_lt (by omega)]
  have hlen : number (segmentBytes body count now) 24 = body.length := by
    rw [number, segmentBytes, segmentHead, append_assoc, ← drop_drop (i := 16) (j := 8),
      drop_left' hmagic, ← drop_drop (i := 8) (j := 8), append_assoc,
      drop_left' (length_leBytes 8 now), append_assoc, drop_left' (length_leBytes 8 count),
      take_left' (length_leBytes 8 body.length), leNat_leBytes, Nat.mod_eq_of_lt (by omega)]
  have hhead : (segmentBytes body count now).take 32 = segmentHead body count now := by
    rw [segmentBytes, take_left' (length_segmentHead body count now)]
  have hrest : (segmentBytes body count now).drop headerBytes = body := by
    rw [headerBytes, segmentBytes, ← drop_drop (i := 4) (j := 32),
      drop_left' (length_segmentHead body count now), drop_left' (length_leBytes 4 _)]
  have hcrc : leNat (((segmentBytes body count now).drop 32).take 4) =
      (crc32 (segmentHead body count now ++ body)).toNat := by
    rw [segmentBytes, drop_left' (length_segmentHead body count now),
      take_left' (length_leBytes 4 _), leNat_leBytes]
    exact Nat.mod_eq_of_lt (UInt32.toNat_lt _)
  rw [readEntry]
  simp only [htake, h8, hcreated, hcount', hlen, hhead, hrest, hcrc]
  rw [if_neg, if_neg]
  · simp only [bne_self_eq_false, Bool.or_false, Bool.or_eq_true, bne_iff_ne, beq_iff_eq,
      decide_eq_true_eq, hbytes, headerBytes]
    omega
  · simp only [bne_self_eq_false, Bool.or_false, Bool.or_eq_true, decide_eq_true_eq, hbytes, headerBytes]
    omega

end checksum

/-! ## Names -/

def hexChar (digit : Nat) : UInt8 := if digit < 10 then UInt8.ofNat (48 + digit) else UInt8.ofNat (87 + digit)

def hexFixed : Nat → Nat → Bytes
  | 0, _ => []
  | width + 1, n => hexChar (n / 16 ^ width % 16) :: hexFixed width n

def filename (id : Nat) : Bytes := hexFixed 16 id ++ text ".spool"

def hexValue (byte : UInt8) : Option Nat :=
  if isAsciiDigit byte then some (byte - 48).toNat
  else if 97 ≤ byte && byte ≤ 102 then some ((byte - 97).toNat + 10)
  else if 65 ≤ byte && byte ≤ 70 then some ((byte - 65).toNat + 10)
  else none

/-- `u64::from_str_radix(_, 16)`, which takes a plus sign. -/
def fromStrRadix16 (s : Bytes) : Option Nat :=
  let digits := if s.head? = some 43 then s.tail else s
  if digits.isEmpty then none
  else digits.foldlM (fun value byte =>
    (hexValue byte).bind fun digit => (checkedMul value 16).bind fun v => checkedAdd v digit) 0

def parseSegmentName (name : Bytes) : Option Nat :=
  if (text ".spool").isSuffixOf name then
    let stem := name.take (name.length - 6)
    if stem.length = 16 then fromStrRadix16 stem else none
  else none

theorem length_hexFixed (width n : Nat) : (hexFixed width n).length = width := by
  induction width with
  | zero => rfl
  | succ width ih => rw [hexFixed, length_cons, ih]

theorem hexChar_spec {digit : Nat} (h : digit < 16) : hexValue (hexChar digit) = some digit ∧
    hexChar digit ≠ 43 := by
  revert h
  revert digit
  decide

theorem foldlM_hexFixed (width n : Nat) {acc : Nat} (h : acc * 16 ^ width + n % 16 ^ width < usizeBound) :
    (hexFixed width n).foldlM (fun value byte =>
      (hexValue byte).bind fun digit => (checkedMul value 16).bind fun v => checkedAdd v digit) acc =
        some (acc * 16 ^ width + n % 16 ^ width) := by
  induction width generalizing acc with
  | zero => simp [hexFixed, Nat.mod_one]
  | succ width ih =>
    have hdigit : n / 16 ^ width % 16 < 16 := Nat.mod_lt _ (by decide)
    have hsplit : n % 16 ^ (width + 1) = n / 16 ^ width % 16 * 16 ^ width + n % 16 ^ width := by
      rw [Nat.pow_succ, Nat.mod_mul, Nat.mul_comm (16 ^ width), Nat.add_comm]
    have hsum : acc * 16 ^ (width + 1) + n % 16 ^ (width + 1) =
        (acc * 16 + n / 16 ^ width % 16) * 16 ^ width + n % 16 ^ width := by
      rw [hsplit, Nat.pow_succ', ← Nat.mul_assoc, Nat.add_mul, Nat.add_assoc]
    have hpow : 0 < 16 ^ width := Nat.pow_pos (by decide)
    rw [hsum] at h ⊢
    have hstep : acc * 16 + n / 16 ^ width % 16 < usizeBound := by
      have := Nat.le_mul_of_pos_right (acc * 16 + n / 16 ^ width % 16) hpow
      omega
    rw [hexFixed, foldlM_cons, (hexChar_spec hdigit).1, Option.bind_some, checkedMul,
      if_pos (by omega), Option.bind_some, checkedAdd, if_pos hstep]
    exact ih h

theorem parseSegmentName_filename {id : Nat} (h : id < usizeBound) :
    parseSegmentName (filename id) = some id := by
  have hstem : (filename id).take ((filename id).length - 6) = hexFixed 16 id := by
    exact take_left' (length_hexFixed 16 id)
  have hsuffix : (text ".spool").isSuffixOf (filename id) = true :=
    isSuffixOf_iff_suffix.mpr (suffix_append _ _)
  have hdigit : id / 16 ^ 15 % 16 < 16 := Nat.mod_lt _ (by decide)
  have hhead : (hexFixed 16 id).head? ≠ some 43 := by
    exact fun heq => (hexChar_spec hdigit).2 (Option.some.inj heq)
  have hne : (hexFixed 16 id).isEmpty = false := rfl
  have hmod : id % 16 ^ 16 = id := Nat.mod_eq_of_lt h
  rw [parseSegmentName, if_pos hsuffix, hstem, if_pos (length_hexFixed 16 id), fromStrRadix16,
    if_neg hhead, hne, if_neg Bool.false_ne_true,
    foldlM_hexFixed 16 id (by rw [Nat.zero_mul, Nat.zero_add, hmod]; exact h), Nat.zero_mul, Nat.zero_add, hmod]

end ENavigator.Durable
