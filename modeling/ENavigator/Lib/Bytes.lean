import Mathlib.Algebra.Group.Int.Defs
import Mathlib.Algebra.Group.Nat.Defs
import Mathlib.Data.List.Basic

/-!
# Byte strings

The slice operations that every scanner of this development is written with: ASCII classes, window
search, checked machine arithmetic, big- and little-endian reads and UTF-8 validity, all on lists of
octets. Text is kept as its UTF-8 octets (`text`).

The second half is what the proofs about incremental scanners use: a search that succeeds on a
byte string succeeds at the same place on every extension of it (`findWindow_append`,
`findWindow_take_append`) and in the shortest part that holds the window (`findWindow_take`).
-/

namespace ENavigator

open List

abbrev Bytes := List UInt8

instance lawfulBEqBytes : LawfulBEq Bytes := inferInstance

variable (bytes : Bytes)

/-- The octets of an ASCII literal. -/
def text (s : String) : Bytes := s.toList.map fun c => UInt8.ofNat c.toNat

def decimal (n : Nat) : Bytes := text (toString n)

def cr : UInt8 := 13
def lf : UInt8 := 10
def crlf : Bytes := [cr, lf]

@[simp] theorem length_crlf : crlf.length = 2 := rfl

/-! ## ASCII classes -/

def isAsciiDigit (b : UInt8) : Bool := 48 ≤ b && b ≤ 57
def isAsciiUppercase (b : UInt8) : Bool := 65 ≤ b && b ≤ 90
def isAsciiLowercase (b : UInt8) : Bool := 97 ≤ b && b ≤ 122
def isAsciiAlphabetic (b : UInt8) : Bool := isAsciiUppercase b || isAsciiLowercase b
def isAsciiAlphanumeric (b : UInt8) : Bool := isAsciiAlphabetic b || isAsciiDigit b
/-- Space, tab, line feed, form feed and carriage return. -/
def isAsciiWhitespace (b : UInt8) : Bool := b == 32 || b == 9 || b == 10 || b == 12 || b == 13

def toAsciiLowercase (b : UInt8) : UInt8 := if isAsciiUppercase b then b + 32 else b
def toAsciiUppercase (b : UInt8) : UInt8 := if isAsciiLowercase b then b - 32 else b

def eqIgnoreAsciiCase (a b : Bytes) : Bool := a.map toAsciiLowercase == b.map toAsciiLowercase

def trimAscii : Bytes :=
  ((bytes.dropWhile isAsciiWhitespace).reverse.dropWhile isAsciiWhitespace).reverse

/-- The non-empty fields between runs of ASCII whitespace. -/
def asciiFields : List Bytes :=
  (bytes.splitOnP isAsciiWhitespace).filter fun field => !field.isEmpty

def stripSuffix (suffix bytes : Bytes) : Bytes :=
  if suffix.isSuffixOf bytes then bytes.take (bytes.length - suffix.length) else bytes

/-! ## Machine words -/

/-- One more than the largest `usize` and `u64`. -/
def usizeBound : Nat := 2 ^ 64

def checkedAdd (a b : Nat) : Option Nat := if a + b < usizeBound then some (a + b) else none
def checkedSub (a b : Nat) : Option Nat := if b ≤ a then some (a - b) else none
def checkedMul (a b : Nat) : Option Nat := if a * b < usizeBound then some (a * b) else none
def saturatingAdd (a b : Nat) : Nat := min (a + b) (usizeBound - 1)
def saturatingMul (a b : Nat) : Nat := min (a * b) (usizeBound - 1)

theorem checkedAdd_eq_some_iff {a b c : Nat} : checkedAdd a b = some c ↔ a + b < usizeBound ∧ a + b = c := by
  unfold checkedAdd
  split <;> simp [*]

theorem checkedSub_eq_some_iff {a b c : Nat} : checkedSub a b = some c ↔ a = b + c := by
  unfold checkedSub
  split <;> simp <;> omega

/-- The unsigned big-endian value of `bytes`. -/
def beNat : Nat := bytes.foldl (fun acc b => acc * 256 + b.toNat) 0

/-- The unsigned little-endian value of `bytes`. -/
def leNat : Nat := bytes.foldr (fun b acc => acc * 256 + b.toNat) 0

/-- The low `width` bytes of `n`, least significant first. -/
def leBytes : Nat → Nat → Bytes
  | 0, _ => []
  | width + 1, n => UInt8.ofNat n :: leBytes width (n / 256)

theorem length_leBytes (width n : Nat) : (leBytes width n).length = width := by
  induction width generalizing n with
  | zero => rfl
  | succ width ih => rw [leBytes, length_cons, ih]

theorem leNat_leBytes (width n : Nat) : leNat (leBytes width n) = n % 256 ^ width := by
  induction width generalizing n with
  | zero => rw [Nat.pow_zero, Nat.mod_one]; rfl
  | succ width ih =>
    have hsplit : n % 256 ^ (width + 1) = n % 256 + 256 * (n / 256 % 256 ^ width) := by
      rw [Nat.pow_succ', Nat.mod_mul]
    have hlow : (UInt8.ofNat n).toNat = n % 256 := UInt8.toNat_ofNat'
    show leNat (leBytes width (n / 256)) * 256 + (UInt8.ofNat n).toNat = _
    rw [ih, hsplit, hlow]
    omega

theorem leBytes_leNat : leBytes bytes.length (leNat bytes) = bytes := by
  induction bytes with
  | nil => rfl
  | cons b bytes ih =>
    have hb := UInt8.toNat_lt b
    have hvalue : leNat (b :: bytes) = leNat bytes * 256 + b.toNat := rfl
    have hdiv : (leNat bytes * 256 + b.toNat) / 256 = leNat bytes := by omega
    have hlow : UInt8.ofNat (leNat bytes * 256 + b.toNat) = b := by
      apply UInt8.toNat_inj.mp
      rw [UInt8.toNat_ofNat']
      omega
    rw [length_cons, leBytes, hvalue, hdiv, hlow, ih]

/-- The low `width` bytes of `n`, most significant first. -/
def beBytes (width n : Nat) : Bytes := (leBytes width n).reverse

theorem length_beBytes (width n : Nat) : (beBytes width n).length = width := by
  rw [beBytes, length_reverse, length_leBytes]

theorem beNat_beBytes (width n : Nat) : beNat (beBytes width n) = n % 256 ^ width := by
  rw [beNat, beBytes, foldl_reverse]
  exact leNat_leBytes width n

theorem beBytes_beNat : beBytes bytes.length (beNat bytes) = bytes := by
  have hreverse : beNat bytes = leNat bytes.reverse := by
    rw [beNat, leNat, foldr_reverse]
  rw [hreverse, beBytes, ← length_reverse, leBytes_leNat, reverse_reverse]

theorem leNat_lt : leNat bytes < 256 ^ bytes.length := by
  induction bytes with
  | nil => exact Nat.one_pos
  | cons b bytes ih =>
    have hb := UInt8.toNat_lt b
    have hvalue : leNat (b :: bytes) = leNat bytes * 256 + b.toNat := rfl
    rw [length_cons, Nat.pow_succ, hvalue]
    omega

theorem beNat_lt : beNat bytes < 256 ^ bytes.length := by
  have hbound := leNat_lt bytes.reverse
  rwa [leNat, foldr_reverse, length_reverse] at hbound

/-- The two's complement reading of a `width`-bit word. -/
def signed (width n : Nat) : Int := if n < 2 ^ (width - 1) then n else n - 2 ^ width

/-- `bytes[start..stop]`, when it is in bounds. -/
def getRange (start stop : Nat) : Option Bytes :=
  if start ≤ stop ∧ stop ≤ bytes.length then some ((bytes.drop start).take (stop - start)) else none

/-! ## Search -/

/-- The position of the first window of `bytes` that equals `pat`. -/
def findWindow (pat : Bytes) : Bytes → Option Nat
  | [] => none
  | b :: bs => if pat.isPrefixOf (b :: bs) then some 0 else (findWindow pat bs).map (· + 1)

def findCrlf : Option Nat := findWindow crlf bytes
def findDoubleCrlf : Option Nat := findWindow (crlf ++ crlf) bytes

def findByte (b : UInt8) : Option Nat := bytes.findIdx? (· == b)

/-! ## UTF-8 -/

def isContinuation (b : UInt8) : Bool := 0x80 ≤ b && b ≤ 0xBF

/-- Well-formed UTF-8: no overlong form, no surrogate, nothing above U+10FFFF. -/
def validUtf8 : Bytes → Bool
  | [] => true
  | b0 :: rest =>
    if b0 ≤ 0x7F then validUtf8 rest
    else match rest with
    | b1 :: rest =>
      if 0xC2 ≤ b0 && b0 ≤ 0xDF then isContinuation b1 && validUtf8 rest
      else match rest with
      | b2 :: rest =>
        if 0xE0 ≤ b0 && b0 ≤ 0xEF then
          (if b0 = 0xE0 then 0xA0 else 0x80) ≤ b1 && b1 ≤ (if b0 = 0xED then 0x9F else 0xBF)
            && isContinuation b2 && validUtf8 rest
        else match rest with
        | b3 :: rest =>
          0xF0 ≤ b0 && b0 ≤ 0xF4
            && (if b0 = 0xF0 then 0x90 else 0x80) ≤ b1 && b1 ≤ (if b0 = 0xF4 then 0x8F else 0xBF)
            && isContinuation b2 && isContinuation b3 && validUtf8 rest
        | [] => false
      | [] => false
    | [] => false

/-- The last place at or before `i` where a character starts. -/
def charStart (bytes : Bytes) : Nat → Nat
  | 0 => 0
  | i + 1 => if isContinuation (bytes.getD (i + 1) 0) then charStart bytes i else i + 1

def floorCharBoundary (index : Nat) : Nat :=
  if bytes.length ≤ index then bytes.length else charStart bytes index

/-- The characters that fit into `maxBytes` bytes. -/
def truncateUtf8 (maxBytes : Nat) : Bytes := bytes.take (floorCharBoundary bytes maxBytes)

theorem charStart_le (i : Nat) : charStart bytes i ≤ i := by
  induction i with
  | zero => exact Nat.le_refl 0
  | succ i ih =>
    rw [charStart]
    split
    · exact Nat.le_succ_of_le ih
    · exact Nat.le_refl _

theorem length_truncateUtf8_le (maxBytes : Nat) : (truncateUtf8 bytes maxBytes).length ≤ maxBytes := by
  rw [truncateUtf8, length_take, floorCharBoundary]
  split
  · omega
  · have := charStart_le bytes maxBytes
    omega

variable {bytes pat : Bytes} {i : Nat}

theorem truncateUtf8_of_length_le {maxBytes : Nat} (h : bytes.length ≤ maxBytes) :
    truncateUtf8 bytes maxBytes = bytes := by
  rw [truncateUtf8, floorCharBoundary, if_pos h, take_length]

/-- A property of bytes holds when it holds of the 256 values, which the kernel can try one by one. -/
theorem forall_byte {P : UInt8 → Prop} (h : ∀ n < 256, P (UInt8.ofNat n)) (b : UInt8) : P b := by
  have hb := h b.toNat (UInt8.toNat_lt b)
  rwa [UInt8.ofNat_toNat] at hb

/-! ## Prefixes and extensions -/

theorem findWindow_eq_some_iff : findWindow pat bytes = some i ↔
    i < bytes.length ∧ pat <+: bytes.drop i ∧ ∀ j < i, ¬ pat <+: bytes.drop j := by
  induction bytes generalizing i with
  | nil => simp [findWindow]
  | cons b bs ih =>
    simp only [findWindow, List.isPrefixOf_iff_prefix]
    by_cases hp : pat <+: b :: bs
    · rw [if_pos hp, Option.some.injEq]
      constructor
      · rintro rfl
        exact ⟨Nat.succ_pos _, hp, fun j hj => absurd hj (Nat.not_lt_zero j)⟩
      · rintro ⟨-, -, hfirst⟩
        by_contra hne
        exact hfirst 0 (Nat.pos_of_ne_zero (Ne.symm hne)) hp
    · rw [if_neg hp, Option.map_eq_some_iff]
      cases i with
      | zero => simp [hp]
      | succ i =>
        simp only [ih, Nat.add_right_cancel_iff, exists_eq_right, length_cons, Nat.add_lt_add_iff_right, drop_succ_cons,
          Nat.forall_lt_succ_left, drop_zero, hp, not_false_eq_true, true_and]

theorem findWindow_add_length_le (h : findWindow pat bytes = some i) : i + pat.length ≤ bytes.length := by
  obtain ⟨hi, hp, -⟩ := (findWindow_eq_some_iff).mp h
  have := hp.length_le
  rw [length_drop] at this
  omega

/-- **The first window found in a byte string is the first one of every extension.** -/
theorem findWindow_append (x : Bytes) (h : findWindow pat bytes = some i) : findWindow pat (bytes ++ x) = some i := by
  obtain ⟨hi, hp, hfirst⟩ := (findWindow_eq_some_iff).mp h
  have hlen := findWindow_add_length_le h
  refine (findWindow_eq_some_iff).mpr ⟨by rw [length_append]; omega, ?_, fun j hj hp' => hfirst j hj ?_⟩
  · rw [drop_append_of_le_length (Nat.le_of_lt hi)]
    exact hp.trans (prefix_append _ _)
  · rw [drop_append_of_le_length (by omega)] at hp'
    exact prefix_of_prefix_length_le hp' (prefix_append _ _) (by rw [length_drop]; omega)

theorem findWindow_take_append {m : Nat} (x : Bytes) (h : findWindow pat (bytes.take m) = some i) :
    findWindow pat ((bytes ++ x).take m) = some i := by
  rw [take_append]
  exact findWindow_append _ h

theorem findWindow_take (hpat : pat ≠ []) (h : findWindow pat bytes = some i) :
    findWindow pat (bytes.take (i + pat.length)) = some i := by
  obtain ⟨-, hp, hfirst⟩ := (findWindow_eq_some_iff).mp h
  have hlen := findWindow_add_length_le h
  have hpos := length_pos_iff.mpr hpat
  refine (findWindow_eq_some_iff).mpr ⟨by rw [length_take]; omega, ?_, fun j hj hp' => hfirst j hj ?_⟩
  · rw [drop_take, Nat.add_sub_cancel_left]
    exact prefix_take_iff.mpr ⟨hp, Nat.le_refl _⟩
  · rw [drop_take] at hp'
    exact hp'.trans (List.take_prefix _ _)

theorem findCrlf_append (x : Bytes) (h : findCrlf bytes = some i) :
    findCrlf (bytes ++ x) = some i := findWindow_append x h

theorem findCrlf_add_two_le (h : findCrlf bytes = some i) : i + 2 ≤ bytes.length := findWindow_add_length_le h

theorem findCrlf_late {x : Bytes} (hnone : findCrlf bytes = none) (h : findCrlf (bytes ++ x) = some i) :
    bytes.length < i + 2 := by
  by_contra hle
  have htake : findCrlf ((bytes ++ x).take (i + 2)) = some i := findWindow_take (by decide) h
  rw [take_append_of_le_length (Nat.not_lt.mp hle)] at htake
  have hfound := findCrlf_append (bytes.drop (i + 2)) htake
  rw [take_append_drop, hnone] at hfound
  cases hfound

theorem findCrlf_line {line : Bytes} (h : cr ∉ line) (rest : Bytes) :
    findCrlf (line ++ (crlf ++ rest)) = some line.length := by
  refine (findWindow_eq_some_iff).mpr ⟨by rw [length_append, length_append, length_crlf]; omega, ?_, ?_⟩
  · rw [drop_left]
    exact prefix_append _ _
  · intro j hj hp
    obtain ⟨x, hx⟩ := hp
    rw [drop_append_of_le_length (Nat.le_of_lt hj), drop_eq_getElem_cons hj] at hx
    exact h ((List.cons.inj hx).1 ▸ getElem_mem hj)

theorem findCrlf_cut (h : findCrlf bytes = some i) : bytes = bytes.take i ++ (crlf ++ bytes.drop (i + 2)) := by
  obtain ⟨-, ⟨rest, hrest⟩, -⟩ := (findWindow_eq_some_iff).mp h
  rw [← drop_drop, ← hrest, drop_left' length_crlf, hrest, take_append_drop]

/-- Two ways to cut one list: the shorter first part is a prefix of the longer one. -/
theorem append_split {α : Type} {a b x y : List α} (h : a ++ x = b ++ y) (hle : b.length ≤ a.length) :
    a.take b.length = b ∧ a.drop b.length ++ x = y := by
  constructor
  · have := congrArg (List.take b.length) h
    rwa [take_append_of_le_length hle, take_left] at this
  · have := congrArg (List.drop b.length) h
    rwa [drop_append_of_le_length hle, drop_left] at this

theorem getElem?_append_some {α : Type} {b : List α} {v : α} (x : List α) (h : b[i]? = some v) :
    (b ++ x)[i]? = some v := by
  have hi : i < b.length := (List.getElem?_eq_some_iff.mp h).1
  rw [List.getElem?_append_left hi, h]

/-! ## Reads that can fail -/

theorem bind_eq_ok {ε α β : Type} {x : Except ε α} {f : α → Except ε β} {b : β} (h : x >>= f = .ok b) :
    ∃ a, x = .ok a ∧ f a = .ok b := by
  rcases x with e | a
  · cases h
  · exact ⟨a, rfl, h⟩

end ENavigator
