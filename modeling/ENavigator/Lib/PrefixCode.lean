import Mathlib.Data.Nat.Bitwise

/-!
# Reading a prefix code bit by bit

Code words are numbers with a length, sent most significant bit first. A serial reader shifts bits into
the word read so far and looks it up after each bit; a word that has reached the longest length without
being found is an error. When no proper prefix of a word is found (`IsWord`), the words of a text read
back as the text (`Reader.read_flatMap`); what reads as a text is its words (`Reader.words_of_read`).
-/

namespace ENavigator.PrefixCode

open List

/-- The `len` low bits of `code`, most significant first. -/
def bitsMsb (code : Nat) : Nat → List Bool
  | 0 => []
  | len + 1 => code.testBit len :: bitsMsb code len

theorem length_bitsMsb (code len : Nat) : (bitsMsb code len).length = len := by
  induction len with
  | zero => rfl
  | succ len ih => rw [bitsMsb, length_cons, ih]

theorem bitsMsb_push (code len : Nat) (bit : Bool) :
    bitsMsb (2 * code + bit.toNat) (len + 1) = bitsMsb code len ++ [bit] := by
  induction len with
  | zero => cases bit <;> simp [bitsMsb]
  | succ len ih =>
    have hhalf : (2 * code + bit.toNat) / 2 = code := by
      have := bit.toNat_le
      omega
    rw [bitsMsb, ih, Nat.testBit_add_one, hhalf]
    rfl

theorem shiftRight_push (code len : Nat) :
    2 * (code >>> (len + 1)) + (code.testBit len).toNat = code >>> len := by
  have hbit : (code.testBit len).toNat = (code >>> len) % 2 := by
    rw [Nat.toNat_testBit, Nat.shiftRight_eq_div_pow]
  rw [hbit, Nat.shiftRight_succ]
  omega

/-- The bits read since the last word. -/
structure Word where
  code : Nat := 0
  len : Nat := 0
  deriving DecidableEq, Repr

structure Reader (α : Type) where
  lookup : Nat → Nat → Option α
  maxLen : Nat

variable {α β : Type} (r : Reader α)

namespace Reader

def push (w : Word) (bit : Bool) : Option (Word × List α) :=
  match r.lookup (2 * w.code + bit.toNat) (w.len + 1) with
  | some a => some ({}, [a])
  | none => if r.maxLen ≤ w.len + 1 then none else some (⟨2 * w.code + bit.toNat, w.len + 1⟩, [])

/-- The unfinished word behind `bits` and the symbols read on the way. -/
def read : Word → List Bool → Option (Word × List α)
  | w, [] => some (w, [])
  | w, bit :: bits =>
    (r.push w bit).bind fun p => (read p.1 bits).map fun q => (q.1, p.2 ++ q.2)

theorem read_append {w w' : Word} {xs : List Bool} {as : List α} (hx : r.read w xs = some (w', as))
    (ys : List Bool) : r.read w (xs ++ ys) = (r.read w' ys).map fun q => (q.1, as ++ q.2) := by
  induction xs generalizing w as with
  | nil =>
    obtain ⟨rfl, rfl⟩ : w = w' ∧ [] = as := by simpa [read] using hx
    exact Option.map_id'.symm
  | cons x xs ih =>
    obtain ⟨p, hp, hrest⟩ := Option.bind_eq_some_iff.mp hx
    obtain ⟨q, hq, heq⟩ := Option.map_eq_some_iff.mp hrest
    obtain ⟨rfl, rfl⟩ := Prod.mk.inj heq
    rw [cons_append, read, hp, Option.bind_some, ih hq, Option.map_map]
    exact congrArg (Option.map · _) (funext fun u => congrArg _ (append_assoc _ _ _).symm)

/-- **What was read is what was sent**: the words of the symbols, and the bits of the unfinished word. -/
theorem words_of_read {word : α → Nat × Nat} {w w' : Word} {bits : List Bool} {as : List α}
    (h : r.read w bits = some (w', as))
    (hword : ∀ a ∈ as, ∀ code len, r.lookup code len = some a → word a = (code, len)) :
    bitsMsb w.code w.len ++ bits =
      (as.flatMap fun a => bitsMsb (word a).1 (word a).2) ++ bitsMsb w'.code w'.len := by
  induction bits generalizing w as with
  | nil =>
    obtain ⟨rfl, rfl⟩ : w = w' ∧ [] = as := by simpa [read] using h
    rw [append_nil]
    rfl
  | cons bit bits ih =>
    obtain ⟨⟨v, out⟩, hpush, hrest⟩ := Option.bind_eq_some_iff.mp h
    obtain ⟨⟨_, later⟩, hread, heq⟩ := Option.map_eq_some_iff.mp hrest
    obtain ⟨rfl, rfl⟩ := Prod.mk.inj heq
    have ih := ih hread fun a ha => hword a (mem_append_right _ ha)
    rw [append_cons, ← bitsMsb_push]
    rw [push] at hpush
    cases hlook : r.lookup (2 * w.code + bit.toNat) (w.len + 1) with
    | some a =>
      rw [hlook] at hpush
      obtain ⟨rfl, rfl⟩ := Prod.mk.inj (Option.some.inj hpush)
      have hsent := hword a mem_cons_self _ _ hlook
      rw [singleton_append, flatMap_cons, hsent, append_assoc, ← ih]
      rfl
    | none =>
      rw [hlook] at hpush
      dsimp only at hpush
      split at hpush
      · cases hpush
      · obtain ⟨rfl, rfl⟩ := Prod.mk.inj (Option.some.inj hpush)
        exact ih

end Reader

/-- `code` is the word of `len` bits for `a`, and no shorter start of it is a word. -/
structure IsWord (code len : Nat) (a : α) : Prop where
  pos : 0 < len
  le : len ≤ r.maxLen
  lt : code < 2 ^ len
  found : r.lookup code len = some a
  proper : ∀ k < len, r.lookup (code >>> (len - k)) k = none

instance [DecidableEq α] (code len : Nat) (a : α) : Decidable (IsWord r code len a) :=
  decidable_of_iff (0 < len ∧ len ≤ r.maxLen ∧ code < 2 ^ len ∧ r.lookup code len = some a ∧
      ∀ k < len, r.lookup (code >>> (len - k)) k = none)
    ⟨fun ⟨h₁, h₂, h₃, h₄, h₅⟩ => ⟨h₁, h₂, h₃, h₄, h₅⟩, fun h => ⟨h.pos, h.le, h.lt, h.found, h.proper⟩⟩

variable {r}

theorem IsWord.read {code len : Nat} {a : α} (h : IsWord r code len a) :
    r.read {} (bitsMsb code len) = some ({}, [a]) := by
  -- with `rest` bits still to come, the word read so far is `code` without them
  have key : ∀ rest < len, r.read ⟨code >>> (rest + 1), len - (rest + 1)⟩ (bitsMsb code (rest + 1)) =
      some ({}, [a]) := by
    intro rest hrest
    induction rest with
    | zero =>
      have hlast : len - (0 + 1) + 1 = len := by omega
      have hpush : r.push ⟨code >>> (0 + 1), len - (0 + 1)⟩ (code.testBit 0) = some ({}, [a]) := by
        rw [Reader.push, shiftRight_push, hlast, Nat.shiftRight_zero, h.found]
      rw [bitsMsb, Reader.read, hpush]
      rfl
    | succ rest ih =>
      have hnext : len - (rest + 1 + 1) + 1 = len - (rest + 1) := by omega
      have hproper := h.proper (len - (rest + 1)) (by omega)
      rw [show len - (len - (rest + 1)) = rest + 1 by omega] at hproper
      have hle := h.le
      have hpush : r.push ⟨code >>> (rest + 1 + 1), len - (rest + 1 + 1)⟩ (code.testBit (rest + 1)) =
          some (⟨code >>> (rest + 1), len - (rest + 1)⟩, []) := by
        rw [Reader.push, shiftRight_push, hnext, hproper]
        exact if_neg (by omega)
      rw [bitsMsb, Reader.read, hpush, Option.bind_some, ih (by omega)]
      rfl
  obtain ⟨rest, rfl⟩ := Nat.exists_eq_succ_of_ne_zero (Nat.ne_of_gt h.pos)
  have hzero : code >>> (rest + 1) = 0 := by
    rw [Nat.shiftRight_eq_div_pow, Nat.div_eq_of_lt h.lt]
  have := key rest (by omega)
  rwa [hzero, Nat.sub_self] at this

/-- **The words of a text read back as the text.** -/
theorem Reader.read_flatMap {word : β → Nat × Nat} {symbol : β → α} {xs : List β}
    (h : ∀ x ∈ xs, IsWord r (word x).1 (word x).2 (symbol x)) :
    r.read {} (xs.flatMap fun x => bitsMsb (word x).1 (word x).2) = some ({}, xs.map symbol) := by
  induction xs with
  | nil => rfl
  | cons x xs ih =>
    rw [flatMap_cons, map_cons, ← singleton_append]
    rw [r.read_append (h x mem_cons_self).read, ih fun y hy => h y (mem_cons_of_mem _ hy)]
    rfl

end ENavigator.PrefixCode
