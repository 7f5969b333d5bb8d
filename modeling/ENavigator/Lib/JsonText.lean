import Mathlib.Data.List.Lex
import ENavigator.Lib.Bytes
import ENavigator.Lib.SortedMap

/-!
# Flat JSON objects

Objects whose members are strings, whole numbers and truth values, and a serializer of a record's name, unit and two
such objects. Of its text only one thing is assumed: it determines what was serialized (`Serializer.injective`).
`spelled` is a serializer of that kind, which spells out every byte.
-/

namespace ENavigator

open List

namespace ByteOrder

/-- Bytes in the order of their values, which makes byte strings ordered as texts are compared. -/
scoped instance byteLinearOrder : LinearOrder UInt8 where
  le_refl := UInt8.le_refl
  le_trans _ _ _ := UInt8.le_trans
  le_antisymm _ _ := UInt8.le_antisymm
  le_total := UInt8.le_total
  lt_iff_le_not_ge a b := by
    rw [UInt8.lt_iff_toNat_lt, UInt8.le_iff_toNat_le, UInt8.le_iff_toNat_le]
    omega
  toDecidableLE := inferInstance
  toDecidableEq := inferInstance
  toDecidableLT := inferInstance

end ByteOrder

namespace Json

open scoped ByteOrder

inductive Leaf
  | string (value : Bytes)
  | number (value : Int)
  | bool (value : Bool)
  deriving DecidableEq, Repr

abbrev Object := SortedMap Bytes Leaf

/-- The serializer is not modelled. -/
class Serializer where
  toString : Bytes × Bytes × Object × Object → Bytes
  injective : Function.Injective toString

/-! ## A serializer that spells out every byte -/

/-- Each byte after a one, and a zero at the end. -/
def spell : Bytes → Bytes
  | [] => [0]
  | b :: bytes => 1 :: b :: spell bytes

theorem spell_cancel {a b x y : Bytes} (h : spell a ++ x = spell b ++ y) : a = b ∧ x = y := by
  induction a generalizing b with
  | nil =>
    cases b with
    | nil => exact ⟨rfl, (List.cons.inj h).2⟩
    | cons c b => exact absurd (List.cons.inj h).1 (by decide)
  | cons c a ih =>
    cases b with
    | nil => exact absurd (List.cons.inj h).1 (by decide)
    | cons d b =>
      obtain ⟨rfl, hrest⟩ := List.cons.inj (List.cons.inj h).2
      obtain ⟨rfl, hxy⟩ := ih hrest
      exact ⟨rfl, hxy⟩

/-- Numbers are counted out. -/
def Leaf.word : Leaf → Bytes
  | .string value => 0 :: value
  | .number (.ofNat n) => 1 :: replicate n 0
  | .number (.negSucc n) => 2 :: replicate n 0
  | .bool value => [3, if value then 1 else 0]

theorem Leaf.word_injective : Function.Injective Leaf.word := by
  intro a b h
  match a, b with
  | .string _, .string _ => rw [(List.cons.inj h).2]
  | .number (.ofNat n), .number (.ofNat m) =>
    have hlength := congrArg length (List.cons.inj h).2
    rw [length_replicate, length_replicate] at hlength
    rw [hlength]
  | .number (.negSucc n), .number (.negSucc m) =>
    have hlength := congrArg length (List.cons.inj h).2
    rw [length_replicate, length_replicate] at hlength
    rw [hlength]
  | .bool true, .bool true => rfl
  | .bool false, .bool false => rfl

/-- Each member after a one, and a zero at the end. -/
def spellMembers : List (Bytes × Leaf) → Bytes
  | [] => [0]
  | e :: members => 1 :: (spell e.1 ++ (spell e.2.word ++ spellMembers members))

theorem spellMembers_cancel {a b : List (Bytes × Leaf)} {x y : Bytes}
    (h : spellMembers a ++ x = spellMembers b ++ y) : a = b ∧ x = y := by
  induction a generalizing b with
  | nil =>
    cases b with
    | nil => exact ⟨rfl, (List.cons.inj h).2⟩
    | cons f b => exact absurd (List.cons.inj h).1 (by decide)
  | cons e a ih =>
    cases b with
    | nil => exact absurd (List.cons.inj h).1 (by decide)
    | cons f b =>
      rw [spellMembers, spellMembers, cons_append, cons_append, append_assoc, append_assoc, append_assoc,
        append_assoc] at h
      obtain ⟨hname, hrest⟩ := spell_cancel (List.cons.inj h).2
      obtain ⟨hvalue, hrest⟩ := spell_cancel hrest
      obtain ⟨rfl, hxy⟩ := ih hrest
      rw [Prod.ext hname (Leaf.word_injective hvalue)]
      exact ⟨rfl, hxy⟩

/-- The assumption on the serializer can be met. -/
@[reducible] def spelled : Serializer where
  toString := fun (name, unit, resource, attributes) =>
    spell name ++ (spell unit ++ (spellMembers resource.entries ++ spellMembers attributes.entries))
  injective := by
    rintro ⟨name, unit, ⟨resource, _⟩, ⟨attributes, _⟩⟩ ⟨name', unit', ⟨resource', _⟩, ⟨attributes', _⟩⟩ h
    obtain ⟨rfl, hunit⟩ := spell_cancel h
    obtain ⟨rfl, hresource⟩ := spell_cancel hunit
    obtain ⟨rfl, hattributes⟩ := spellMembers_cancel hresource
    obtain ⟨rfl, -⟩ := spellMembers_cancel (x := []) (y := []) (congrArg (· ++ []) hattributes)
    rfl

end Json

end ENavigator
