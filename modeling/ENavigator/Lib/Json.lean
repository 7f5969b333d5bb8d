import ENavigator.Lib.Bytes

/-!
# JSON values

A JSON value with numbers of an arbitrary type, and a library that reads and writes such values (`Library`). `Within`
says that a value lies inside another, at any depth: what holds of every value within a value is proved along the
arrays and the objects around it (`forallWithin_array`, `forallWithin_object`).
-/

namespace ENavigator.Json

inductive Value (ν : Type) where
  | null
  | bool (b : Bool)
  | number (n : ν)
  | string (s : Bytes)
  | array (values : List (Value ν))
  /-- The fields in the order in which the object lists them. -/
  | object (fields : List (Bytes × Value ν))

variable {ν : Type}

def Value.get (value : Value ν) (key : Bytes) : Option (Value ν) :=
  match value with
  | .object fields => (fields.find? (·.1 == key)).map Prod.snd
  | _ => none

def Value.asStr : Value ν → Option Bytes
  | .string s => some s
  | _ => none

/-- Neither an object nor an array nor null. -/
def Value.isScalar : Value ν → Bool
  | .bool _ => true
  | .number _ => true
  | .string _ => true
  | _ => false

structure Library (ν : Type) where
  fromStr : Bytes → Option (Value ν)
  toString : Value ν → Bytes

/-! ## Values within values -/

inductive Within : Value ν → Value ν → Prop where
  | self (value : Value ν) : Within value value
  | array {inner value : Value ν} {values : List (Value ν)} (hmem : value ∈ values) (h : Within inner value) :
      Within inner (.array values)
  | object {inner value : Value ν} {key : Bytes} {fields : List (Bytes × Value ν)} (hmem : (key, value) ∈ fields)
      (h : Within inner value) : Within inner (.object fields)

def ForallWithin (P : Value ν → Prop) (value : Value ν) : Prop := ∀ inner, Within inner value → P inner

section forallWithin

variable {P : Value ν → Prop}

variable {value : Value ν} {fields : List (Bytes × Value ν)}

theorem ForallWithin.self (h : ForallWithin P value) : P value := h value (.self value)

theorem ForallWithin.of_mem_fields {key : Bytes} (h : ForallWithin P (.object fields)) (hmem : (key, value) ∈ fields) :
    ForallWithin P value :=
  fun inner hinner => h inner (.object hmem hinner)

theorem forallWithin_array {values : List (Value ν)} (hself : P (.array values))
    (h : ∀ value ∈ values, ForallWithin P value) : ForallWithin P (.array values) := by
  intro inner hinner
  cases hinner with
  | self => exact hself
  | array hmem hinner => exact h _ hmem inner hinner

theorem forallWithin_object (hself : P (.object fields)) (h : ∀ e ∈ fields, ForallWithin P e.2) :
    ForallWithin P (.object fields) := by
  intro inner hinner
  cases hinner with
  | self => exact hself
  | object hmem hinner => exact h _ hmem inner hinner

theorem mem_of_get {key : Bytes} (h : (Value.object fields).get key = some value) : (key, value) ∈ fields := by
  obtain ⟨e, he, rfl⟩ := Option.map_eq_some_iff.mp h
  have hkey : e.1 = key := by simpa using List.find?_some he
  exact hkey ▸ List.mem_of_find?_eq_some he

end forallWithin

end ENavigator.Json
