import ENavigator.Lib.Bytes

/-!
# Keys that name secrets

The deny list that every signal family shares. The scan over a key looks at the first letter of each fragment before it
compares; `isSensitiveAttributeKey_iff` says that this is the plain substring test for the fragments of the list.
-/

namespace ENavigator.Signals

open List

def sensitiveAttributeKeyParts : List Bytes :=
  [text "password", text "passwd", text "secret", text "token", text "authorization", text "cookie", text "api_key",
    text "api-key", text "apikey", text "credential", text "private_key", text "jwt"]

def matchesAsciiCaseInsensitiveAt (value : Bytes) (start : Nat) (needle : Bytes) : Bool :=
  start + needle.length ≤ value.length && eqIgnoreAsciiCase ((value.drop start).take needle.length) needle

/-- The fragments that are tried where a key has the byte `b`. -/
def partsFrom (b : UInt8) : List Bytes :=
  if b = 97 || b = 65 then [text "authorization", text "api_key", text "api-key", text "apikey"]
  else if b = 99 || b = 67 then [text "cookie", text "credential"]
  else if b = 106 || b = 74 then [text "jwt"]
  else if b = 112 || b = 80 then [text "password", text "passwd", text "private_key"]
  else if b = 115 || b = 83 then [text "secret"]
  else if b = 116 || b = 84 then [text "token"]
  else []

def isSensitiveAttributeKey (key : Bytes) : Bool :=
  key.zipIdx.any fun e => (partsFrom e.1).any fun part => matchesAsciiCaseInsensitiveAt key e.2 part

def containsAsciiCaseInsensitive (value needle : Bytes) : Bool :=
  (List.range (value.length + 1 - needle.length)).any fun start =>
    eqIgnoreAsciiCase ((value.drop start).take needle.length) needle

theorem containsAsciiCaseInsensitive_iff {value needle : Bytes} :
    containsAsciiCaseInsensitive value needle = true ↔
      ∃ start, matchesAsciiCaseInsensitiveAt value start needle = true := by
  simp only [containsAsciiCaseInsensitive, matchesAsciiCaseInsensitiveAt, any_eq_true, mem_range,
    Bool.and_eq_true, decide_eq_true_eq]
  refine exists_congr fun start => and_congr_left fun _ => ?_
  omega

/-- A fragment is tried exactly where the key has its first letter, in either case. -/
theorem mem_partsFrom_of_head {part : Bytes} (hpart : part ∈ sensitiveAttributeKeyParts) {b : UInt8}
    (h : toAsciiLowercase b = part.headD 0) : part ∈ partsFrom b := by
  revert h
  refine forall_byte (P := fun b => toAsciiLowercase b = part.headD 0 → part ∈ partsFrom b) ?_ b
  revert part
  decide +kernel

theorem partsFrom_subset (b : UInt8) : ∀ part ∈ partsFrom b, part ∈ sensitiveAttributeKeyParts := by
  refine forall_byte (P := fun b => ∀ part ∈ partsFrom b, part ∈ sensitiveAttributeKeyParts) ?_ b
  decide +kernel

theorem isSensitiveAttributeKey_iff {key : Bytes} :
    isSensitiveAttributeKey key = true ↔
      ∃ part ∈ sensitiveAttributeKeyParts, containsAsciiCaseInsensitive key part = true := by
  simp only [isSensitiveAttributeKey, any_eq_true]
  constructor
  · rintro ⟨e, -, part, hpart, hmatch⟩
    exact ⟨part, partsFrom_subset e.1 part hpart, containsAsciiCaseInsensitive_iff.mpr ⟨e.2, hmatch⟩⟩
  · rintro ⟨part, hpart, hcontains⟩
    obtain ⟨start, hmatch⟩ := containsAsciiCaseInsensitive_iff.mp hcontains
    have hne : part ≠ [] := by
      rintro rfl
      exact absurd hpart (by decide +kernel)
    obtain ⟨first, rest, rfl⟩ := exists_cons_of_ne_nil hne
    have hbounds := hmatch
    simp only [matchesAsciiCaseInsensitiveAt, Bool.and_eq_true, decide_eq_true_eq, eqIgnoreAsciiCase,
      beq_iff_eq] at hbounds
    obtain ⟨hlength, heq⟩ := hbounds
    have hstart : start < key.length := by
      rw [length_cons] at hlength
      omega
    -- the byte at the match is the fragment's first letter
    have hfirst : toAsciiLowercase key[start] = toAsciiLowercase first := by
      rw [drop_eq_getElem_cons hstart, length_cons, take_succ_cons, map_cons, map_cons] at heq
      exact (List.cons.inj heq).1
    have hlower : toAsciiLowercase first = first := by
      have hall : ∀ part ∈ sensitiveAttributeKeyParts, toAsciiLowercase (part.headD 0) = part.headD 0 := by
        decide +kernel
      exact hall _ hpart
    refine ⟨(key[start], start), ?_, first :: rest, mem_partsFrom_of_head hpart (hfirst.trans hlower), hmatch⟩
    rw [mk_mem_zipIdx_iff_getElem?]
    exact List.getElem?_eq_getElem hstart

end ENavigator.Signals
