import Mathlib.Data.List.Infix

/-!
# Replacing a pattern

`replaceAll pat sub` replaces the occurrences of `pat`, found from left to right and without overlap, by `sub`. What
comes out is `sub` between pieces of what went in (`replaceFrom_eq_intercalate`), and no piece holds `pat`. A word that
has nothing in common with `sub` at its ends (`Apart`) is then in the result only if a piece holds it: replacing removes
`pat` (`not_infix_replaceAll_self`) and brings in no such word that was not there (`not_infix_replaceAll`).
-/

namespace ENavigator

open List

variable {α : Type} [DecidableEq α]

/-- `skip` elements of the last occurrence are still to be dropped. -/
def replaceFrom (pat sub : List α) : Nat → List α → List α
  | _, [] => []
  | skip + 1, _ :: rest => replaceFrom pat sub skip rest
  | 0, b :: rest =>
    if pat.isPrefixOf (b :: rest) then sub ++ replaceFrom pat sub (pat.length - 1) rest
    else b :: replaceFrom pat sub 0 rest

def replaceAll (pat sub : List α) (s : List α) : List α := replaceFrom pat sub 0 s

/-- The number of occurrences that are replaced. -/
def countFrom (pat : List α) : Nat → List α → Nat
  | _, [] => 0
  | skip + 1, _ :: rest => countFrom pat skip rest
  | 0, b :: rest => if pat.isPrefixOf (b :: rest) then countFrom pat (pat.length - 1) rest + 1 else countFrom pat 0 rest

def countMatches (pat s : List α) : Nat := countFrom pat 0 s

/-! ## Pieces -/

/-- What lies before the first occurrence, and the pieces after it. -/
def piecesFrom (pat : List α) : Nat → List α → List α × List (List α)
  | _, [] => ([], [])
  | skip + 1, _ :: rest => piecesFrom pat skip rest
  | 0, b :: rest =>
    if pat.isPrefixOf (b :: rest) then
      let later := piecesFrom pat (pat.length - 1) rest
      ([], later.1 :: later.2)
    else
      let later := piecesFrom pat 0 rest
      (b :: later.1, later.2)

theorem replaceFrom_eq_intercalate (pat sub : List α) (skip : Nat) (s : List α) :
    replaceFrom pat sub skip s = sub.intercalate ((piecesFrom pat skip s).1 :: (piecesFrom pat skip s).2) := by
  fun_induction replaceFrom pat sub skip s with
  | case1 skip => simp [piecesFrom, List.intercalate]
  | case2 skip b rest ih => rw [ih, piecesFrom]
  | case3 b rest hmatch ih =>
    rw [piecesFrom, if_pos hmatch, ih]
    simp [List.intercalate]
  | case4 b rest hmatch ih =>
    rw [piecesFrom, if_neg hmatch, ih]
    simp only [List.intercalate]
    cases (piecesFrom pat 0 rest).2 <;> simp [List.intersperse]

theorem head_start (pat s : List α) : (piecesFrom pat 0 s).1 <+: s := by
  induction s with
  | nil => exact prefix_rfl
  | cons b rest ih =>
    rw [piecesFrom]
    split
    · exact nil_prefix
    · exact cons_prefix_cons.mpr ⟨rfl, ih⟩

def ForallPieces (P : List α → Prop) (pieces : List α × List (List α)) : Prop :=
  P pieces.1 ∧ ∀ piece ∈ pieces.2, P piece

theorem pieces_inside (pat : List α) (skip : Nat) (s : List α) : ForallPieces (· <:+: s) (piecesFrom pat skip s) := by
  have hlater : ∀ {b : α} {rest : List α} {pieces}, ForallPieces (· <:+: rest) pieces →
      ForallPieces (· <:+: b :: rest) pieces := by
    intro b rest pieces h
    exact ⟨infix_cons h.1, fun piece hpiece => infix_cons (h.2 piece hpiece)⟩
  fun_induction piecesFrom pat skip s with
  | case1 skip => exact ⟨infix_rfl, nofun⟩
  | case2 skip b rest ih => exact hlater ih
  | case3 b rest _ later ih => exact ⟨List.nil_infix, forall_mem_cons.mpr (hlater ih)⟩
  | case4 b rest _ later ih =>
    exact ⟨(cons_prefix_cons.mpr ⟨rfl, head_start pat rest⟩).isInfix, (hlater ih).2⟩

/-- The scan leaves no occurrence of the pattern between those it finds. -/
theorem pieces_free {pat : List α} (hpat : pat ≠ []) (skip : Nat) (s : List α) :
    ForallPieces (fun piece => ¬ pat <:+: piece) (piecesFrom pat skip s) := by
  have hnil : ¬ pat <:+: [] := fun h => hpat (eq_nil_of_infix_nil h)
  fun_induction piecesFrom pat skip s with
  | case1 skip => exact ⟨hnil, nofun⟩
  | case2 skip b rest ih => exact ih
  | case3 b rest _ later ih => exact ⟨hnil, forall_mem_cons.mpr ih⟩
  | case4 b rest hmatch later ih =>
    refine ⟨fun hinside => ?_, ih.2⟩
    rcases infix_cons_iff.mp hinside with hstart | hinside
    · have hhere : pat <+: b :: rest := hstart.trans (cons_prefix_cons.mpr ⟨rfl, head_start pat rest⟩)
      exact hmatch (List.isPrefixOf_iff_prefix.mpr hhere)
    · exact ih.1 hinside

/-! ## Words that stay out -/

/-- Neither word is in the other, and no end of one is a beginning of the other. -/
structure Apart (a b : List α) : Prop where
  left : ¬ a <:+: b
  right : ¬ b <:+: a
  begins : ∀ p, p ≠ [] → p ≠ a → p <+: a → ¬ p <:+ b
  ends : ∀ p, p ≠ [] → p ≠ b → p <+: b → ¬ p <:+ a

instance (a b : List α) : Decidable (Apart a b) :=
  decidable_of_iff (¬ a <:+: b ∧ ¬ b <:+: a ∧ (∀ p ∈ a.inits, p ≠ [] → p ≠ a → ¬ p <:+ b) ∧
      ∀ p ∈ b.inits, p ≠ [] → p ≠ b → ¬ p <:+ a)
    ⟨fun ⟨hleft, hright, hbegins, hends⟩ => ⟨hleft, hright,
        fun p hne hproper hp => hbegins p (mem_inits _ _ |>.mpr hp) hne hproper,
        fun p hne hproper hp => hends p (mem_inits _ _ |>.mpr hp) hne hproper⟩,
      fun h => ⟨h.left, h.right, fun p hp hne hproper => h.begins p hne hproper (mem_inits _ _ |>.mp hp),
        fun p hp hne hproper => h.ends p hne hproper (mem_inits _ _ |>.mp hp)⟩⟩

section apart

variable {word sub a b : List α}

omit [DecidableEq α] in
/-- A word that is apart from `sub` and in neither `a` nor `b` is not across `a ++ sub ++ b`. -/
theorem Apart.not_infix_append (h : Apart word sub) (ha : ¬ word <:+: a) (hb : ¬ word <:+: b) :
    ¬ word <:+: a ++ sub ++ b := by
  rintro ⟨x, y, hxy⟩
  rw [append_assoc, append_assoc] at hxy
  rcases append_eq_append_iff.mp hxy with ⟨x', rfl, hrest⟩ | ⟨x', rfl, hrest⟩
  · -- The word begins in `a`.
    rcases append_eq_append_iff.mp hrest with ⟨w, rfl, -⟩ | ⟨w, rfl, hmid⟩
    · exact ha ⟨x, w, by simp⟩
    · rcases append_eq_append_iff.mp hmid with ⟨v, rfl, -⟩ | ⟨v, rfl, -⟩
      · exact h.right ⟨x', v, by simp⟩
      · -- It ends in `sub`, with `w`.
        rcases eq_or_ne w [] with rfl | hne
        · exact ha ⟨x, [], by simp⟩
        · rcases eq_or_ne v [] with rfl | hv
          · exact h.right ⟨x', [], by simp⟩
          · exact h.ends w hne (by simpa using hv) (prefix_append w v) (suffix_append x' w)
  · -- It begins in `sub` or in `b`.
    rcases append_eq_append_iff.mp hrest with ⟨w, rfl, rfl⟩ | ⟨v, rfl, hmid⟩
    · exact hb ⟨w, y, by simp⟩
    · rcases append_eq_append_iff.mp hmid with ⟨u, rfl, -⟩ | ⟨u, rfl, rfl⟩
      · exact h.left ⟨x', u, by simp⟩
      · -- It begins with `v`, at the end of `sub`.
        rcases eq_or_ne v [] with rfl | hne
        · exact hb ⟨[], y, by simp⟩
        · rcases eq_or_ne u [] with rfl | hu
          · exact h.left ⟨x', [], by simp⟩
          · exact h.begins v hne (by simpa using hu) (prefix_append v u) (suffix_append x' v)

omit [DecidableEq α] in
theorem Apart.not_infix_intercalate (h : Apart word sub) {head : List α} {tail : List (List α)}
    (hpieces : ForallPieces (fun piece => ¬ word <:+: piece) (head, tail)) :
    ¬ word <:+: sub.intercalate (head :: tail) := by
  induction tail generalizing head with
  | nil => simpa [List.intercalate] using hpieces.1
  | cons next tail ih =>
    obtain ⟨hnext, htail⟩ := forall_mem_cons.mp hpieces.2
    rw [intercalate_cons_cons]
    exact h.not_infix_append hpieces.1 (ih ⟨hnext, htail⟩)

theorem not_infix_replaceAll_self {pat : List α} (hpat : pat ≠ []) (h : Apart pat sub) (s : List α) :
    ¬ pat <:+: replaceAll pat sub s := by
  rw [replaceAll, replaceFrom_eq_intercalate]
  exact h.not_infix_intercalate (pieces_free hpat 0 s)

theorem not_infix_replaceAll (h : Apart word sub) (pat : List α) {s : List α} (hs : ¬ word <:+: s) :
    ¬ word <:+: replaceAll pat sub s := by
  rw [replaceAll, replaceFrom_eq_intercalate]
  obtain ⟨hhead, htail⟩ := pieces_inside pat 0 s
  exact h.not_infix_intercalate ⟨fun hin => hs (hin.trans hhead),
    fun piece hpiece hin => hs (hin.trans (htail piece hpiece))⟩

end apart

end ENavigator
