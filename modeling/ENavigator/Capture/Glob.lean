import ENavigator.Lib.Bytes

/-!
# Glob patterns

`globMatch` walks over the pattern and the value at once and goes back to the last `*` where they differ. A `*` that
stands before a `*` of the value is taken for that byte and not for a run. So a pattern means what it says if the
pattern or the value has no `*` (`globMatch_iff`), and a value with a `*` is misjudged by some pattern
(`globMatch_iff_star_notMem`).
-/

namespace ENavigator.Capture

open List

def star : UInt8 := 42
def question : UInt8 := 63

/-- The loop on what is left of the pattern and the value: `starPattern` is the pattern behind the last `*`, and `taken`
the bytes of the value from `star_vi` on that were passed since. -/
def globLoop (starPattern : Option Bytes) (taken pattern value : Bytes) : Bool :=
  match value with
  | [] => pattern.all (· == star)
  | b :: rest =>
    if pattern.head? = some question ∨ pattern.head? = some b then
      globLoop starPattern (taken ++ [b]) pattern.tail rest
    else if pattern.head? = some star then globLoop (some pattern.tail) [] pattern.tail (b :: rest)
    else
      match starPattern with
      | some behind => globLoop (some behind) [] behind (taken ++ b :: rest).tail
      | none => false
termination_by (taken.length + value.length, value.length, pattern.length)
decreasing_by
  · simp only [Prod.lex_def, length_append, length_cons, length_nil]
    omega
  · next _ hstar =>
    have hpos : 0 < pattern.length := length_pos_iff.mpr fun hnil => by simp [hnil] at hstar
    simp only [Prod.lex_def, length_cons, length_nil, length_tail, true_and]
    omega
  · simp only [Prod.lex_def, length_append, length_cons, length_nil, length_tail]
    omega

def globMatch (pattern value : Bytes) : Bool := globLoop none [] pattern value

/-- The value is the pattern with a byte string for each `*` and a byte for each `?`. -/
def Matches : Bytes → Bytes → Prop
  | [], value => value = []
  | c :: pattern, value =>
    if c = star then ∃ run rest, value = run ++ rest ∧ Matches pattern rest
    else ∃ b rest, value = b :: rest ∧ (c = question ∨ c = b) ∧ Matches pattern rest

variable {b c : UInt8} {pattern value taken : Bytes} {starPattern : Option Bytes}

theorem matches_star : Matches (star :: pattern) value ↔ ∃ rest, rest <:+ value ∧ Matches pattern rest := by
  rw [Matches, if_pos rfl]
  constructor
  · rintro ⟨run, rest, rfl, h⟩
    exact ⟨rest, suffix_append run rest, h⟩
  · rintro ⟨rest, ⟨run, rfl⟩, h⟩
    exact ⟨run, rest, rfl, h⟩

theorem Matches.behind_star (h : Matches pattern value) : Matches (star :: pattern) value :=
  (matches_star).mpr ⟨value, suffix_rfl, h⟩

theorem matches_star_of_suffix {rest : Bytes} (hrest : rest <:+ value) (h : Matches (star :: pattern) rest) :
    Matches (star :: pattern) value := by
  obtain ⟨rest', hrest', h⟩ := (matches_star).mp h
  exact (matches_star).mpr ⟨rest', hrest'.trans hrest, h⟩

theorem matches_star_iff :
    Matches (star :: pattern) value ↔ Matches pattern value ∨ Matches (star :: pattern) value.tail := by
  constructor
  · intro h
    obtain ⟨rest, hrest, hmatch⟩ := (matches_star).mp h
    cases value with
    | nil => exact .inl (suffix_nil.mp hrest ▸ hmatch)
    | cons b value =>
      rcases suffix_cons_iff.mp hrest with rfl | hrest
      · exact .inl hmatch
      · exact .inr ((matches_star).mpr ⟨rest, hrest, hmatch⟩)
  · rintro (h | h)
    · exact h.behind_star
    · exact matches_star_of_suffix (tail_suffix value) h

theorem matches_cons (hc : c ≠ star) :
    Matches (c :: pattern) (b :: value) ↔ (c = question ∨ c = b) ∧ Matches pattern value := by
  simp [Matches, hc]

theorem matches_nil : Matches pattern [] ↔ pattern.all (· == star) = true := by
  induction pattern with
  | nil => simp [Matches]
  | cons c pattern ih =>
    by_cases hc : c = star
    · subst hc
      simp [matches_star, ih]
    · simp [Matches, hc]

theorem matches_star_tail (hc : c ≠ star) (h : Matches (star :: c :: pattern) (b :: value)) :
    Matches (star :: pattern) value := by
  obtain ⟨rest, hrest, h⟩ := (matches_star).mp h
  rw [Matches, if_neg hc] at h
  obtain ⟨b', rest, rfl, -, h⟩ := h
  refine matches_star_of_suffix ?_ h.behind_star
  rcases suffix_cons_iff.mp hrest with heq | hrest
  · exact (cons.inj heq).2 ▸ suffix_rfl
  · exact (suffix_cons b' rest).trans hrest

/-- A match that lets the last `*` take more is also one from where the walk is, with a `*` before it. -/
def Ahead (starPattern : Option Bytes) (taken pattern value : Bytes) : Prop :=
  ∀ behind ∈ starPattern, Matches (star :: behind) (taken ++ value) → Matches (star :: pattern) value

theorem Ahead.matches_star (h : Ahead starPattern taken pattern value)
    (hmore : ∃ behind ∈ starPattern, Matches (star :: behind) (taken ++ value).tail) :
    Matches (star :: pattern) value := by
  obtain ⟨behind, hbehind, hmore⟩ := hmore
  exact h behind hbehind (matches_star_of_suffix (tail_suffix _) hmore)

theorem ahead_some : Ahead (some pattern) [] pattern value := by
  rintro _ ⟨⟩ h
  exact h

theorem not_matches (hhead : ¬ (pattern.head? = some question ∨ pattern.head? = some b))
    (hstar : pattern.head? ≠ some star) : ¬ Matches pattern (b :: value) := by
  cases pattern with
  | nil => exact cons_ne_nil b value
  | cons c pattern =>
    simp only [head?_cons, Option.some.injEq] at hhead hstar
    exact fun h => hhead ((matches_cons (fun hc => hstar (hc ▸ rfl))).mp h).1

theorem globLoop_iff (hstars : star ∉ taken ++ value ∨ starPattern = none ∧ star ∉ pattern)
    (hahead : Ahead starPattern taken pattern value) :
    globLoop starPattern taken pattern value = true ↔
      Matches pattern value ∨ ∃ behind ∈ starPattern, Matches (star :: behind) (taken ++ value).tail := by
  fun_induction globLoop starPattern taken pattern value with
  | case1 starPattern taken pattern =>
    rw [← matches_nil, or_iff_left_of_imp]
    intro hmore
    have hstar := hahead.matches_star hmore
    rw [matches_nil] at hstar ⊢
    simpa using hstar
  | case2 starPattern taken pattern b value hhead ih =>
    obtain ⟨c, pattern, rfl⟩ : ∃ c rest, pattern = c :: rest :=
      ne_nil_iff_exists_cons.mp fun hnil => by simp [hnil] at hhead
    simp only [head?_cons, Option.some.injEq] at hhead
    have hc : c ≠ star := by
      rintro rfl
      rcases hhead with h | rfl
      · exact absurd h (by decide)
      · simp at hstars
    rw [append_assoc] at ih
    have htail := hstars.imp_right fun h => h.imp_right (mt (mem_cons_of_mem c))
    refine (ih htail fun behind hbehind h => ?_).trans ?_
    · rw [append_assoc] at h
      exact matches_star_tail hc (hahead behind hbehind h)
    · rw [matches_cons hc, and_iff_right hhead]
      rfl
  | case3 starPattern taken pattern b value hhead hstar ih =>
    obtain ⟨pattern, rfl⟩ : ∃ rest, pattern = star :: rest := ⟨_, (cons_head?_tail hstar).symm⟩
    have hcollapse : (∃ behind ∈ starPattern, Matches (star :: behind) (taken ++ b :: value).tail) →
        Matches (star :: pattern) (b :: value) := by
      intro hmore
      obtain ⟨rest, hrest, h⟩ := (matches_star).mp (hahead.matches_star hmore)
      exact matches_star_of_suffix hrest h
    have hvalue := hstars.resolve_right fun h => h.2 mem_cons_self
    rw [ih (.inl fun h => hvalue (mem_append_right _ h)) ahead_some, or_iff_left_of_imp hcollapse, matches_star_iff]
    simp
  | case4 taken pattern b value hhead hstar behind ih =>
    have hvalue := hstars.resolve_right fun h => Option.some_ne_none _ h.1
    rw [ih (.inl fun h => hvalue (mem_of_mem_tail h)) ahead_some, or_iff_right (not_matches hhead hstar)]
    simp [← matches_star_iff]
  | case5 taken pattern b value hhead hstar =>
    simp [not_matches hhead hstar]

/-- **A pattern means what it says**, unless it and the value both have a `*`. -/
theorem globMatch_iff (h : star ∉ pattern ∨ star ∉ value) : globMatch pattern value = true ↔ Matches pattern value := by
  rw [globMatch, globLoop_iff (h.symm.imp_right fun h => ⟨rfl, h⟩) (by simp [Ahead])]
  simp

/-! ## Values with a `*` -/

theorem globLoop_append (common : Bytes) : globLoop none taken (common ++ pattern) (common ++ value) =
    globLoop none (taken ++ common) pattern value := by
  induction common generalizing taken with
  | nil => rw [nil_append, nil_append, append_nil]
  | cons b common ih =>
    rw [cons_append, cons_append, globLoop, if_pos (.inr rfl), tail_cons, ih, append_assoc]
    rfl

theorem length_eq_of_globLoop (hpattern : star ∉ pattern) (h : globLoop none taken pattern value = true) :
    pattern.length = value.length := by
  induction value generalizing taken pattern with
  | nil =>
    rw [globLoop] at h
    cases pattern with
    | nil => rfl
    | cons c pattern => simp_all
  | cons b value ih =>
    cases pattern with
    | nil => simp [globLoop] at h
    | cons c pattern =>
      rw [globLoop] at h
      split at h
      · rw [length_cons, length_cons, ih (fun hmem => hpattern (mem_cons_of_mem c hmem)) h]
      · rw [if_neg fun hc => hpattern (by simp_all)] at h
        cases h

theorem Matches.append (common : Bytes) (h : Matches pattern value) :
    Matches (common ++ pattern) (common ++ value) := by
  induction common with
  | nil => exact h
  | cons b common ih =>
    by_cases hb : b = star
    · subst hb
      exact (matches_star).mpr ⟨_, suffix_cons _ _, ih⟩
    · exact (matches_cons hb).mpr ⟨.inr rfl, ih⟩

theorem matches_questions (value : Bytes) : Matches (replicate value.length question) value := by
  induction value with
  | nil => rfl
  | cons b value ih => exact (matches_cons (by decide)).mpr ⟨.inl rfl, ih⟩

/-- **Every pattern means what it says on a value** exactly if the value has no `*`. -/
theorem globMatch_iff_star_notMem (value : Bytes) :
    (∀ pattern, globMatch pattern value = true ↔ Matches pattern value) ↔ star ∉ value := by
  constructor
  · -- An empty run before a `*`, with a `?` for it and for each byte behind it.
    intro h hmem
    obtain ⟨before, after, rfl⟩ := append_of_mem hmem
    have hmatches := (matches_questions (star :: after)).behind_star.append before
    have hloop := (h _).mpr hmatches
    rw [globMatch, append_cons before star after, append_cons before star (replicate _ _), globLoop_append] at hloop
    have hlength := length_eq_of_globLoop (fun hstar => absurd (eq_of_mem_replicate hstar) (by decide)) hloop
    simp at hlength
  · exact fun hvalue pattern => globMatch_iff (.inr hvalue)

theorem not_globMatch_star : ¬ (globMatch (text "*") (text "*a") = true ↔ Matches (text "*") (text "*a")) := by
  have hmatches : Matches (text "*") (text "*a") := (matches_star).mpr ⟨[], nil_suffix, rfl⟩
  have hfails : globMatch (text "*") (text "*a") = false := by
    simp [globMatch, text, globLoop]
  simp [hmatches, hfails]

/-- A walk that succeeds has found a match from where it is, or one in which the last `*` takes more. -/
theorem matches_of_globLoop (h : globLoop starPattern taken pattern value = true) :
    Matches pattern value ∨ ∃ behind ∈ starPattern, Matches (star :: behind) (taken ++ value).tail := by
  fun_induction globLoop starPattern taken pattern value with
  | case1 starPattern taken pattern => exact .inl (matches_nil.mpr h)
  | case2 starPattern taken pattern b value hhead ih =>
    obtain ⟨c, pattern, rfl⟩ : ∃ c rest, pattern = c :: rest :=
      ne_nil_iff_exists_cons.mp fun hnil => by simp [hnil] at hhead
    simp only [head?_cons, Option.some.injEq] at hhead
    rw [append_assoc] at ih
    refine (ih h).imp_left fun hmatch => ?_
    by_cases hc : c = star
    · subst hc
      exact (matches_star).mpr ⟨value, suffix_cons b value, hmatch⟩
    · exact (matches_cons hc).mpr ⟨hhead, hmatch⟩
  | case3 starPattern taken pattern b value hhead hstar ih =>
    obtain ⟨pattern, rfl⟩ : ∃ rest, pattern = star :: rest := ⟨_, (cons_head?_tail hstar).symm⟩
    refine .inl ((matches_star_iff).mpr ((ih h).imp_right ?_))
    rintro ⟨_, ⟨⟩, hmore⟩
    exact hmore
  | case4 taken pattern b value hhead hstar behind ih =>
    refine .inr ⟨behind, rfl, (matches_star_iff).mpr ((ih h).imp_right ?_)⟩
    rintro ⟨_, ⟨⟩, hmore⟩
    exact hmore
  | case5 taken pattern b value hhead hstar => cases h

/-- **A value that is matched is one of those that the pattern describes**, whatever bytes it has. -/
theorem matches_of_globMatch (h : globMatch pattern value = true) : Matches pattern value := by
  refine (matches_of_globLoop h).resolve_right ?_
  rintro ⟨_, ⟨⟩, -⟩

theorem matches_of_globMatch_between : Matches (text "a*b") (text "acb") :=
  matches_of_globMatch (by simp [globMatch, text, globLoop, star, question])

end ENavigator.Capture
