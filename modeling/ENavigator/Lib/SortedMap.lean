import Mathlib.Order.Lattice
import Mathlib.Data.List.Basic

/-!
# Ordered maps

A finite map as the list of its entries in the order of their keys, the way an ordered tree walks them.
-/

namespace ENavigator

open List

structure SortedMap (κ β : Type) [LinearOrder κ] where
  entries : List (κ × β)
  sorted : entries.Pairwise fun a b => a.1 < b.1
  deriving DecidableEq

namespace SortedMap

variable {κ β γ : Type} [LinearOrder κ]

def empty : SortedMap κ β := ⟨[], .nil⟩

def keys (m : SortedMap κ β) : List κ := m.entries.map Prod.fst

def lookup (m : SortedMap κ β) (k : κ) : Option β := (m.entries.find? fun e => e.1 == k).map Prod.snd

def first? (m : SortedMap κ β) : Option (κ × β) := m.entries.head?

def insertEntry (k : κ) (v : β) : List (κ × β) → List (κ × β)
  | [] => [(k, v)]
  | e :: es => if k < e.1 then (k, v) :: e :: es
    else if k = e.1 then (k, v) :: es
    else e :: insertEntry k v es

variable {k k' : κ} {v : β} {es : List (κ × β)} {e : κ × β} {m : SortedMap κ β}

theorem mem_insertEntry (h : e ∈ insertEntry k v es) :
    e = (k, v) ∨ e ∈ es := by
  induction es with
  | nil => exact .inl (mem_singleton.mp h)
  | cons e' es ih =>
    rw [insertEntry] at h
    split at h
    · exact mem_cons.mp h
    split at h
    · exact (mem_cons.mp h).imp_right (mem_cons_of_mem _)
    · rcases mem_cons.mp h with rfl | h
      · exact .inr mem_cons_self
      · exact (ih h).imp_right (mem_cons_of_mem _)

theorem sorted_insertEntry (k : κ) (v : β) (h : es.Pairwise fun a b => a.1 < b.1) :
    (insertEntry k v es).Pairwise fun a b => a.1 < b.1 := by
  induction es with
  | nil => exact pairwise_singleton _ _
  | cons e es ih =>
    obtain ⟨hhead, htail⟩ := pairwise_cons.mp h
    rw [insertEntry]
    split
    next hlt =>
      refine pairwise_cons.mpr ⟨fun e' he' => ?_, h⟩
      rcases mem_cons.mp he' with rfl | he'
      · exact hlt
      · exact lt_trans hlt (hhead e' he')
    next hnlt =>
      split
      next heq => exact pairwise_cons.mpr ⟨fun e' he' => heq ▸ hhead e' he', htail⟩
      next hne =>
        refine pairwise_cons.mpr ⟨fun e' he' => ?_, ih htail⟩
        rcases mem_insertEntry he' with rfl | he'
        · exact lt_of_le_of_ne (not_lt.mp hnlt) (Ne.symm hne)
        · exact hhead e' he'

def insert (m : SortedMap κ β) (k : κ) (v : β) : SortedMap κ β :=
  ⟨insertEntry k v m.entries, sorted_insertEntry k v m.sorted⟩

def erase (m : SortedMap κ β) (k : κ) : SortedMap κ β :=
  ⟨m.entries.filter fun e => e.1 != k, m.sorted.filter _⟩

def filter (m : SortedMap κ β) (p : κ × β → Bool) : SortedMap κ β := ⟨m.entries.filter p, m.sorted.filter _⟩

theorem filter_eq_self {p : κ × β → Bool} (h : ∀ e ∈ m.entries, p e = true) : m.filter p = m := by
  cases m
  simp only [filter, mk.injEq]
  exact List.filter_eq_self.mpr h

theorem nodup_keys (m : SortedMap κ β) : m.keys.Nodup :=
  (pairwise_map.mpr m.sorted).imp fun hlt heq => absurd (heq ▸ hlt) (lt_irrefl _)

theorem mem_keys_insert :
    k' ∈ (m.insert k v).keys ↔ k' = k ∨ k' ∈ m.keys := by
  suffices h : ∀ es : List (κ × β), k' ∈ (insertEntry k v es).map Prod.fst ↔
      k' = k ∨ k' ∈ es.map Prod.fst from h m.entries
  intro es
  induction es with
  | nil => simp [insertEntry]
  | cons e es ih =>
    rw [insertEntry]
    split
    · simp
    split
    next heq => simp [← heq]
    · rw [map_cons, mem_cons, ih, map_cons, mem_cons]
      exact or_left_comm

theorem mem_keys_erase : k' ∈ (m.erase k).keys ↔ k' ≠ k ∧ k' ∈ m.keys := by
  simp only [erase, keys, mem_map, mem_filter, bne_iff_ne]
  constructor
  · rintro ⟨e, ⟨he, hne⟩, rfl⟩
    exact ⟨hne, e, he, rfl⟩
  · rintro ⟨hne, e, he, rfl⟩
    exact ⟨e, ⟨he, hne⟩, rfl⟩

theorem length_erase_lt (h : k ∈ m.keys) :
    (m.erase k).entries.length < m.entries.length := by
  obtain ⟨e, he, rfl⟩ := mem_map.mp h
  exact length_filter_lt_length_iff_exists.mpr ⟨e, he, by simp⟩

theorem first?_mem (h : m.first? = some e) : e.1 ∈ m.keys :=
  mem_map_of_mem (mem_of_mem_head? (Option.mem_def.mpr h))

theorem first?_le (h : m.first? = some e) (hk : k ∈ m.keys) :
    e.1 ≤ k := by
  obtain ⟨e', he', rfl⟩ := mem_map.mp hk
  obtain ⟨tail, htail⟩ := List.head?_eq_some_iff.mp h
  have hsorted := m.sorted
  rw [htail] at hsorted he'
  rcases mem_cons.mp he' with rfl | he'
  · exact le_refl _
  · exact le_of_lt ((pairwise_cons.mp hsorted).1 e' he')

theorem lookup_insert_self (m : SortedMap κ β) (k : κ) (v : β) : (m.insert k v).lookup k = some v := by
  suffices h : ∀ es : List (κ × β), ((insertEntry k v es).find? fun e => e.1 == k) = some (k, v) from
    congrArg (Option.map Prod.snd) (h m.entries)
  intro es
  have hself : ((k, v).1 == k) = true := beq_self_eq_true k
  induction es with
  | nil => exact List.find?_cons_of_pos hself
  | cons e es ih =>
    rw [insertEntry]
    split
    · exact List.find?_cons_of_pos hself
    split
    · exact List.find?_cons_of_pos hself
    next hne =>
      rw [List.find?_cons_of_neg (by simpa using Ne.symm hne)]
      exact ih

theorem lookup_erase_self (m : SortedMap κ β) (k : κ) : (m.erase k).lookup k = none := by
  refine Option.map_eq_none_iff.mpr (List.find?_eq_none.mpr fun e he hk => ?_)
  have hne := (mem_filter.mp he).2
  rw [bne_iff_ne] at hne
  exact hne (eq_of_beq hk)

theorem mem_entries_of_lookup (h : m.lookup k = some v) : (k, v) ∈ m.entries := by
  obtain ⟨e, he, rfl⟩ := Option.map_eq_some_iff.mp h
  have hfound : (e.1 == k) = true := by simpa using List.find?_some he
  rw [← eq_of_beq hfound]
  exact mem_of_find?_eq_some he

theorem lookup_eq_some_iff : m.lookup k = some v ↔ (k, v) ∈ m.entries := by
  refine ⟨mem_entries_of_lookup, fun h => ?_⟩
  obtain ⟨before, after, hentries⟩ := mem_iff_append.mp h
  have hsorted := m.sorted
  rw [hentries, pairwise_append] at hsorted
  have hbefore : ∀ e ∈ before, ¬ (e.1 == k) = true := by
    intro e he heq
    exact absurd (hsorted.2.2 e he (k, v) mem_cons_self) (by rw [eq_of_beq heq]; exact lt_irrefl k)
  show (m.entries.find? _).map _ = _
  have hself : ((k, v).1 == k) = true := beq_self_eq_true k
  rw [hentries, List.find?_append, List.find?_eq_none.mpr hbefore, Option.none_or]
  exact congrArg (Option.map Prod.snd) (List.find?_cons_of_pos hself)

theorem lookup_eq_none_iff : m.lookup k = none ↔ k ∉ m.keys := by
  refine Option.map_eq_none_iff.trans (List.find?_eq_none.trans ?_)
  simp only [keys, mem_map, beq_iff_eq, not_exists, not_and]

theorem lookup_insert_of_ne (h : k' ≠ k) (v : β) :
    (m.insert k v).lookup k' = m.lookup k' := by
  suffices hs : ∀ es : List (κ × β), ((insertEntry k v es).find? fun e => e.1 == k') = es.find? fun e => e.1 == k' from
    congrArg (Option.map Prod.snd) (hs m.entries)
  intro es
  have hne : ¬ ((k, v).1 == k') = true := by simpa using Ne.symm h
  induction es with
  | nil => exact List.find?_cons_of_neg hne
  | cons e es ih =>
    rw [insertEntry]
    split
    · exact List.find?_cons_of_neg hne
    split
    next heq =>
      have hne' : ¬ (e.1 == k') = true := heq ▸ hne
      simp only [List.find?_cons, hne, hne']
    next =>
      rw [List.find?_cons, List.find?_cons, ih]

theorem forall_insert {P : κ → β → Prop} (h : ∀ k v, m.lookup k = some v → P k v) (hnew : P k v) :
    ∀ k' v', (m.insert k v).lookup k' = some v' → P k' v' := by
  intro k' v' hlookup
  by_cases hsame : k' = k
  · subst hsame
    rw [lookup_insert_self] at hlookup
    cases hlookup
    exact hnew
  · rw [lookup_insert_of_ne hsame] at hlookup
    exact h k' v' hlookup

theorem lookup_erase_of_ne (h : k' ≠ k) : (m.erase k).lookup k' = m.lookup k' := by
  refine congrArg (Option.map Prod.snd) ?_
  show (m.entries.filter _).find? _ = _
  rw [List.find?_filter]
  congr 1
  funext e
  by_cases hk : e.1 = k'
  · simp [hk, h]
  · simp [hk]

theorem ext_lookup {m' : SortedMap κ β} (h : ∀ k, m.lookup k = m'.lookup k) : m = m' := by
  have hnodup : ∀ m : SortedMap κ β, m.entries.Nodup := fun m =>
    m.sorted.imp fun {a b} hlt heq => by rw [heq] at hlt; exact lt_irrefl _ hlt
  have hperm : m.entries.Perm m'.entries := by
    refine (perm_ext_iff_of_nodup (hnodup m) (hnodup m')).mpr fun e => ?_
    rw [← lookup_eq_some_iff, ← lookup_eq_some_iff, h]
  have hentries := hperm.eq_of_pairwise (fun a b _ _ hlt hgt => absurd (lt_trans hlt hgt) (lt_irrefl _)) m.sorted
    m'.sorted
  cases m
  cases m'
  cases hentries
  rfl

def mapValues (f : β → γ) (m : SortedMap κ β) : SortedMap κ γ :=
  ⟨m.entries.map fun e => (e.1, f e.2), pairwise_map.mpr m.sorted⟩

theorem lookup_mapValues (f : β → γ) (m : SortedMap κ β) (k : κ) : (m.mapValues f).lookup k = (m.lookup k).map f := by
  show ((m.entries.map _).find? _).map _ = _
  rw [List.find?_map]
  show (Option.map _ (List.find? (fun e => e.1 == k) m.entries)).map _ = ((m.entries.find? _).map _).map f
  rw [Option.map_map, Option.map_map]
  rfl

/-! ## Sizes -/

theorem perm_erase (h : (k, v) ∈ m.entries) :
    m.entries.Perm ((k, v) :: (m.erase k).entries) := by
  obtain ⟨before, after, hentries⟩ := mem_iff_append.mp h
  have hsorted := m.sorted
  rw [hentries, pairwise_append, pairwise_cons] at hsorted
  obtain ⟨-, ⟨hafter, -⟩, hbefore⟩ := hsorted
  have hkeepBefore : (before.filter fun e => e.1 != k) = before :=
    List.filter_eq_self.mpr fun e he => bne_iff_ne.mpr (ne_of_lt (hbefore e he (k, v) mem_cons_self))
  have hkeepAfter : (after.filter fun e => e.1 != k) = after :=
    List.filter_eq_self.mpr fun e he => bne_iff_ne.mpr (ne_of_gt (hafter e he))
  have herased : (m.erase k).entries = before ++ after := by
    show m.entries.filter _ = _
    rw [hentries, filter_append, filter_cons_of_neg (by simp), hkeepBefore, hkeepAfter]
  rw [herased, hentries]
  exact perm_middle

theorem insert_perm (h : k ∉ m.keys) (v : β) :
    (m.insert k v).entries.Perm ((k, v) :: m.entries) := by
  suffices hs : ∀ es : List (κ × β), k ∉ es.map Prod.fst → (insertEntry k v es).Perm ((k, v) :: es) from hs m.entries h
  intro es hes
  induction es with
  | nil => exact List.Perm.refl _
  | cons e es ih =>
    rw [map_cons, mem_cons, not_or] at hes
    rw [insertEntry, if_neg hes.1]
    split
    · exact List.Perm.refl _
    · exact ((ih hes.2).cons e).trans (List.Perm.swap _ _ es)

theorem eq_nil_or_singleton (h : ∀ k' ∈ m.keys, k' = k) :
    m.entries = [] ∨ ∃ v, m.entries = [(k, v)] := by
  have hsorted := m.sorted
  rcases hentries : m.entries with _ | ⟨e, es⟩
  · exact .inl rfl
  have hkey : ∀ e' ∈ e :: es, e'.1 = k := fun e' he' => h e'.1 (mem_map_of_mem (hentries ▸ he'))
  rcases es with _ | ⟨e', es⟩
  · refine .inr ⟨e.2, ?_⟩
    rw [← hkey e mem_cons_self]
  · rw [hentries] at hsorted
    have hlt := (pairwise_cons.mp hsorted).1 e' mem_cons_self
    rw [hkey e mem_cons_self, hkey e' (mem_cons_of_mem e mem_cons_self)] at hlt
    exact absurd hlt (lt_irrefl k)

end SortedMap

end ENavigator
