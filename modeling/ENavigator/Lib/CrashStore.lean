import Mathlib.Data.List.AList

/-!
# Directories that survive crashes

A directory of atomically replaced files: an operation is seen at once, reaches the disk with the next
sync that succeeds, and may or may not survive a crash before it. A store is what is on the disk and
the operations not yet synced; a crash keeps any of these.

* `Possible k v`: a crash may leave `v` under `k`, and nothing is ever seen that is not possible
  (`possible_of_view`, `Possible.of_crash`);
* `Settled k v`: `v` is on the disk under `k` and no unsynced operation touches it, so that it outlives
  every crash (`Settled.crash`).
-/

namespace ENavigator.CrashStore

open List

/-- A finite directory. -/
abbrev Table (κ β : Type) := AList fun _ : κ => β

inductive Op (κ β : Type) where
  | put (k : κ) (v : β)
  | remove (k : κ)
  deriving DecidableEq, Repr

variable {κ β : Type} [DecidableEq κ]

namespace Op

def key : Op κ β → κ
  | put k _ => k
  | remove k => k

def apply : Op κ β → Table κ β → Table κ β
  | put k v, t => t.insert k v
  | remove k, t => t.erase k

theorem lookup_apply_ne {op : Op κ β} {k : κ} (h : op.key ≠ k) (t : Table κ β) :
    (op.apply t).lookup k = t.lookup k := by
  cases op with
  | put k' v => exact AList.lookup_insert_ne (Ne.symm h)
  | remove k' => exact AList.lookup_erase_ne (Ne.symm h)

theorem lookup_apply_some {op : Op κ β} {k : κ} {v : β} {t : Table κ β}
    (h : (op.apply t).lookup k = some v) : op = put k v ∨ t.lookup k = some v := by
  by_cases hk : op.key = k
  · cases op with
    | put k' v' =>
      obtain rfl : k' = k := hk
      have hv : some v' = some v := (AList.lookup_insert t).symm.trans h
      exact .inl (by rw [Option.some.inj hv])
    | remove k' =>
      obtain rfl : k' = k := hk
      rw [apply, AList.lookup_erase] at h
      cases h
  · exact .inr ((lookup_apply_ne hk t).symm.trans h)

end Op

def applyAll (ops : List (Op κ β)) (t : Table κ β) : Table κ β := ops.foldl (fun t op => op.apply t) t

variable {ops : List (Op κ β)} {k : κ} {t : Table κ β}

theorem lookup_applyAll_of_untouched (h : ∀ op ∈ ops, op.key ≠ k) (t : Table κ β) :
    (applyAll ops t).lookup k = t.lookup k := by
  induction ops generalizing t with
  | nil => rfl
  | cons op ops ih =>
    have hrest := ih (fun o ho => h o (mem_cons_of_mem _ ho)) (op.apply t)
    exact hrest.trans (Op.lookup_apply_ne (h op mem_cons_self) t)

theorem lookup_applyAll_some {v : β} (h : (applyAll ops t).lookup k = some v) :
    .put k v ∈ ops ∨ t.lookup k = some v := by
  induction ops generalizing t with
  | nil => exact .inr h
  | cons op ops ih =>
    rcases ih h with hmem | ht
    · exact .inl (mem_cons_of_mem _ hmem)
    · rcases Op.lookup_apply_some ht with rfl | ht
      · exact .inl mem_cons_self
      · exact .inr ht

/-- Puts only add: what was there, or was put, is there under some value. -/
theorem lookup_applyAll_isSome (hputs : ∀ k, .remove k ∉ ops) (h : (∃ v, .put k v ∈ ops) ∨ (t.lookup k).isSome) :
    ((applyAll ops t).lookup k).isSome := by
  induction ops generalizing t with
  | nil =>
    rcases h with ⟨v, hv⟩ | h
    · cases hv
    · exact h
  | cons op ops ih =>
    refine ih (fun k hk => hputs k (mem_cons_of_mem _ hk)) (t := op.apply t) ?_
    cases op with
    | remove k' => exact absurd mem_cons_self (hputs k')
    | put k' v' =>
      by_cases hk : k' = k
      · subst hk
        exact .inr (Option.isSome_of_eq_some (AList.lookup_insert t))
      · rcases h with ⟨v, hv⟩ | h
        · rcases mem_cons.mp hv with heq | hv
          · exact absurd (Op.put.inj heq).1.symm hk
          · exact .inl ⟨v, hv⟩
        · have hput : (Op.put k' v' : Op κ β).key ≠ k := hk
          rw [← Op.lookup_apply_ne hput t] at h
          exact .inr h

structure Store (κ β : Type) [DecidableEq κ] where
  durable : Table κ β
  unsynced : List (Op κ β)

namespace Store

def empty : Store κ β := ⟨∅, []⟩

def view (s : Store κ β) : Table κ β := applyAll s.unsynced s.durable

def record (s : Store κ β) (op : Op κ β) : Store κ β := { s with unsynced := s.unsynced ++ [op] }

def sync (s : Store κ β) : Store κ β := ⟨s.view, []⟩

/-- A crash that the operations `kept` survive. -/
def crash (s : Store κ β) (kept : List (Op κ β)) : Store κ β := ⟨applyAll kept s.durable, []⟩

theorem view_record (s : Store κ β) (op : Op κ β) : (s.record op).view = op.apply s.view := by
  rw [view, record, applyAll, foldl_append]
  rfl

end Store

/-- A crash may leave `v` under `k`. -/
def Possible (s : Store κ β) (k : κ) (v : β) : Prop :=
  s.durable.lookup k = some v ∨ .put k v ∈ s.unsynced

/-- `v` is on the disk under `k`, and no unsynced operation touches it. -/
def Settled (s : Store κ β) (k : κ) (v : β) : Prop :=
  s.durable.lookup k = some v ∧ ∀ op ∈ s.unsynced, op.key ≠ k

variable {s : Store κ β} {k : κ} {v : β}

theorem possible_of_view (h : s.view.lookup k = some v) : Possible s k v :=
  (lookup_applyAll_some h).symm

theorem Possible.of_sync (h : Possible s.sync k v) : s.view.lookup k = some v := by
  rcases h with h | h
  · exact h
  · cases h

theorem Possible.of_record {op : Op κ β} (h : Possible (s.record op) k v) :
    Possible s k v ∨ op = .put k v := by
  rcases h with h | h
  · exact .inl (.inl h)
  · rcases mem_append.mp h with h | h
    · exact .inl (.inr h)
    · exact .inr (mem_singleton.mp h).symm

theorem Possible.of_crash {kept : List (Op κ β)} (hkept : kept.Sublist s.unsynced)
    (h : Possible (s.crash kept) k v) : Possible s k v := by
  rcases h with h | h
  · rcases lookup_applyAll_some h with hput | h
    · exact .inr (hkept.subset hput)
    · exact .inl h
  · cases h

/-- While nothing was removed, whatever is possible is seen under some value. -/
theorem Possible.isSome_view (h : Possible s k v) (hputs : ∀ k, .remove k ∉ s.unsynced) :
    (s.view.lookup k).isSome := by
  refine lookup_applyAll_isSome hputs ?_
  rcases h with h | h
  · exact .inr (Option.isSome_of_eq_some h)
  · exact .inl ⟨v, h⟩

theorem Settled.lookup_view (h : Settled s k v) : s.view.lookup k = some v :=
  (lookup_applyAll_of_untouched h.2 _).trans h.1

theorem settled_sync (h : s.view.lookup k = some v) : Settled s.sync k v :=
  ⟨h, nofun⟩

theorem Settled.record {op : Op κ β} (h : Settled s k v) (hop : op.key ≠ k) : Settled (s.record op) k v :=
  ⟨h.1, forall_mem_append.mpr ⟨h.2, forall_mem_singleton.mpr hop⟩⟩

/-- **What is settled outlives every crash.** -/
theorem Settled.crash {kept : List (Op κ β)} (hkept : kept.Sublist s.unsynced) (h : Settled s k v) :
    Settled (s.crash kept) k v :=
  ⟨(lookup_applyAll_of_untouched (fun op hop => h.2 op (hkept.subset hop)) _).trans h.1,
    nofun⟩

end ENavigator.CrashStore
