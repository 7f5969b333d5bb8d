import Mathlib.Order.Nat
import ENavigator.Lib.Runs
import ENavigator.Lib.SortedMap
import ENavigator.Signals.Metric

/-!
# The cache of attributed processes

The processors keep the container of a process under its id, in a map beside a queue of the ids in the order of their
insertion. A removal takes the id out of the map and leaves it in the queue. So the cache evicts what was inserted first
exactly as long as no entry is removed (`fifo_iff_kept`): an id that is removed and used again is evicted in place of
older ones, and the queue grows with each removal.
-/

namespace ENavigator.Attribution

open List Signals SortedMap

variable {κ : Type} [LinearOrder κ]

structure BoundedContainerCache (κ : Type) [LinearOrder κ] where
  entries : SortedMap κ ContainerContext := .empty
  order : List κ := []

def makeRoom (maxEntries : Nat) (entries : SortedMap κ ContainerContext) :
    List κ → SortedMap κ ContainerContext × List κ
  | [] =>
    if entries.entries.length ≥ maxEntries then
      match entries.first? with
      | some (first, _) => (entries.erase first, [])
      | none => (entries, [])
    else (entries, [])
  | oldest :: order =>
    if entries.entries.length ≥ maxEntries then makeRoom maxEntries (entries.erase oldest) order
    else (entries, oldest :: order)

namespace BoundedContainerCache

def insert (cache : BoundedContainerCache κ) (key : κ) (value : ContainerContext) (maxEntries : Nat) :
    BoundedContainerCache κ :=
  if key ∈ cache.entries.keys then { cache with entries := cache.entries.insert key value }
  else
    let (entries, order) := makeRoom (max maxEntries 1) cache.entries cache.order
    { entries := entries.insert key value, order := order ++ [key] }

def remove (cache : BoundedContainerCache κ) (key : κ) : BoundedContainerCache κ :=
  { cache with entries := cache.entries.erase key }

end BoundedContainerCache

/-! ## Runs -/

inductive Call (κ : Type) where
  | insert (key : κ) (value : ContainerContext)
  | remove (key : κ)

/-- A cache, and the keys of its entries in the order of their insertion. -/
structure Run (κ : Type) [LinearOrder κ] where
  cache : BoundedContainerCache κ := {}
  live : List κ := []

variable {maxEntries : Nat} {run : Run κ} {call : Call κ} {cache : BoundedContainerCache κ} {key : κ}

def Run.step (maxEntries : Nat) (run : Run κ) : Call κ → Run κ
  | .insert key value =>
    let cache := run.cache.insert key value maxEntries
    ⟨cache, run.live.filter (· ∈ cache.entries.keys) ++ if key ∈ run.cache.entries.keys then [] else [key]⟩
  | .remove key => ⟨run.cache.remove key, run.live.filter (· ≠ key)⟩

/-- The queue holds exactly the keys of the entries, each once. -/
structure Queued (maxEntries : Nat) (cache : BoundedContainerCache κ) : Prop where
  nodup : cache.order.Nodup
  mem_iff : ∀ k, k ∈ cache.order ↔ k ∈ cache.entries.keys
  length_le : cache.order.length ≤ maxEntries

/-- A call leaves the queue in order, and an insertion evicts the entry that was inserted first. -/
structure Fifo (maxEntries : Nat) (run : Run κ) (call : Call κ) : Prop where
  queued : Queued maxEntries (run.step maxEntries call).cache
  oldest : ∀ key value, call = .insert key value → ∀ gone ∈ run.cache.entries.keys,
    gone ∉ (run.step maxEntries call).cache.entries.keys → run.live.head? = some gone

def Kept (run : Run κ) (call : Call κ) : Prop := ∀ key, call = .remove key → key ∉ run.cache.entries.keys

def Inv (maxEntries : Nat) (run : Run κ) : Prop := Queued maxEntries run.cache ∧ run.live = run.cache.order

theorem makeRoom_of_lt {entries : SortedMap κ ContainerContext} (h : entries.entries.length < maxEntries)
    (order : List κ) : makeRoom maxEntries entries order = (entries, order) := by
  cases order <;> rw [makeRoom, if_neg (Nat.not_le.mpr h)]

/-- The loop evicts the oldest entry, if there is no room, and no other. -/
theorem makeRoom_spec (h : Queued (maxEntries + 1) cache) : ∃ entries kept,
    makeRoom (maxEntries + 1) cache.entries cache.order = (entries, kept) ∧ kept.length ≤ maxEntries ∧
      (∀ k, k ∈ kept ↔ k ∈ entries.keys) ∧ (kept = cache.order ∨ ∃ oldest, cache.order = oldest :: kept) := by
  obtain ⟨hnodup, hmem, hle⟩ := h
  have hperm := (perm_ext_iff_of_nodup hnodup cache.entries.nodup_keys).mpr hmem
  have hlen : cache.order.length = cache.entries.entries.length := by rw [hperm.length_eq, SortedMap.keys, length_map]
  by_cases hroom : cache.order.length < maxEntries + 1
  · exact ⟨_, _, makeRoom_of_lt (hlen ▸ hroom) _, Nat.le_of_lt_succ hroom, hmem, .inl rfl⟩
  cases horder : cache.order with
  | nil => simp [horder] at hroom
  | cons oldest kept =>
    rw [horder] at hmem hnodup hlen hle hroom
    have hshorter := length_erase_lt ((hmem oldest).mp mem_cons_self)
    refine ⟨cache.entries.erase oldest, kept, ?_, Nat.le_of_succ_le_succ hle, fun k => ?_, .inr ⟨oldest, rfl⟩⟩
    · rw [makeRoom, if_pos (by omega), makeRoom_of_lt (by omega)]
    · rw [mem_keys_erase, ← hmem, mem_cons]
      exact ⟨fun hk => ⟨fun heq => (nodup_cons.mp hnodup).1 (heq ▸ hk), .inr hk⟩, fun hk => hk.2.resolve_left hk.1⟩

theorem insert_spec (h : Queued (maxEntries + 1) cache) (key : κ) (value : ContainerContext) : ∃ kept,
    (cache.insert key value (maxEntries + 1)).order = kept ++ (if key ∈ cache.entries.keys then [] else [key]) ∧
      Queued (maxEntries + 1) (cache.insert key value (maxEntries + 1)) ∧
      (kept = cache.order ∨ ∃ oldest, cache.order = oldest :: kept ∧ oldest ≠ key) := by
  unfold BoundedContainerCache.insert
  split
  next hkey =>
    refine ⟨cache.order, (append_nil _).symm, ⟨h.nodup, fun k => ?_, h.length_le⟩, .inl rfl⟩
    rw [mem_keys_insert, h.mem_iff, or_iff_right_of_imp (fun heq => heq ▸ hkey)]
  next hkey =>
    obtain ⟨entries, kept, hroom, hle, hmem, hcase⟩ := makeRoom_spec h
    have hnew : key ∉ cache.order := fun hin => hkey ((h.mem_iff key).mp hin)
    have hsub : kept.Sublist cache.order := by
      rcases hcase with rfl | ⟨oldest, horder⟩
      · exact List.Sublist.refl _
      · exact horder ▸ sublist_cons_self oldest kept
    rw [Nat.max_eq_left (Nat.le_add_left 1 _), hroom]
    refine ⟨kept, rfl, ⟨?_, fun k => ?_, ?_⟩, hcase.imp_right fun ⟨oldest, horder⟩ => ⟨oldest, horder, ?_⟩⟩
    · simpa [nodup_append] using ⟨hsub.nodup h.nodup, fun k hk heq => hnew (hsub.subset (heq ▸ hk))⟩
    · simp [hmem, mem_keys_insert, or_comm]
    · simpa using hle
    · rintro rfl
      exact hnew (horder ▸ mem_cons_self)

/-- **A call that removes no entry keeps the queue and evicts the oldest.** -/
theorem Inv.step (h : Inv (maxEntries + 1) run) (hkept : Kept run call) :
    Fifo (maxEntries + 1) run call ∧ Inv (maxEntries + 1) (run.step (maxEntries + 1) call) := by
  obtain ⟨hqueued, hlive⟩ := h
  cases call with
  | remove key =>
    have hne : ∀ k ∈ run.cache.entries.keys, k ≠ key := fun k hk heq => hkept key rfl (heq ▸ hk)
    have hnext : Queued (maxEntries + 1) (run.cache.remove key) := by
      refine ⟨hqueued.nodup, fun k => (hqueued.mem_iff k).trans ?_, hqueued.length_le⟩
      rw [BoundedContainerCache.remove, mem_keys_erase]
      exact ⟨fun hk => ⟨hne k hk, hk⟩, And.right⟩
    refine ⟨⟨hnext, nofun⟩, hnext, ?_⟩
    show run.live.filter _ = run.cache.order
    rw [hlive]
    exact List.filter_eq_self.mpr fun k hk => decide_eq_true (hne k ((hqueued.mem_iff k).mp hk))
  | insert key value =>
    obtain ⟨kept, horder, hnext, hcase⟩ := insert_spec hqueued key value
    have hstays : ∀ k ∈ kept, k ∈ (run.cache.insert key value (maxEntries + 1)).entries.keys :=
      fun k hk => (hnext.mem_iff k).mp (horder ▸ mem_append_left _ hk)
    have hfilter : kept.filter (· ∈ (run.cache.insert key value (maxEntries + 1)).entries.keys) = kept :=
      List.filter_eq_self.mpr fun k hk => decide_eq_true (hstays k hk)
    simp only [Inv, Run.step, horder, hlive]
    rcases hcase with rfl | ⟨oldest, hfirst, hne⟩
    · rw [hfilter]
      exact ⟨⟨hnext, fun _ _ _ k hk hgone => absurd (hstays k ((hqueued.mem_iff k).mpr hk)) hgone⟩, hnext, rfl⟩
    · have hgone : oldest ∉ (run.cache.insert key value (maxEntries + 1)).entries.keys := by
        have hnodup := hqueued.nodup
        rw [hfirst, nodup_cons] at hnodup
        rw [← hnext.mem_iff, horder]
        split <;> simp [hnodup.1, hne]
      rw [hfirst, filter_cons_of_neg (by simpa using hgone), hfilter]
      refine ⟨⟨hnext, fun _ _ _ k hk hk' => ?_⟩, hnext, rfl⟩
      rw [← hqueued.mem_iff, hfirst] at hk
      rw [hlive, hfirst, (mem_cons.mp hk).resolve_right fun hin => hk' (hstays k hin)]
      rfl

/-- **The cache is a queue exactly as long as no entry is removed.** -/
theorem fifo_iff_kept (maxEntries : Nat) (calls : List (Call κ)) :
    Along (Run.step (maxEntries + 1)) (Fifo (maxEntries + 1)) {} calls ↔
      Along (Run.step (maxEntries + 1)) Kept {} calls := by
  have hinit : Inv (maxEntries + 1) ({} : Run κ) := ⟨⟨.nil, fun _ => Iff.rfl, Nat.zero_le _⟩, rfl⟩
  refine ⟨Along.of_invariant (fun run call hinv hfifo => ?_) hinit, Along.of_invariant (fun _ _ h => h.step) hinit⟩
  have hkept : Kept run call := by
    -- A removed key stays in the queue, where a queue in order has no place for it.
    rintro key rfl hlive
    exact (mem_keys_erase.mp ((hfifo.queued.mem_iff key).mp ((hinv.1.mem_iff key).mpr hlive))).1 rfl
  exact ⟨hkept, (hinv.step hkept).2⟩

/-- A process id that is used again. -/
theorem not_fifo_reused : ¬ Along (Run.step 2) (Fifo 2) ({} : Run Nat)
    [.insert 20 ⟨[], none⟩, .insert 10 ⟨[], none⟩, .remove 20, .insert 20 ⟨[], none⟩, .insert 5 ⟨[], none⟩] := by
  intro h
  exact absurd (h.2.2.2.2.1.oldest 5 _ rfl 20 (by decide) (by decide)) (by decide)

end ENavigator.Attribution
