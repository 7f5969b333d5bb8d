import Mathlib.Data.Finset.Card
import Mathlib.Data.List.DropRight

/-!
# Bounded sets of fingerprints

Generators drop an observation that they have seen. What they remember is bounded: the oldest fingerprint makes room
for a new one. The set and its insertion order always hold the same fingerprints (`insertIfNew_indexed`), so the
generators are modelled with the order alone.

A fingerprint is new when it is not among the last distinct ones that were accepted (`insertIfNew_window`).
-/

namespace ENavigator.Metrics

structure BoundedFingerprints (τ : Type) where
  insertionOrder : List τ := []

variable {τ : Type} [DecidableEq τ]

namespace BoundedFingerprints

/-- Whether the fingerprint is new, and the set with it. -/
def insertIfNew (seen : BoundedFingerprints τ) (fingerprint : τ) (capacity : Nat) : Bool × BoundedFingerprints τ :=
  if fingerprint ∈ seen.insertionOrder then (false, seen)
  else
    let room := seen.insertionOrder.drop (seen.insertionOrder.length + 1 - max capacity 1)
    (true, ⟨room ++ [fingerprint]⟩)

end BoundedFingerprints

open List

/-- The fingerprints as the code has them, a set to search beside the queue. -/
structure IndexedFingerprints (τ : Type) where
  members : Finset τ := ∅
  insertionOrder : List τ := []

namespace IndexedFingerprints

def makeRoom (capacity : Nat) (members : Finset τ) : List τ → IndexedFingerprints τ
  | [] => ⟨members, []⟩
  | oldest :: rest =>
    if capacity ≤ members.card then makeRoom capacity (members.erase oldest) rest else ⟨members, oldest :: rest⟩

def insertIfNew (seen : IndexedFingerprints τ) (fingerprint : τ) (capacity : Nat) : Bool × IndexedFingerprints τ :=
  if fingerprint ∈ seen.members then (false, seen)
  else
    let room := makeRoom (max capacity 1) seen.members seen.insertionOrder
    (true, ⟨insert fingerprint room.members, room.insertionOrder ++ [fingerprint]⟩)

def indexed (order : List τ) : IndexedFingerprints τ := ⟨order.toFinset, order⟩

variable {capacity : Nat} {fingerprint : τ}

theorem makeRoom_indexed {order : List τ} (h : order.Nodup) :
    makeRoom capacity order.toFinset order = indexed (order.drop (order.length + 1 - capacity)) := by
  induction order with
  | nil => rw [drop_nil]; rfl
  | cons oldest rest ih =>
    obtain ⟨hfresh, hrest⟩ := nodup_cons.mp h
    rw [makeRoom, toFinset_card_of_nodup h, length_cons]
    split
    next hfull =>
      rw [toFinset_cons, Finset.erase_insert (by rwa [mem_toFinset]), ih hrest, Nat.succ_sub hfull, drop_succ_cons]
    next hroom =>
      rw [Nat.sub_eq_zero_of_le (by omega)]
      rfl

theorem insertIfNew_indexed {seen : BoundedFingerprints τ} (h : seen.insertionOrder.Nodup) :
    (indexed seen.insertionOrder).insertIfNew fingerprint capacity =
      ((seen.insertIfNew fingerprint capacity).1,
        indexed (seen.insertIfNew fingerprint capacity).2.insertionOrder) := by
  unfold insertIfNew BoundedFingerprints.insertIfNew
  dsimp only [indexed]
  simp only [mem_toFinset]
  split
  · rfl
  · rw [makeRoom_indexed h, toFinset_append, toFinset_cons, toFinset_nil, Finset.union_comm]
    rfl

/-- The calls so far: what they left, and the fingerprints they accepted. -/
structure History (τ : Type) where
  seen : IndexedFingerprints τ := {}
  accepted : List τ := []

def History.call (capacity : Nat) (w : History τ) (fingerprint : τ) : History τ :=
  let result := w.seen.insertIfNew fingerprint capacity
  ⟨result.2, if result.1 then w.accepted ++ [fingerprint] else w.accepted⟩

/-- The last fingerprints, if they are distinct, are the last distinct ones. -/
theorem rtake_dedup {accepted : List τ} {n : Nat} (h : (accepted.rtake n).Nodup) :
    accepted.dedup.rtake n = accepted.rtake n := by
  by_cases hshort : accepted.length ≤ n
  · rw [rtake, Nat.sub_eq_zero_of_le hshort, drop_zero] at h
    rw [h.dedup]
  · obtain ⟨older, holder⟩ := suffix_union_right (accepted.take (accepted.length - n)) (accepted.rtake n)
    have hdedup : accepted.dedup = older ++ accepted.rtake n := by
      rw [holder, ← dedup_eq_self.mpr h, ← dedup_append, rtake, take_append_drop]
    have hlength : (accepted.rtake n).length = n := by
      rw [rtake, length_drop]
      omega
    rw [hdedup, rtake, length_append, hlength, Nat.add_sub_cancel, drop_left]

/-- The queue is the end of what was accepted. -/
structure Tracks (capacity : Nat) (w : History τ) (seen : BoundedFingerprints τ) : Prop where
  seen_eq : w.seen = indexed seen.insertionOrder
  nodup : seen.insertionOrder.Nodup
  window : seen.insertionOrder = w.accepted.rtake (max capacity 1)

theorem Tracks.call {w : History τ} {seen : BoundedFingerprints τ} (h : Tracks capacity w seen) (fingerprint : τ) :
    Tracks capacity (w.call capacity fingerprint) (seen.insertIfNew fingerprint capacity).2 := by
  unfold History.call
  rw [h.seen_eq, insertIfNew_indexed h.nodup]
  unfold BoundedFingerprints.insertIfNew
  split
  next => exact ⟨rfl, h.nodup, h.window⟩
  next hnew =>
    refine ⟨rfl, ?_, ?_⟩
    · refine (h.nodup.sublist (drop_sublist _ _)).append (nodup_singleton _) ?_
      rw [disjoint_singleton]
      exact fun hmem => hnew (mem_of_mem_drop hmem)
    · have hlength : seen.insertionOrder.length = w.accepted.length - (w.accepted.length - max capacity 1) := by
        rw [h.window, rtake, length_drop]
      dsimp only
      rw [if_pos rfl, hlength, h.window, rtake, rtake, drop_drop, length_append, length_singleton,
        drop_append_of_le_length (by omega)]
      congr 2
      omega

/-- **A fingerprint is new exactly if it is not among the last distinct ones accepted.** -/
theorem insertIfNew_window (capacity : Nat) (calls : List τ) (fingerprint : τ) :
    let w := calls.foldl (History.call capacity) {}
    ((w.seen.insertIfNew fingerprint capacity).1 = true ↔
        fingerprint ∉ w.accepted.dedup.rtake (max capacity 1)) ∧
      w.seen.insertionOrder.Nodup ∧ w.seen.members = w.seen.insertionOrder.toFinset := by
  obtain ⟨seen, h⟩ : ∃ seen, Tracks capacity (calls.foldl (History.call capacity) {}) seen := by
    refine foldlRecOn (motive := fun w => ∃ seen, Tracks capacity w seen) calls _ ⟨{}, rfl, nodup_nil, ?_⟩ ?_
    · rw [rtake, drop_nil]
    · rintro w ⟨seen, h⟩ fingerprint -
      exact ⟨_, h.call fingerprint⟩
  intro w
  rw [rtake_dedup (h.window ▸ h.nodup), ← h.window, h.seen_eq]
  refine ⟨?_, h.nodup, rfl⟩
  rw [insertIfNew_indexed h.nodup, BoundedFingerprints.insertIfNew]
  split <;> simp [*]

end IndexedFingerprints

end ENavigator.Metrics
