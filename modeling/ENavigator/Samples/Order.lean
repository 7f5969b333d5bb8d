import ENavigator.Lib.Bytes
import ENavigator.Lib.LeastFirst
import Mathlib.Data.Prod.Lex

/-!
# The order of samples from several readers

One reader per processor hands over the samples of its ring and, from time to time, a watermark: that it has read
everything up to a time. `ProtocolSampleOrder` keeps the samples until every reader has got past them. A sample is
the bytes of a record; its time stands at a fixed place in them.
-/

namespace ENavigator.Samples

open List

/-- The size of the record, and where its time is. -/
def rawProtocolDataEventBytes : Nat := 384
def timestampOffset : Nat := 80

def protocolSampleTimestamp (sample : Bytes) : Option Nat :=
  if sample.length ≥ rawProtocolDataEventBytes then some (leNat ((sample.drop timestampOffset).take 8)) else none

/-- The time a sample is ordered by; one that is too short to have a time comes first. -/
def timestamp (sample : Bytes) : Nat := (protocolSampleTimestamp sample).getD 0

structure PendingProtocolSample where
  timestampMonotonicNanos : Nat
  sequence : Nat
  sample : Bytes
  deriving DecidableEq, Repr

/-- The heap gives out the earliest sample, and of those with one time the one with the least number. -/
def PendingProtocolSample.key (pending : PendingProtocolSample) : ℕ ×ₗ ℕ :=
  toLex (pending.timestampMonotonicNanos, pending.sequence)

structure ProtocolSampleOrder where
  readerWatermarks : List (Option Nat)
  pending : List PendingProtocolSample := []
  nextSequence : Nat := 0
  maxPendingSamples : Nat
  deriving DecidableEq, Repr

variable (order : ProtocolSampleOrder)

namespace ProtocolSampleOrder

def new (readerCount maxPendingSamples : Nat) : ProtocolSampleOrder where
  readerWatermarks := List.replicate readerCount none
  maxPendingSamples := max maxPendingSamples 1

def popOldest : ProtocolSampleOrder × Option Bytes :=
  match popLeast PendingProtocolSample.key order.pending with
  | none => (order, none)
  | some (oldest, rest) => ({ order with pending := rest }, some oldest.sample)

/-- The oldest sample is given out at once when there are too many. -/
def pushSample (sample : Bytes) : ProtocolSampleOrder × Option Bytes :=
  let order := { order with
    pending := order.pending ++ [⟨timestamp sample, order.nextSequence, sample⟩]
    nextSequence := (order.nextSequence + 1) % 2 ^ 64 }
  if order.pending.length > order.maxPendingSamples then order.popOldest else (order, none)

/-- A watermark never goes back; an unknown reader has none. -/
def updateWatermark (reader time : Nat) : ProtocolSampleOrder :=
  { order with
    readerWatermarks := order.readerWatermarks.modify reader fun
      | none => some time
      | some current => some (max current time) }

/-- What every reader has got past; a reader without a watermark holds it back. -/
def globalWatermark : Option Nat := order.readerWatermarks.min?.join

def popReady : ProtocolSampleOrder × Option Bytes :=
  match order.globalWatermark, order.pending.argmin PendingProtocolSample.key with
  | some watermark, some oldest =>
    if oldest.timestampMonotonicNanos ≤ watermark then order.popOldest else (order, none)
  | _, _ => (order, none)

/-- Every sample that is left, one `popOldest` after the other. -/
def drain : List Bytes :=
  (drainLeast PendingProtocolSample.key order.pending.length order.pending).1.map PendingProtocolSample.sample

/-! ## What each operation does -/

theorem pushSample_of_room {order : ProtocolSampleOrder} (h : order.pending.length < order.maxPendingSamples)
    (sample : Bytes) :
    order.pushSample sample = ({ order with
      pending := order.pending ++ [⟨timestamp sample, order.nextSequence, sample⟩]
      nextSequence := (order.nextSequence + 1) % 2 ^ 64 }, none) := by
  refine if_neg ?_
  dsimp only
  rw [length_append, length_singleton]
  omega

theorem drain_perm : order.drain.Perm (order.pending.map PendingProtocolSample.sample) :=
  (drainLeast_perm _ (Nat.le_refl _)).1.map _

theorem min_eq_some {a b : Option Nat} {w : Nat} (h : min a b = some w) :
    ∃ u v, a = some u ∧ b = some v ∧ w ≤ u ∧ w ≤ v := by
  rcases a with _ | u
  · rcases b with _ | v <;> cases h
  rcases b with _ | v
  · cases h
  · obtain rfl : min u v = w := Option.some.inj h
    exact ⟨u, v, rfl, rfl, Nat.min_le_left u v, Nat.min_le_right u v⟩

theorem foldl_min_eq_some {watermarks : List (Option Nat)} {first : Option Nat} {w : Nat}
    (h : watermarks.foldl min first = some w) : ∀ watermark ∈ first :: watermarks, ∃ v, watermark = some v ∧ w ≤ v := by
  induction watermarks generalizing first with
  | nil =>
    exact forall_mem_singleton.mpr ⟨w, h, Nat.le_refl w⟩
  | cons second watermarks ih =>
    have hrest := ih h
    obtain ⟨m, hm, hle⟩ := hrest _ mem_cons_self
    obtain ⟨u, v, rfl, rfl, hu, hv⟩ := min_eq_some hm
    refine forall_mem_cons.mpr ⟨⟨u, rfl, hle.trans hu⟩, forall_mem_cons.mpr ⟨⟨v, rfl, hle.trans hv⟩, ?_⟩⟩
    exact (forall_mem_cons.mp hrest).2

theorem globalWatermark_le {order : ProtocolSampleOrder} {w : Nat} (h : order.globalWatermark = some w) :
    ∀ watermark ∈ order.readerWatermarks, ∃ v, watermark = some v ∧ w ≤ v := by
  rw [globalWatermark] at h
  rcases hreaders : order.readerWatermarks with _ | ⟨first, watermarks⟩
  · exact nofun
  · rw [hreaders, List.min?_cons'] at h
    exact foldl_min_eq_some h

/-- A sample is given out if it has the least key of all and every reader has got past it. -/
theorem popReady_eq : order.popReady = (order, none) ∨
      ∃ oldest rest w, popLeast PendingProtocolSample.key order.pending = some (oldest, rest) ∧
        order.globalWatermark = some w ∧ oldest.timestampMonotonicNanos ≤ w ∧
        order.popReady = ({ order with pending := rest }, some oldest.sample) := by
  unfold popReady
  split
  · next w oldest hw holdest =>
    split
    · next hle =>
      have hpop : popLeast PendingProtocolSample.key order.pending =
          some (oldest, order.pending.erase oldest) := by
        rw [popLeast, holdest]
        rfl
      refine .inr ⟨oldest, order.pending.erase oldest, w, hpop, hw, hle, ?_⟩
      rw [popOldest, hpop]
    · exact .inl rfl
  · exact .inl rfl

end ProtocolSampleOrder

end ENavigator.Samples
