import ENavigator.Lib.Runs
import ENavigator.Samples.Order

/-!
# Runs of the merge

Readers push samples and send watermarks, and the samples that are ready are taken out, in any order of events. A
reader keeps to its watermarks (`Paced`): what it pushes behind one is later. `merged_of_paced` is what then comes
out: the samples by their times, each once and none lost; samples with one time as they were pushed, as long as the
number that `nextSequence` gives them has not started again between two of them (`NoWrap`). Past that they may change
places (`swapped_at_wrap`).
-/

namespace ENavigator.Samples

open List ProtocolSampleOrder

variable {k : Nat}

inductive Event (readers : Nat) where
  | push (reader : Fin readers) (sample : Bytes)
  | watermark (reader : Fin readers) (time : Nat)
  | popReady
  deriving DecidableEq, Repr

/-- The merge with everything that was pushed and everything that `popReady` has returned. -/
structure Merge where
  order : ProtocolSampleOrder
  pushed : List Bytes := []
  returned : List Bytes := []
  deriving DecidableEq, Repr

variable {readers : Nat}

namespace Merge

def start (readers maxPendingSamples : Nat) : Merge where
  order := .new readers maxPendingSamples

/-- What `pushSample` gives out is none where there is room (`pushSample_of_room`). -/
def step (m : Merge) : Event readers → Merge
  | .push _ sample => { m with order := (m.order.pushSample sample).1, pushed := m.pushed ++ [sample] }
  | .watermark reader time => { m with order := m.order.updateWatermark reader time }
  | .popReady => { m with order := m.order.popReady.1, returned := m.returned ++ m.order.popReady.2.toList }

/-- A push does not make the samples too many. -/
def HasRoom (m : Merge) : Event readers → Prop
  | .push _ _ => m.order.pending.length < m.order.maxPendingSamples
  | _ => True

instance (m : Merge) : DecidablePred (@HasRoom readers m)
  | .push _ _ => inferInstanceAs (Decidable (_ < _))
  | .watermark _ _ => isTrue trivial
  | .popReady => isTrue trivial

end Merge

/-- A sample behind a watermark of its reader is later than that. -/
def Paced : Event readers → Event readers → Prop
  | .watermark reader time, .push reader' sample => reader = reader' → time < timestamp sample
  | _, _ => True

instance : DecidableRel (@Paced readers)
  | .watermark reader time, .push reader' sample =>
    inferInstanceAs (Decidable (reader = reader' → time < timestamp sample))
  | .watermark _ _, .watermark _ _ => isTrue trivial
  | .watermark _ _, .popReady => isTrue trivial
  | .push _ _, _ => isTrue trivial
  | .popReady, _ => isTrue trivial

/-- Samples with one time are numbered without a new start between them. -/
def NoWrap (pushed : List Bytes) : Prop :=
  ∀ a ∈ pushed.zipIdx, ∀ b ∈ pushed.zipIdx, timestamp a.1 = timestamp b.1 → a.2 / 2 ^ 64 = b.2 / 2 ^ 64

structure Merge.Merged (m : Merge) : Prop where
  sorted : (m.returned.map timestamp).Pairwise (· ≤ ·)
  stable : NoWrap m.pushed → ∀ time,
    (m.returned.filter fun s => timestamp s = time) <+: m.pushed.filter fun s => timestamp s = time
  lossless : (m.returned ++ m.order.drain).Perm m.pushed

/-! ## The invariant -/

/-- A sample and its place among all that were pushed, as it waits in the queue. -/
def entry (x : Bytes × Nat) : PendingProtocolSample := ⟨timestamp x.1, x.2 % 2 ^ 64, x.1⟩

def Earlier (a b : Bytes × Nat) : Prop := timestamp a.1 ≤ timestamp b.1

/-- Of two samples with one time, the first was pushed before. -/
def InTurn (a b : Bytes × Nat) : Prop := timestamp a.1 = timestamp b.1 → a.2 < b.2

/-- `out` has been returned and `left` waits. -/
structure Tracks (m : Merge) (events : List (Event readers)) (out left : List (Bytes × Nat)) : Prop where
  numbered : (out ++ left).Perm m.pushed.zipIdx
  increasing : left.Pairwise (·.2 < ·.2)
  pending : m.order.pending.Perm (left.map entry)
  returned : m.returned = out.map Prod.fst
  sequence : m.order.nextSequence = m.pushed.length % 2 ^ 64
  count : m.order.readerWatermarks.length = readers
  sent : ∀ (reader : Fin readers) (w : Nat), m.order.readerWatermarks[reader.val]? = some (some w) →
    .watermark reader w ∈ events
  passed : ∀ a ∈ out, ∀ watermark ∈ m.order.readerWatermarks, ∃ w, watermark = some w ∧ timestamp a.1 ≤ w
  earlier : Ahead Earlier out left
  inTurn : NoWrap m.pushed → Ahead InTurn out left

theorem Tracks.start (readers maxPendingSamples : Nat) :
    Tracks (Merge.start readers maxPendingSamples) ([] : List (Event readers)) [] [] where
  numbered := .refl _
  increasing := .nil
  pending := .refl _
  returned := rfl
  sequence := rfl
  count := length_replicate
  sent := by
    intro reader w h
    have hnone := eq_of_mem_replicate (mem_of_getElem? h)
    cases hnone
  passed := nofun
  earlier := .nil _
  inTurn := fun _ => .nil _

theorem noWrap_of_snoc {pushed : List Bytes} {sample : Bytes} (h : NoWrap (pushed ++ [sample])) : NoWrap pushed := by
  have hmem : ∀ a ∈ pushed.zipIdx, a ∈ (pushed ++ [sample]).zipIdx := by
    intro a ha
    rw [zipIdx_append]
    exact mem_append_left _ ha
  exact fun a ha b hb => h a (hmem a ha) b (hmem b hb)

namespace Tracks

variable {m : Merge} {events : List (Event readers)} {out left : List (Bytes × Nat)}

section

variable (h : Tracks m events out left)
include h

/-- What has been returned is earlier than what any reader may still push. -/
theorem lt_of_push {reader : Fin readers} {sample : Bytes}
    (hpaced : ∀ e ∈ events, Paced e (.push reader sample)) : ∀ a ∈ out, timestamp a.1 < timestamp sample := by
  intro a ha
  have hreader : reader.val < m.order.readerWatermarks.length := by
    rw [h.count]
    exact reader.isLt
  obtain ⟨w, hw, hle⟩ := h.passed a ha _ (getElem_mem hreader)
  have hsent := h.sent reader w (by rw [List.getElem?_eq_getElem hreader, hw])
  exact Nat.lt_of_le_of_lt hle (hpaced _ hsent rfl)

theorem push {reader : Fin readers} {sample : Bytes}
    (hroom : m.order.pending.length < m.order.maxPendingSamples)
    (hpaced : ∀ e ∈ events, Paced e (.push reader sample)) :
    Tracks (m.step (.push reader sample)) (events ++ [.push reader sample]) out
      (left ++ [(sample, m.pushed.length)]) := by
  have hlt := h.lt_of_push hpaced
  have hbound : ∀ a ∈ left, a.2 < m.pushed.length := by
    intro a ha
    have hmem := h.numbered.mem_iff.mp (mem_append_right _ ha)
    exact snd_lt_of_mem_zipIdx hmem
  have hstep : m.step (.push reader sample) = { m with
      order := { m.order with
        pending := m.order.pending ++ [⟨timestamp sample, m.order.nextSequence, sample⟩]
        nextSequence := (m.order.nextSequence + 1) % 2 ^ 64 }
      pushed := m.pushed ++ [sample] } := by
    rw [Merge.step, pushSample_of_room hroom]
  rw [hstep]
  exact { h with
    numbered := by
      rw [← append_assoc, zipIdx_append, Nat.zero_add]
      exact h.numbered.append_right _
    increasing := by
      refine pairwise_append.mpr ⟨h.increasing, pairwise_singleton _ _, fun a ha b hb => ?_⟩
      rw [mem_singleton.mp hb]
      exact hbound a ha
    pending := by
      rw [map_append, h.sequence]
      exact h.pending.append_right _
    sequence := by
      rw [length_append, length_singleton, h.sequence, Nat.mod_add_mod]
    sent := fun reader w hw => mem_append_left _ (h.sent reader w hw)
    earlier := h.earlier.push fun a ha => Nat.le_of_lt (hlt a ha)
    inTurn := fun hwrap => (h.inTurn (noWrap_of_snoc hwrap)).push fun a ha heq => absurd heq (Nat.ne_of_lt (hlt a ha)) }

theorem watermark (reader : Fin readers) (time : Nat) :
    Tracks (m.step (.watermark reader time)) (events ++ [.watermark reader time]) out left where
  __ := h
  count := (length_modify ..).trans h.count
  sent := by
    intro other w hw
    rw [Merge.step, updateWatermark, List.getElem?_modify] at hw
    obtain ⟨watermark, hold, hnew⟩ := Option.map_eq_some_iff.mp hw
    by_cases hreader : reader.val = other.val
    · obtain rfl := Fin.eq_of_val_eq hreader
      rw [if_pos rfl] at hnew
      -- the new watermark is the one that is sent or the one that was there
      rcases watermark with _ | current
      · obtain rfl : time = w := Option.some.inj hnew
        exact mem_append_right _ mem_cons_self
      · obtain rfl : max current time = w := Option.some.inj hnew
        rcases Nat.le_total current time with hle | hle
        · rw [Nat.max_eq_right hle]
          exact mem_append_right _ mem_cons_self
        · rw [Nat.max_eq_left hle]
          exact mem_append_left _ (h.sent reader current hold)
    · rw [if_neg hreader] at hnew
      rw [hnew] at hold
      exact mem_append_left _ (h.sent other w hold)
  passed := by
    intro a ha watermark hmem
    obtain ⟨i, hi⟩ := mem_iff_getElem?.mp hmem
    rw [Merge.step, updateWatermark, List.getElem?_modify] at hi
    obtain ⟨old, hold, hnew⟩ := Option.map_eq_some_iff.mp hi
    obtain ⟨w, rfl, hle⟩ := h.passed a ha old (mem_of_getElem? hold)
    split at hnew
    · exact ⟨max w time, hnew.symm, hle.trans (Nat.le_max_left w time)⟩
    · exact ⟨w, hnew.symm, hle⟩

/-- The queue and the samples that wait agree on which of them is the next. -/
theorem exists_oldest {oldest : PendingProtocolSample}
    {rest : List PendingProtocolSample}
    (hpop : popLeast PendingProtocolSample.key m.order.pending = some (oldest, rest)) :
    ∃ x left', left.Perm (x :: left') ∧ left'.Sublist left ∧ oldest = entry x ∧ rest.Perm (left'.map entry) ∧
      ∀ b ∈ left', Earlier x b ∧ (NoWrap m.pushed → InTurn x b) := by
  have hperm := popLeast_perm hpop
  have hmem : oldest ∈ left.map entry := h.pending.mem_iff.mp (hperm.mem_iff.mpr mem_cons_self)
  obtain ⟨x, hx, rfl⟩ := mem_map.mp hmem
  have hleft : left.Perm (x :: left.erase x) := perm_cons_erase hx
  have hrest : rest.Perm ((left.erase x).map entry) :=
    (hperm.symm.trans (h.pending.trans (hleft.map entry))).cons_inv
  refine ⟨x, left.erase x, hleft, erase_sublist, rfl, hrest, fun b hb => ?_⟩
  have hbleft : b ∈ left := mem_of_mem_erase hb
  have hkey := popLeast_le hpop (entry b) (h.pending.mem_iff.mpr (mem_map_of_mem hbleft))
  have hlex : timestamp x.1 < timestamp b.1 ∨ timestamp x.1 = timestamp b.1 ∧ x.2 % 2 ^ 64 ≤ b.2 % 2 ^ 64 :=
    Prod.Lex.toLex_le_toLex.mp hkey
  refine ⟨?_, fun hwrap heq => ?_⟩
  · rcases hlex with hlt | ⟨heq, -⟩
    · exact Nat.le_of_lt hlt
    · exact Nat.le_of_eq heq
  · have hnumbered : ∀ y ∈ left, y ∈ m.pushed.zipIdx :=
      fun y hy => h.numbered.mem_iff.mp (mem_append_right _ hy)
    have hblock := hwrap x (hnumbered x hx) b (hnumbered b hbleft) heq
    have hne : x.2 ≠ b.2 := by
      have hdistinct : (x :: left.erase x).Pairwise fun a b => a.2 ≠ b.2 :=
        hleft.pairwise (h.increasing.imp fun hlt => Nat.ne_of_lt hlt) Ne.symm
      exact (pairwise_cons.mp hdistinct).1 b hb
    rcases hlex with hlt | ⟨-, hle⟩
    · exact absurd heq (Nat.ne_of_lt hlt)
    · have hx := Nat.div_add_mod x.2 (2 ^ 64)
      omega

theorem popReady :
    ∃ out' left', Tracks (m.step (.popReady : Event readers)) (events ++ [.popReady]) out' left' := by
  have hsent : ∀ (reader : Fin readers) (w : Nat), m.order.readerWatermarks[reader.val]? = some (some w) →
      .watermark reader w ∈ events ++ [.popReady] := fun reader w hw => mem_append_left _ (h.sent reader w hw)
  rcases m.order.popReady_eq with hnone | ⟨oldest, rest, w, hpop, hw, hle, hsome⟩
  · have hstep : m.step (.popReady : Event readers) = m := by
      rw [Merge.step, hnone, Option.toList_none, append_nil]
    rw [hstep]
    exact ⟨out, left, { h with sent := hsent }⟩
  obtain ⟨x, left', hleft, hsublist, rfl, hrest, hahead⟩ := h.exists_oldest hpop
  have hstep : m.step (.popReady : Event readers) =
      { m with order := { m.order with pending := rest }, returned := m.returned ++ [x.1] } := by
    rw [Merge.step, hsome]
    rfl
  rw [hstep]
  refine ⟨out ++ [x], left', ?_⟩
  exact { h with
    numbered := by
      rw [append_assoc]
      exact (hleft.symm.append_left out).trans h.numbered
    increasing := h.increasing.sublist hsublist
    pending := hrest
    returned := by rw [map_append, ← h.returned]; rfl
    sent := hsent
    passed := by
      intro a ha watermark hmem
      rcases mem_append.mp ha with ha | ha
      · exact h.passed a ha watermark hmem
      · obtain ⟨v, rfl, hv⟩ := globalWatermark_le hw watermark hmem
        rw [mem_singleton.mp ha]
        exact ⟨v, rfl, hle.trans hv⟩
    earlier := h.earlier.pop hleft fun b hb => (hahead b hb).1
    inTurn := fun hwrap => (h.inTurn hwrap).pop hleft fun b hb => (hahead b hb).2 hwrap }

theorem step {e : Event readers} (hroom : m.HasRoom e)
    (hpaced : ∀ e' ∈ events, Paced e' e) : ∃ out' left', Tracks (m.step e) (events ++ [e]) out' left' := by
  cases e with
  | push reader sample => exact ⟨_, _, h.push hroom hpaced⟩
  | watermark reader time => exact ⟨_, _, h.watermark reader time⟩
  | popReady => exact h.popReady

/-- The induction is on the events to come; those in `events` are done. -/
theorem run {coming : List (Event readers)}
    (hpaced : (events ++ coming).Pairwise Paced) (hroom : Along Merge.step Merge.HasRoom m coming) :
    ∃ out' left', Tracks (coming.foldl Merge.step m) (events ++ coming) out' left' := by
  induction coming generalizing m events out left with
  | nil =>
    rw [append_nil]
    exact ⟨out, left, h⟩
  | cons e coming ih =>
    have hbefore : ∀ e' ∈ events, Paced e' e := fun e' he' =>
      (pairwise_append.mp hpaced).2.2 e' he' e mem_cons_self
    obtain ⟨out', left', hnext⟩ := h.step hroom.1 hbefore
    rw [append_cons] at hpaced ⊢
    exact ih hnext hpaced hroom.2

/-! ## What comes out -/

theorem stable (hwrap : NoWrap m.pushed) (time : Nat) :
    (m.returned.filter fun s => timestamp s = time) <+: m.pushed.filter fun s => timestamp s = time := by
  let p : Bytes × Nat → Bool := fun x => timestamp x.1 = time
  have hfst : ∀ l : List (Bytes × Nat),
      ((l.map Prod.fst).filter fun s => timestamp s = time) = (l.filter p).map Prod.fst := fun l => filter_map
  have htime : ∀ {l : List (Bytes × Nat)} {a}, a ∈ l.filter p → timestamp a.1 = time :=
    fun ha => of_decide_eq_true (mem_filter.mp ha).2
  obtain ⟨hordered, hahead⟩ := h.inTurn hwrap
  have houtSorted : (out.filter p ++ left.filter p).Pairwise fun a b => a.2 < b.2 := by
    refine pairwise_append.mpr ⟨?_, h.increasing.filter p, fun a ha b hb => ?_⟩
    · refine (hordered.filter p).imp_of_mem fun ha hb hturn => ?_
      exact hturn ((htime ha).trans (htime hb).symm)
    · exact hahead a (mem_filter.mp ha).1 b (mem_filter.mp hb).1 ((htime ha).trans (htime hb).symm)
  have hpushedSorted : (m.pushed.zipIdx.filter p).Pairwise fun a b => a.2 < b.2 := by
    refine List.Pairwise.filter p ?_
    have hplaces : (m.pushed.zipIdx.map Prod.snd).Pairwise (· < ·) := by
      rw [zipIdx_map_snd]
      exact pairwise_lt_range'
    exact pairwise_map.mp hplaces
  have hperm : (out.filter p ++ left.filter p).Perm (m.pushed.zipIdx.filter p) := by
    rw [← filter_append]
    exact h.numbered.filter p
  -- both are the same elements by their places
  have hsame : out.filter p ++ left.filter p = m.pushed.zipIdx.filter p :=
    hperm.eq_of_pairwise (fun a b _ _ hab hba => absurd hab (Nat.lt_asymm hba)) houtSorted hpushedSorted
  have hpushed : (m.pushed.filter fun s => timestamp s = time) = (m.pushed.zipIdx.filter p).map Prod.fst := by
    rw [← hfst, zipIdx_map_fst]
  rw [h.returned, hfst, hpushed, ← hsame, map_append]
  exact prefix_append _ _

theorem merged : m.Merged where
  sorted := by
    rw [h.returned, map_map]
    exact pairwise_map.mpr h.earlier.ordered
  stable := h.stable
  lossless := by
    have hsample : (left.map entry).map PendingProtocolSample.sample = left.map Prod.fst := by
      rw [map_map]
      rfl
    have hdrained := (m.order.drain_perm.trans (h.pending.map _))
    rw [hsample] at hdrained
    have hall := h.numbered.map Prod.fst
    rw [map_append, zipIdx_map_fst] at hall
    rw [h.returned]
    exact (hdrained.append_left _).trans hall

end

end Tracks

theorem merged_of_paced {readers maxPendingSamples : Nat} {events : List (Event readers)}
    (hpaced : events.Pairwise Paced)
    (hroom : Along Merge.step Merge.HasRoom (Merge.start readers maxPendingSamples) events) :
    (events.foldl Merge.step (Merge.start readers maxPendingSamples)).Merged := by
  obtain ⟨out, left, h⟩ := (Tracks.start readers maxPendingSamples).run hpaced hroom
  exact h.merged

def sampleAt (time : Nat) (payload : UInt8) : Bytes :=
  List.replicate 80 0 ++ (leBytes 8 time ++ List.replicate 296 payload)

/-- The second reader delivers first, with the later sample. -/
def twoReaders : List (Event 2) :=
  [.push 1 (sampleAt 300 0), .watermark 1 400, .popReady, .push 0 (sampleAt 100 0), .watermark 0 400, .popReady,
    .popReady]

theorem merged_of_paced_twoReaders :
    (twoReaders.foldl Merge.step (Merge.start 2 8)).Merged ∧
      (twoReaders.foldl Merge.step (Merge.start 2 8)).returned = [sampleAt 100 0, sampleAt 300 0] :=
  ⟨merged_of_paced (by decide +kernel) (by decide +kernel), by decide +kernel⟩

/-! ## A new start of the numbers -/

theorem timestamp_sampleAt {time : Nat} (h : time < 2 ^ 64) (payload : UInt8) :
    timestamp (sampleAt time payload) = time := by
  have hlength : (sampleAt time payload).length = 384 := by
    simp only [sampleAt, length_append, length_replicate, length_leBytes]
  have hdrop : (sampleAt time payload).drop timestampOffset = leBytes 8 time ++ List.replicate 296 payload :=
    drop_left' length_replicate
  rw [timestamp, protocolSampleTimestamp, hlength, if_pos (by decide), hdrop, take_left' (length_leBytes 8 time),
    leNat_leBytes]
  exact Nat.mod_eq_of_lt h

/-- One sample after the other, each taken out before the next. -/
def round (k : Nat) : List (Event 1) := [.push 0 (sampleAt k 0), .watermark 0 k, .popReady]

def rounds : Nat → List (Event 1)
  | 0 => []
  | k + 1 => rounds k ++ round k

/-- The merge between two rounds. -/
def idle (k : Nat) : Merge where
  order := {
    readerWatermarks := [match k with | 0 => none | k + 1 => some k]
    nextSequence := k % 2 ^ 64
    maxPendingSamples := 8 }
  pushed := (List.range k).map (sampleAt · 0)
  returned := (List.range k).map (sampleAt · 0)

theorem room_idle (k : Nat) : (idle k).order.pending.length < (idle k).order.maxPendingSamples := Nat.succ_pos 7

theorem popReady_singleton {order : ProtocolSampleOrder} {only : PendingProtocolSample} {w : Nat}
    (hpending : order.pending = [only]) (hreaders : order.readerWatermarks = [some w])
    (hle : only.timestampMonotonicNanos ≤ w) :
    order.popReady = ({ order with pending := [] }, some only.sample) := by
  have hglobal : order.globalWatermark = some w := by rw [globalWatermark, hreaders]; rfl
  rw [popReady, hglobal, hpending, argmin_singleton]
  simp only [if_pos hle, popOldest, popLeast, hpending, argmin_singleton, Option.map_some,
    erase_cons_head]

theorem updateWatermark_idle (k : Nat) : ((idle k).order.updateWatermark 0 k).readerWatermarks = [some k] := by
  rcases k with _ | k
  · rfl
  · show [some (max k (k + 1))] = _
    rw [Nat.max_eq_right (Nat.le_succ k)]

theorem step_push {m : Merge} (hroom : m.order.pending.length < m.order.maxPendingSamples) (hk : k < 2 ^ 64)
    (payload : UInt8) : m.step (.push 0 (sampleAt k payload) : Event 1) = { m with
      order := { m.order with
        pending := m.order.pending ++ [⟨k, m.order.nextSequence, sampleAt k payload⟩]
        nextSequence := (m.order.nextSequence + 1) % 2 ^ 64 }
      pushed := m.pushed ++ [sampleAt k payload] } := by
  rw [Merge.step, pushSample_of_room hroom, timestamp_sampleAt hk]

/-- A sample is pushed into the queue and the reader gets to its time. -/
theorem step_push_watermark (hk : k < 2 ^ 64) :
    ((idle k).step (.push 0 (sampleAt k 0) : Event 1)).step (.watermark 0 k : Event 1) = {
      order := {
        readerWatermarks := [some k]
        pending := [⟨k, k % 2 ^ 64, sampleAt k 0⟩]
        nextSequence := (k + 1) % 2 ^ 64
        maxPendingSamples := 8 }
      pushed := (idle (k + 1)).pushed
      returned := (idle k).returned } := by
  have hpushed : (idle (k + 1)).pushed = (idle k).pushed ++ [sampleAt k 0] := by
    simp only [idle, range_succ, map_append, map_cons, map_nil]
  have hsequence : ((idle k).order.nextSequence + 1) % 2 ^ 64 = (k + 1) % 2 ^ 64 := Nat.mod_add_mod k _ 1
  rw [step_push (room_idle k) hk, hsequence, ← hpushed]
  exact congrArg (fun watermarks => Merge.mk ⟨watermarks, _, _, _⟩ _ _) (updateWatermark_idle k)

theorem foldl_round (hk : k < 2 ^ 64) : (round k).foldl Merge.step (idle k) = idle (k + 1) := by
  have hreturned : (idle (k + 1)).returned = (idle k).returned ++ [sampleAt k 0] := by
    simp only [idle, range_succ, map_append, map_cons, map_nil]
  simp only [round, foldl_cons, foldl_nil]
  rw [step_push_watermark hk, Merge.step, popReady_singleton rfl rfl (Nat.le_refl k)]
  simp only [Option.toList_some, ← hreturned]
  rfl

theorem foldl_rounds (hk : k ≤ 2 ^ 64) : (rounds k).foldl Merge.step (Merge.start 1 8) = idle k := by
  induction k with
  | zero => rfl
  | succ k ih =>
    rw [rounds, foldl_append, ih (Nat.le_of_succ_le hk)]
    exact foldl_round hk

theorem along_rounds (hk : k ≤ 2 ^ 64) : Along Merge.step Merge.HasRoom (Merge.start 1 8) (rounds k) := by
  induction k with
  | zero => exact trivial
  | succ k ih =>
    refine along_append.mpr ⟨ih (Nat.le_of_succ_le hk), ?_⟩
    rw [foldl_rounds (Nat.le_of_succ_le hk)]
    refine ⟨?_, trivial, trivial, trivial⟩
    show 0 < 8
    decide

/-- The events of the rounds send watermarks before the time of the next. -/
theorem paced_rounds_push {j : Nat} (hj : j < 2 ^ 64) (hkj : k ≤ j) (payload : UInt8) :
    ∀ e ∈ rounds k, Paced e (.push 0 (sampleAt j payload)) := by
  induction k with
  | zero => exact nofun
  | succ k ih =>
    intro e he
    rcases mem_append.mp he with he | he
    · exact ih (Nat.le_of_succ_le hkj) e he
    · simp only [round, mem_cons, not_mem_nil, or_false] at he
      rcases he with rfl | rfl | rfl
      · exact trivial
      · intro _
        rw [timestamp_sampleAt hj]
        exact hkj
      · exact trivial

theorem paced_watermark (e : Event readers) (reader : Fin readers) (time : Nat) : Paced e (.watermark reader time) := by
  cases e <;> exact trivial

theorem paced_popReady (e : Event readers) : Paced e .popReady := by
  cases e <;> exact trivial

theorem pairwise_round (k : Nat) : (round k).Pairwise Paced := by
  refine pairwise_cons.mpr ⟨fun e _ => ?_, pairwise_pair.mpr trivial⟩
  exact trivial

theorem pairwise_rounds (hk : k ≤ 2 ^ 64) : (rounds k).Pairwise Paced := by
  induction k with
  | zero => exact .nil
  | succ k ih =>
    refine pairwise_append.mpr ⟨ih (Nat.le_of_succ_le hk), pairwise_round k, fun e' he' e he => ?_⟩
    simp only [round, mem_cons, not_mem_nil, or_false] at he
    rcases he with rfl | rfl | rfl
    · exact paced_rounds_push hk (Nat.le_refl k) 0 e' he'
    · exact paced_watermark e' 0 k
    · exact paced_popReady e'

/-- Two samples of one time: the first has the last number, the second the number zero. -/
def wrapRound (k : Nat) : List (Event 1) :=
  [.push 0 (sampleAt k 1), .push 0 (sampleAt k 2), .watermark 0 k, .popReady]

theorem argmin_pair {α κ : Type} [LinearOrder κ] {key : α → κ} {a b : α} (h : key b < key a) :
    [a, b].argmin key = some b := by
  simp only [List.argmin, foldl_cons, foldl_nil, List.argAux, h, if_true]

/-- The merge when both of them wait. -/
def wrapped (k : Nat) : Merge where
  order := {
    readerWatermarks := [some k]
    pending := [⟨k, k, sampleAt k 1⟩, ⟨k, 0, sampleAt k 2⟩]
    nextSequence := 1
    maxPendingSamples := 8 }
  pushed := (idle k).pushed ++ [sampleAt k 1] ++ [sampleAt k 2]
  returned := (idle k).returned

theorem foldl_wrapRound (hk : k + 1 = 2 ^ 64) :
    (wrapRound k).foldl Merge.step (idle k) = (wrapped k).step (.popReady : Event 1) := by
  have hlt : k < 2 ^ 64 := Nat.lt_of_succ_le (Nat.le_of_eq hk)
  have hsequence : (idle k).order.nextSequence = k := Nat.mod_eq_of_lt hlt
  have hzero : (k + 1) % 2 ^ 64 = 0 := by rw [hk, Nat.mod_self]
  refine congrArg (Merge.step · (.popReady : Event 1)) ?_
  rw [step_push (room_idle k) hlt, hsequence, hzero]
  refine (congrArg (Merge.step · (.watermark 0 k : Event 1)) (step_push ?_ hlt 2)).trans ?_
  · exact Nat.succ_lt_succ (Nat.succ_pos 6)
  · exact congrArg (fun watermarks => Merge.mk ⟨watermarks, _, _, _⟩ _ _) (updateWatermark_idle k)

/-- The second of the two is returned first. -/
theorem step_wrapped (hk : 0 < k) :
    ((wrapped k).step (.popReady : Event 1)).returned = (idle k).returned ++ [sampleAt k 2] ∧
      ((wrapped k).step (.popReady : Event 1)).pushed = (idle k).pushed ++ [sampleAt k 1] ++ [sampleAt k 2] := by
  have hless : PendingProtocolSample.key ⟨k, 0, sampleAt k 2⟩ < PendingProtocolSample.key ⟨k, k, sampleAt k 1⟩ :=
    Prod.Lex.toLex_lt_toLex.mpr (.inr ⟨rfl, hk⟩)
  have holdest : (wrapped k).order.pending.argmin PendingProtocolSample.key = some ⟨k, 0, sampleAt k 2⟩ :=
    argmin_pair hless
  have hpop : (wrapped k).order.popReady.2 = some (sampleAt k 2) := by
    have hglobal : (wrapped k).order.globalWatermark = some k := rfl
    rw [popReady, hglobal, holdest]
    simp only [Nat.le_refl, if_true, popOldest, popLeast, holdest, Option.map_some]
  refine ⟨?_, rfl⟩
  rw [Merge.step, hpop]
  rfl

theorem filter_idle (hk : k < 2 ^ 64) : (idle k).pushed.filter (fun s => timestamp s = k) = [] := by
  refine filter_eq_nil_iff.mpr fun s hs => ?_
  obtain ⟨j, hj, rfl⟩ := mem_map.mp hs
  have hjk := mem_range.mp hj
  rw [timestamp_sampleAt (Nat.lt_trans hjk hk), decide_eq_true_eq]
  exact Nat.ne_of_lt hjk

theorem pairwise_wrapEvents (hk : k < 2 ^ 64) : (rounds k ++ wrapRound k).Pairwise Paced := by
  refine pairwise_append.mpr ⟨pairwise_rounds (Nat.le_of_lt hk), ?_, fun e' he' e he => ?_⟩
  · exact pairwise_cons.mpr ⟨fun _ _ => trivial, pairwise_cons.mpr ⟨fun _ _ => trivial,
      pairwise_pair.mpr trivial⟩⟩
  · simp only [wrapRound, mem_cons, not_mem_nil, or_false] at he
    rcases he with rfl | rfl | rfl | rfl
    · exact paced_rounds_push hk (Nat.le_refl k) 1 e' he'
    · exact paced_rounds_push hk (Nat.le_refl k) 2 e' he'
    · exact paced_watermark e' 0 k
    · exact paced_popReady e'

theorem along_wrapEvents (hk : k < 2 ^ 64) :
    Along Merge.step Merge.HasRoom (Merge.start 1 8) (rounds k ++ wrapRound k) := by
  refine along_append.mpr ⟨along_rounds (Nat.le_of_lt hk), ?_⟩
  rw [foldl_rounds (Nat.le_of_lt hk)]
  refine ⟨room_idle k, ?_, trivial, trivial, trivial⟩
  exact Nat.succ_lt_succ (Nat.succ_pos 6)

theorem swapped_of_wrap (hk : k + 1 = 2 ^ 64) :
    ¬ ((((rounds k ++ wrapRound k).foldl Merge.step (Merge.start 1 8)).returned.filter fun s => timestamp s = k) <+:
      ((rounds k ++ wrapRound k).foldl Merge.step (Merge.start 1 8)).pushed.filter fun s => timestamp s = k) := by
  have hlt : k < 2 ^ 64 := Nat.lt_of_succ_le (Nat.le_of_eq hk)
  have hpos : 0 < k := by omega
  obtain ⟨hreturned, hpushed⟩ := step_wrapped hpos
  have hsame : (idle k).returned = (idle k).pushed := rfl
  rw [foldl_append, foldl_rounds (Nat.le_of_lt hlt), foldl_wrapRound hk, hreturned, hpushed, hsame]
  simp only [filter_append, filter_idle hlt, nil_append, filter_cons, timestamp_sampleAt hlt,
    decide_true, if_true, filter_nil, cons_append, cons_prefix_cons]
  rintro ⟨hsample, -⟩
  have hpayload := append_cancel_left (append_cancel_left hsample)
  exact absurd hpayload (by decide)

/-- Two samples of one time come out the other way round: the first is the last of `2 ^ 64` numbers. -/
theorem swapped_at_wrap :
    (rounds (2 ^ 64 - 1) ++ wrapRound (2 ^ 64 - 1)).Pairwise Paced ∧
      Along Merge.step Merge.HasRoom (Merge.start 1 8) (rounds (2 ^ 64 - 1) ++ wrapRound (2 ^ 64 - 1)) ∧
      ¬ ∀ time, (((rounds (2 ^ 64 - 1) ++ wrapRound (2 ^ 64 - 1)).foldl Merge.step (Merge.start 1 8)).returned.filter
        fun s => timestamp s = time) <+:
          ((rounds (2 ^ 64 - 1) ++ wrapRound (2 ^ 64 - 1)).foldl Merge.step (Merge.start 1 8)).pushed.filter
            fun s => timestamp s = time := by
  have hk : (2 ^ 64 - 1) + 1 = 2 ^ 64 := rfl
  generalize 2 ^ 64 - 1 = k at hk ⊢
  have hlt : k < 2 ^ 64 := Nat.lt_of_succ_le (Nat.le_of_eq hk)
  exact ⟨pairwise_wrapEvents hlt, along_wrapEvents hlt, fun h => swapped_of_wrap hk (h k)⟩

end ENavigator.Samples
