import Mathlib.Algebra.GroupWithZero.Nat
import Mathlib.Data.List.Chain
import ENavigator.Stream.Decoder

/-!
# Splicing captured segments

One system call is captured as several segments that share its timestamp, its captured length and its
total length. `feedSegment` pushes the segments it receives into the decoder and a gap for each part it
believes lost, and remembers how far the system call has come (`SegmentProgress`). Everything it does
to the decoder is a list of pushes (`segmentPushes`), so a run of it is the decoder's run over the
log of these pushes (`feedSegments_eq`), and a payload's place in the stream is the sum of the pushes
before it (`payloadOffsets`).

`payloadOffsets_eq_iff` says exactly when every payload is pushed at its true offset. Two neighbours
among the delivered segments are spliced right (`Spliced`) when

* they belong to one system call and nothing between them was lost: otherwise the rest of the call is
  accounted and then the lost start is accounted again, one total length too much;
* or they belong to different calls and the second cannot be taken for the continuation of the first:
  otherwise nothing is accounted, one total length too little.
-/

namespace ENavigator.Stream

open List

structure SegmentProgress where
  timestampUnixNanos : Nat
  nextOffset : Nat
  capturedLen : Nat
  totalLen : Nat
  deriving DecidableEq, Repr

/-- What `feed_segment` reads of a `RawProtocolDataEvent`, with its payload. -/
structure RawSegment where
  timestampUnixNanos : Nat
  payloadOffset : Nat
  payloadCapturedLen : Nat
  payloadTotalLen : Nat
  payload : Bytes
  deriving DecidableEq, Repr

variable (pending : Option SegmentProgress) (raw : RawSegment)

namespace RawSegment

def segmentEnd : Nat := raw.payloadOffset + raw.payload.length

def isFinal : Bool := raw.segmentEnd ≥ raw.payloadCapturedLen

/-- The final segment carries the uncaptured tail of the system call. -/
def chunkTotalLen : Nat :=
  if raw.isFinal then raw.payload.length + (raw.payloadTotalLen - raw.payloadCapturedLen)
  else raw.payload.length

def progress : Option SegmentProgress :=
  if raw.isFinal then none
  else some
    { timestampUnixNanos := raw.timestampUnixNanos
      nextOffset := raw.segmentEnd
      capturedLen := raw.payloadCapturedLen
      totalLen := raw.payloadTotalLen }

end RawSegment

def SegmentProgress.continuedBy (p : SegmentProgress) (raw : RawSegment) : Bool :=
  raw.timestampUnixNanos == p.timestampUnixNanos && raw.payloadOffset == p.nextOffset
    && raw.payloadCapturedLen == p.capturedLen && raw.payloadTotalLen == p.totalLen

/-- One call of `push_chunk`; `isPayload` tells a delivered segment from a gap. -/
structure Push where
  captured : Bytes
  totalLen : Nat
  isPayload : Bool
  deriving DecidableEq, Repr

def Push.gap (len : Nat) : Push := ⟨[], len, false⟩

/-- The gaps accounted before a segment is pushed. -/
def segmentGaps : List Push :=
  if pending.any (·.continuedBy raw) then []
  else (pending.map fun p => Push.gap (p.totalLen - p.nextOffset)).toList
    ++ (if raw.payloadOffset > 0 then [Push.gap raw.payloadOffset] else [])

def segmentPushes : List Push :=
  segmentGaps pending raw ++ [⟨raw.payload, raw.chunkTotalLen, true⟩]

/-- The decoder of one direction with its segment progress and gap counter. -/
structure SegmentFeed where
  decoder : ProtocolStreamDecoder
  pending : Option SegmentProgress
  segmentGaps : Nat

def pushAll [Base64] (d : ProtocolStreamDecoder) : List Push → ProtocolStreamDecoder × List StreamFrame
  | [] => (d, [])
  | p :: ps =>
    let (d, frames) := d.pushChunk p.captured p.totalLen
    let (d, more) := pushAll d ps
    (d, frames ++ more)

def feedSegment [Base64] (s : SegmentFeed) (raw : RawSegment) : SegmentFeed × List StreamFrame :=
  let (decoder, frames) := pushAll s.decoder (segmentPushes s.pending raw)
  ({ decoder := decoder
     pending := raw.progress
     segmentGaps := s.segmentGaps + (segmentGaps s.pending raw).length }, frames)

/-! ## Runs -/

def feedSegments [Base64] (s : SegmentFeed) : List RawSegment → SegmentFeed × List StreamFrame
  | [] => (s, [])
  | raw :: rest =>
    let (s, frames) := feedSegment s raw
    let (s, more) := feedSegments s rest
    (s, frames ++ more)

/-- Every push a run makes, in order. -/
def pushLog (pending : Option SegmentProgress) : List RawSegment → List Push
  | [] => []
  | raw :: rest => segmentPushes pending raw ++ pushLog raw.progress rest

/-- The stream offset at which each delivered segment is pushed: the sum of all pushes before it. -/
def payloadOffsets (position : Nat) : List Push → List Nat
  | [] => []
  | p :: ps =>
    if p.isPayload then position :: payloadOffsets (position + p.totalLen) ps
    else payloadOffsets (position + p.totalLen) ps

theorem pushAll_append [Base64] (d : ProtocolStreamDecoder) (ps qs : List Push) :
    pushAll d (ps ++ qs) = ((pushAll (pushAll d ps).1 qs).1, (pushAll d ps).2 ++ (pushAll (pushAll d ps).1 qs).2) := by
  induction ps generalizing d with
  | nil => rfl
  | cons p ps ih =>
    simp only [cons_append, pushAll]
    rw [ih]
    simp only [append_assoc]

/-- **A run is the decoder's run over the log of its pushes.** -/
theorem feedSegments_eq [Base64] (s : SegmentFeed) (raws : List RawSegment) :
    (feedSegments s raws).1.decoder = (pushAll s.decoder (pushLog s.pending raws)).1 ∧
      (feedSegments s raws).2 = (pushAll s.decoder (pushLog s.pending raws)).2 := by
  induction raws generalizing s with
  | nil => exact ⟨rfl, rfl⟩
  | cons raw rest ih =>
    obtain ⟨hd, hf⟩ := ih (feedSegment s raw).1
    rw [pushLog, pushAll_append]
    refine ⟨hd, ?_⟩
    show (feedSegment s raw).2 ++ (feedSegments (feedSegment s raw).1 rest).2 = _
    rw [hf]
    rfl

/-! ## Delivered system calls -/

/-- A captured system call, its captured bytes cut into segments. -/
structure Syscall where
  timestamp : Nat
  total : Nat
  pieces : List Bytes
  pieces_small : ∀ p ∈ pieces, p.length ≤ 256
  pieces_cut : pieces = [[]] ∨ ∀ p ∈ pieces, p ≠ []
  captured_le : pieces.flatten.length ≤ total

def Syscall.segmentsFrom (call : Syscall) (offset : Nat) : List Bytes → List RawSegment
  | [] => []
  | p :: ps =>
    { timestampUnixNanos := call.timestamp
      payloadOffset := offset
      payloadCapturedLen := call.pieces.flatten.length
      payloadTotalLen := call.total
      payload := p } :: call.segmentsFrom (offset + p.length) ps

def Syscall.segments (call : Syscall) : List RawSegment := call.segmentsFrom 0 call.pieces

/-- A system call of which some segments, at least one, were delivered in order. -/
structure Delivery where
  call : Syscall
  delivered : List RawSegment
  sublist : delivered.Sublist call.segments
  nonempty : delivered ≠ []

/-- A delivered segment with the number of its system call and the stream offset where that starts. -/
structure Located where
  index : Nat
  base : Nat
  raw : RawSegment

def Located.trueOffset (l : Located) : Nat := l.base + l.raw.payloadOffset

/-- The delivered segments of all system calls, in order; `base` sums the calls before. -/
def locate (index base : Nat) : List Delivery → List Located
  | [] => []
  | d :: ds => d.delivered.map (Located.mk index base) ++ locate (index + 1) (base + d.call.total) ds

/-- Two neighbouring delivered segments that `feedSegment` puts where they belong. -/
def Spliced (a b : Located) : Prop :=
  if a.index = b.index then b.raw.payloadOffset = a.raw.segmentEnd
  else ¬ (a.raw.isFinal = false ∧ b.raw.timestampUnixNanos = a.raw.timestampUnixNanos
    ∧ b.raw.payloadOffset = a.raw.segmentEnd ∧ b.raw.payloadCapturedLen = a.raw.payloadCapturedLen
    ∧ b.raw.payloadTotalLen = a.raw.payloadTotalLen)

instance (a b : Located) : Decidable (Spliced a b) := inferInstanceAs (Decidable (ite _ _ _))

/-! ## Neighbours -/

/-- A segment that ends inside what was captured of its system call. -/
def RawSegment.Fits : Prop :=
  raw.segmentEnd ≤ raw.payloadCapturedLen ∧ raw.payloadCapturedLen ≤ raw.payloadTotalLen

/-- What holds between two neighbours: a later segment of the same call, or the next call. -/
def Follows (a b : Located) : Prop :=
  (a.index = b.index ∧ a.base = b.base ∧ a.raw.segmentEnd ≤ b.raw.payloadOffset
    ∧ b.raw.payloadOffset < a.raw.payloadCapturedLen
    ∧ b.raw.timestampUnixNanos = a.raw.timestampUnixNanos
    ∧ b.raw.payloadCapturedLen = a.raw.payloadCapturedLen
    ∧ b.raw.payloadTotalLen = a.raw.payloadTotalLen)
  ∨ (a.index + 1 = b.index ∧ b.base = a.base + a.raw.payloadTotalLen)

/-- Where the decoder stands once `a` was pushed at `position`. -/
def positionAfter (position : Nat) (a : RawSegment) : Nat := position + a.chunkTotalLen

theorem gaps_sum (position : Nat) (ps : List Push) : payloadOffsets position (segmentGaps pending raw ++ ps) =
      payloadOffsets (position + ((segmentGaps pending raw).map Push.totalLen).sum) ps := by
  have hgap : ∀ g ∈ segmentGaps pending raw, g.isPayload = false := by
    intro g hg
    unfold segmentGaps at hg
    split at hg
    · cases hg
    · rcases mem_append.mp hg with h | h
      · obtain ⟨p, -, rfl⟩ := Option.map_eq_some_iff.mp (Option.mem_toList.mp h)
        rfl
      · split at h
        · rw [mem_singleton.mp h]
          rfl
        · cases h
  generalize segmentGaps pending raw = gaps at hgap ⊢
  induction gaps generalizing position with
  | nil => simp
  | cons g gs ih =>
    rw [cons_append, payloadOffsets, if_neg (by simp [hgap g (by simp)]),
      ih _ (fun x hx => hgap x (by simp [hx]))]
    simp only [map_cons, sum_cons, Nat.add_assoc]

theorem payloadOffsets_pushLog_cons (position : Nat) (pending : Option SegmentProgress) (raw : RawSegment)
    (rest : List RawSegment) :
    payloadOffsets position (pushLog pending (raw :: rest)) =
      (position + ((segmentGaps pending raw).map Push.totalLen).sum) ::
        payloadOffsets (positionAfter (position + ((segmentGaps pending raw).map Push.totalLen).sum) raw)
          (pushLog raw.progress rest) := by
  rw [pushLog, segmentPushes, append_assoc, gaps_sum]
  rfl

theorem sum_leadingGap (n : Nat) : ((if n > 0 then [Push.gap n] else []).map Push.totalLen).sum = n := by
  split
  · simp [Push.gap]
  · simp only [map_nil, sum_nil]
    omega

theorem sum_segmentGaps_none : ((segmentGaps none raw).map Push.totalLen).sum = raw.payloadOffset :=
  sum_leadingGap raw.payloadOffset

/-- **One step.** With `a` pushed at its true offset, its follower is exactly if they are spliced. -/
theorem follower_offset_iff {a b : Located} (hfit : a.raw.Fits) (h : Follows a b) :
    positionAfter a.trueOffset a.raw + ((segmentGaps a.raw.progress b.raw).map Push.totalLen).sum
        = b.trueOffset ↔ Spliced a b := by
  obtain ⟨hend, hcap⟩ := hfit
  have hstart : a.raw.segmentEnd = a.raw.payloadOffset + a.raw.payload.length := rfl
  unfold positionAfter Located.trueOffset Spliced
  by_cases hfin : a.raw.isFinal
  · -- Nothing is pending, and the whole of the first call is accounted.
    have hge : a.raw.payloadCapturedLen ≤ a.raw.segmentEnd := by
      simpa [RawSegment.isFinal] using hfin
    have hgaps : ((segmentGaps a.raw.progress b.raw).map Push.totalLen).sum = b.raw.payloadOffset := by
      rw [RawSegment.progress, if_pos hfin]
      exact sum_segmentGaps_none b.raw
    simp only [RawSegment.chunkTotalLen, hfin, if_true]
    rcases h with ⟨hidx, hbase, hle, hlt, -⟩ | ⟨hidx, hbase⟩
    · omega
    · rw [if_neg (by omega)]
      simp only [Bool.true_eq_false, false_and, not_false_eq_true, iff_true]
      omega
  · have hlt : a.raw.segmentEnd < a.raw.payloadCapturedLen := by
      simpa [RawSegment.isFinal] using hfin
    have hpend : a.raw.progress = some ⟨a.raw.timestampUnixNanos, a.raw.segmentEnd,
        a.raw.payloadCapturedLen, a.raw.payloadTotalLen⟩ := by
      simp [RawSegment.progress, hfin]
    simp only [RawSegment.chunkTotalLen, hfin, Bool.false_eq_true, if_false, hpend]
    by_cases hc : SegmentProgress.continuedBy ⟨a.raw.timestampUnixNanos, a.raw.segmentEnd,
        a.raw.payloadCapturedLen, a.raw.payloadTotalLen⟩ b.raw
    · -- Taken for a continuation: no gap.
      have hm := hc
      simp only [SegmentProgress.continuedBy, Bool.and_eq_true, beq_iff_eq] at hm
      obtain ⟨⟨⟨hts, hbo⟩, hcl⟩, htl⟩ := hm
      simp only [segmentGaps, Option.any_some, hc, if_true, map_nil, sum_nil]
      rcases h with ⟨hidx, hbase, -⟩ | ⟨hidx, hbase⟩
      · rw [if_pos hidx]
        omega
      · rw [if_neg (by omega)]
        constructor
        · intro heq
          omega
        · intro hn
          exact absurd ⟨by simp, hts, hbo, hcl, htl⟩ hn
    · -- The rest of the pending call and the start of this one are both accounted.
      have hgaps : ((segmentGaps (some ⟨a.raw.timestampUnixNanos, a.raw.segmentEnd,
          a.raw.payloadCapturedLen, a.raw.payloadTotalLen⟩) b.raw).map Push.totalLen).sum
            = a.raw.payloadTotalLen - a.raw.segmentEnd + b.raw.payloadOffset := by
        simp only [segmentGaps, Option.any_some, hc, Bool.false_eq_true, if_false, Option.map_some,
          Option.toList_some, map_append, sum_append, sum_leadingGap]
        simp [Push.gap]
      have hno : ¬ (b.raw.timestampUnixNanos = a.raw.timestampUnixNanos
          ∧ b.raw.payloadOffset = a.raw.segmentEnd ∧ b.raw.payloadCapturedLen = a.raw.payloadCapturedLen
          ∧ b.raw.payloadTotalLen = a.raw.payloadTotalLen) := by
        rintro ⟨h1, h2, h3, h4⟩
        exact hc (by simp [SegmentProgress.continuedBy, h1, h2, h3, h4])
      rcases h with ⟨hidx, hbase, -, -, hts, hcl, htl⟩ | ⟨hidx, hbase⟩
      · rw [if_pos hidx]
        constructor
        · intro heq
          omega
        · intro hbo
          exact absurd ⟨hts, hbo, hcl, htl⟩ hno
      · rw [if_neg (by omega)]
        constructor
        · rintro - ⟨-, hall⟩
          exact hno hall
        · intro _
          omega

/-- What all segments cut from one call have in common, from the offset `offset` on. -/
structure CutFrom (call : Syscall) (offset : Nat) (raw : RawSegment) : Prop where
  timestamp : raw.timestampUnixNanos = call.timestamp
  captured : raw.payloadCapturedLen = call.pieces.flatten.length
  total : raw.payloadTotalLen = call.total
  start : offset ≤ raw.payloadOffset

theorem segmentsFrom_mem {call : Syscall} {offset : Nat} {ps : List Bytes} {raw : RawSegment}
    (h : raw ∈ call.segmentsFrom offset ps) :
    CutFrom call offset raw ∧ raw.segmentEnd ≤ offset + ps.flatten.length ∧ raw.payload ∈ ps := by
  induction ps generalizing offset with
  | nil => cases h
  | cons p ps ih =>
    rw [Syscall.segmentsFrom, mem_cons] at h
    simp only [flatten_cons, length_append]
    rcases h with rfl | h
    · refine ⟨⟨rfl, rfl, rfl, Nat.le_refl _⟩, ?_, mem_cons_self⟩
      simp only [RawSegment.segmentEnd]
      omega
    · obtain ⟨hcut, hend, hmem⟩ := ih h
      refine ⟨⟨hcut.1, hcut.2, hcut.3, ?_⟩, ?_, mem_cons_of_mem _ hmem⟩
      · have := hcut.start
        omega
      · omega

theorem segments_fits {call : Syscall} {raw : RawSegment} (h : raw ∈ call.segments) : raw.Fits := by
  obtain ⟨hcut, hend, -⟩ := segmentsFrom_mem h
  have := call.captured_le
  refine ⟨?_, ?_⟩
  · rw [hcut.captured]
    omega
  · rw [hcut.captured, hcut.total]
    exact this

/-- The segments of one call come in order and do not overlap. -/
theorem segmentsFrom_pairwise (call : Syscall) (offset : Nat) (ps : List Bytes) :
    (call.segmentsFrom offset ps).Pairwise fun a b => a.segmentEnd ≤ b.payloadOffset := by
  induction ps generalizing offset with
  | nil => exact .nil
  | cons p ps ih =>
    rw [Syscall.segmentsFrom, pairwise_cons]
    refine ⟨fun b hb => ?_, ih _⟩
    exact (segmentsFrom_mem hb).1.start

/-- Of two segments of one call, the second starts inside what was captured: only a call of which
nothing was captured has an empty segment, and it has no other. -/
theorem segments_pair_lt {call : Syscall} {a b : RawSegment} (h : [a, b].Sublist call.segments) :
    b.payloadOffset < call.pieces.flatten.length := by
  obtain ⟨-, hend, hmem⟩ := segmentsFrom_mem (h.subset (mem_cons_of_mem a mem_cons_self))
  have hb : b.payload ≠ [] := by
    rcases call.pieces_cut with hone | hcut
    · have := h.length_le
      simp [Syscall.segments, hone, Syscall.segmentsFrom] at this
    · exact hcut _ hmem
  have := length_pos_iff.mpr hb
  simp only [RawSegment.segmentEnd] at hend
  omega

theorem delivered_chain (d : Delivery) (index base : Nat) :
    (d.delivered.map (Located.mk index base)).IsChain Follows := by
  rw [isChain_map]
  refine isChain_iff_forall_rel_of_append_cons_cons.mpr ?_
  intro a b pre post heq
  have hsub : [a, b].Sublist d.delivered := by
    rw [heq]
    exact (sublist_append_left [a, b] post).trans (sublist_append_right pre _)
  have hab := hsub.trans d.sublist
  obtain ⟨ha, -⟩ := segmentsFrom_mem (hab.subset mem_cons_self)
  obtain ⟨hb, -⟩ := segmentsFrom_mem (hab.subset (mem_cons_of_mem a mem_cons_self))
  have hord := (pairwise_pair.mp ((segmentsFrom_pairwise d.call 0 d.call.pieces).sublist hab))
  refine .inl ⟨rfl, rfl, hord, ?_, ?_, ?_, ?_⟩
  · show b.payloadOffset < a.payloadCapturedLen
    rw [ha.captured]
    exact segments_pair_lt hab
  · exact hb.timestamp.trans ha.timestamp.symm
  · exact hb.captured.trans ha.captured.symm
  · exact hb.total.trans ha.total.symm

theorem locate_head {index base : Nat} {ds : List Delivery} {l : Located}
    (h : l ∈ (locate index base ds).head?) : l.index = index ∧ l.base = base := by
  cases ds with
  | nil => cases h
  | cons d ds =>
    obtain ⟨raw, rest, hdel⟩ := exists_cons_of_ne_nil d.nonempty
    rw [locate, hdel, map_cons, cons_append, List.head?_cons, Option.mem_some_iff] at h
    exact ⟨by rw [← h], by rw [← h]⟩

theorem locate_chain (ds : List Delivery) :
    ∀ index base, (locate index base ds).IsChain Follows := by
  induction ds with
  | nil => intro index base; exact .nil
  | cons d ds ih =>
    intro index base
    rw [locate, isChain_append]
    refine ⟨delivered_chain d index base, ih _ _, ?_⟩
    intro a ha b hb
    obtain ⟨raw, hraw, rfl⟩ := mem_map.mp (mem_of_getLast? ha)
    obtain ⟨hidx, hbase⟩ := locate_head hb
    obtain ⟨hcut, -⟩ := segmentsFrom_mem (d.sublist.subset hraw)
    exact .inr ⟨hidx.symm, by rw [hbase, hcut.total]⟩

theorem locate_fits (ds : List Delivery) :
    ∀ index base, ∀ l ∈ locate index base ds, l.raw.Fits := by
  induction ds with
  | nil => intro index base l hl; cases hl
  | cons d ds ih =>
    intro index base l hl
    rcases mem_append.mp hl with h | h
    · obtain ⟨raw, hraw, rfl⟩ := mem_map.mp h
      exact segments_fits (d.sublist.subset hraw)
    · exact ih _ _ l h

/-- **The run.** Once a segment is pushed at its true offset, all later ones are exactly if every two
neighbours are spliced. -/
theorem payloadOffsets_follow_iff : ∀ (rest : List Located) (a : Located),
    (a :: rest).IsChain Follows → (∀ l ∈ a :: rest, l.raw.Fits) →
      (payloadOffsets (positionAfter a.trueOffset a.raw) (pushLog a.raw.progress (rest.map Located.raw))
          = rest.map Located.trueOffset ↔ (a :: rest).IsChain Spliced) := by
  intro rest
  induction rest with
  | nil => intro a _ _; simp [pushLog, payloadOffsets]
  | cons b rest ih =>
    intro a hchain hfits
    rw [isChain_cons_cons] at hchain ⊢
    have hstep := follower_offset_iff (hfits a mem_cons_self) hchain.1
    have hrest := ih b hchain.2 (fun l hl => hfits l (mem_cons_of_mem a hl))
    rw [map_cons, map_cons, payloadOffsets_pushLog_cons, List.cons.injEq, hstep]
    refine and_congr_right fun hab => ?_
    rw [hstep.mpr hab]
    exact hrest

/-- **When splicing preserves the stream position.** Every delivered segment is pushed at its true
offset, the sum of the totals of the calls before its own plus its place in that call, exactly if no
call lost a segment between two delivered ones and no segment of a call can be taken for the
continuation of the call before. -/
theorem payloadOffsets_eq_iff (ds : List Delivery) :
    payloadOffsets 0 (pushLog none ((locate 0 0 ds).map Located.raw))
        = (locate 0 0 ds).map Located.trueOffset ↔ (locate 0 0 ds).IsChain Spliced := by
  have hchain := locate_chain ds 0 0
  have hfits := locate_fits ds 0 0
  have hhead := fun l (h : l ∈ (locate 0 0 ds).head?) => (locate_head h).2
  generalize locate 0 0 ds = ls at hchain hfits hhead ⊢
  cases ls with
  | nil => simp [pushLog, payloadOffsets]
  | cons a rest =>
    have hbase : a.base = 0 := hhead a rfl
    have hfirst : 0 + ((segmentGaps none a.raw).map Push.totalLen).sum = a.trueOffset := by
      rw [sum_segmentGaps_none, Located.trueOffset, hbase]
    rw [map_cons, map_cons, payloadOffsets_pushLog_cons, hfirst, List.cons.injEq]
    simp only [true_and]
    exact payloadOffsets_follow_iff rest a hchain hfits

/-- A write of 600 bytes, captured whole in three segments. -/
def write600 : Syscall where
  timestamp := 1
  total := 600
  pieces := [List.replicate 256 120, List.replicate 256 120, List.replicate 88 120]
  pieces_small := by decide +kernel
  pieces_cut := .inr (by decide +kernel)
  captured_le := by decide +kernel

/-- The same write without its middle segment. -/
def write600LostMiddle : Delivery where
  call := write600
  delivered := write600.segments.eraseIdx 1
  sublist := eraseIdx_sublist _ _
  nonempty := by decide

/-- The last segment belongs at offset 512; it is pushed at 1112, behind the rest of the call (344
bytes) and a lost start (512 bytes) that both cover the missing 256. -/
theorem payloadOffsets_write600LostMiddle :
    payloadOffsets 0 (pushLog none ((locate 0 0 [write600LostMiddle]).map Located.raw)) = [0, 1112] ∧
      (locate 0 0 [write600LostMiddle]).map Located.trueOffset = [0, 512] ∧
      payloadOffsets 0 (pushLog none ((locate 0 0 [write600LostMiddle]).map Located.raw))
        ≠ (locate 0 0 [write600LostMiddle]).map Located.trueOffset := by
  decide +kernel

end ENavigator.Stream
