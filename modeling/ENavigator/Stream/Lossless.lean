import ENavigator.Stream.Peer

/-!
# Streams that are captured whole

What reassembly gives when nothing is lost: every system call is captured whole and its bytes find room in the
buffer. `Framed` is what a message has to be for that: the boundary function delimits it whatever follows, and on a
part of it either waits or names its length already. Then a push hands out the next messages, each of them complete,
and the decoder keeps its place (`pushChunk_lossless`, `Peer.receive_lossless`); and all that are there, if they are
not more than it hands out at once (`Peer.Drained.receive`).

* `SelfDelimited.fits` : a message that the boundary function delimits by itself is such a message.
-/

namespace ENavigator.Stream

open List

variable [Base64] {future : Bytes} {frames : List Bytes}

structure Framed (boundary : Bytes → FrameBoundary) (f : Bytes) : Prop where
  whole : ∀ x, boundary (f ++ x) = .frame f.length
  before : ∀ p x, f = p ++ x → x ≠ [] → boundary p = .needMoreBytes ∨ boundary p = .frame f.length

namespace ProtocolStreamDecoder

variable {ch : Channel}

/-- A message that the decoder can hand out whole. -/
def Fits (ch : Channel) (f : Bytes) : Prop := Framed ch.boundary f ∧ f.length ≤ ch.limits.maxBufferedBytes

/-- The buffer and the bytes not pushed yet are exactly the messages not handed out yet. -/
structure Lossless (ch : Channel) (d : ProtocolStreamDecoder) (frames : List Bytes) (future : Bytes) : Prop where
  synced : Synced ch d
  unskipped : d.pendingSkip = 0
  stream : d.buffer ++ future = frames.flatten
  fits : ∀ f ∈ frames, Fits ch f

/-- The next `n` messages are handed out, each complete. -/
def HandsOut (ch : Channel) (n : Nat) (frames : List Bytes) (future : Bytes)
    (r : ProtocolStreamDecoder × List StreamFrame) : Prop :=
  ∃ done rest, frames = done ++ rest ∧ done.length = n ∧ r.2 = done.map .complete ∧ Lossless ch r.1 rest future

theorem HandsOut.cons {n : Nat} {f : Bytes} {fs : List Bytes} {r : ProtocolStreamDecoder × List StreamFrame}
    (h : HandsOut ch n fs future r) : HandsOut ch (n + 1) (f :: fs) future (r.1, .complete f :: r.2) := by
  obtain ⟨done, rest, rfl, hn, hdone, hrest⟩ := h
  refine ⟨f :: done, rest, rfl, ?_, ?_, hrest⟩
  · rw [length_cons, hn]
  · rw [hdone, map_cons]

variable {d : ProtocolStreamDecoder}

theorem handsOut_nil (h : Lossless ch d frames future) : HandsOut ch 0 frames future (d, []) :=
  ⟨[], frames, rfl, rfl, rfl, h⟩

theorem Fits.ne_nil {f : Bytes} (h : Fits ch f) : f ≠ [] := by
  rintro rfl
  cases h.1.whole []

/-- No message is empty, so when all bytes were read none is left. -/
theorem Lossless.eq_nil (h : Lossless ch d frames []) (hbuffer : d.buffer = []) : frames = [] := by
  have hflat := h.stream
  rw [hbuffer, append_nil] at hflat
  rw [eq_nil_iff_forall_not_mem]
  intro f hf
  exact (h.fits f hf).ne_nil (flatten_eq_nil_iff.mp hflat.symm f hf)

/-- While no message is there whole, the boundary function waits or names one that the buffer can hold. -/
theorem Lossless.pending (h : Lossless ch d frames future) (hpos : 0 < ch.limits.maxBufferedBytes)
    (hnone : framesIn d.buffer.length frames = 0) : d.buffer.length < ch.limits.maxBufferedBytes ∧
      (ch.boundary d.buffer = .needMoreBytes ∨
        ∃ n, ch.boundary d.buffer = .frame n ∧ d.buffer.length < n ∧ n ≤ ch.limits.maxBufferedBytes) := by
  obtain ⟨-, -, hs, hfits⟩ := h
  cases frames with
  | nil =>
    have hnil : d.buffer = [] := (append_eq_nil_iff.mp hs).1
    rw [hnil]
    exact ⟨hpos, .inl rfl⟩
  | cons f fs =>
    obtain ⟨hframed, hsmall⟩ := hfits f mem_cons_self
    have hlt : d.buffer.length < f.length := by
      by_contra hle
      rw [framesIn, if_pos (Nat.not_lt.mp hle)] at hnone
      cases hnone
    rw [flatten_cons] at hs
    obtain ⟨hpart, -⟩ := append_split hs.symm (Nat.le_of_lt hlt)
    have hcut : f = d.buffer ++ f.drop d.buffer.length := by
      conv_lhs => rw [← take_append_drop d.buffer.length f, hpart]
    have hmore : f.drop d.buffer.length ≠ [] := by
      rw [Ne, drop_eq_nil_iff]
      omega
    refine ⟨by omega, ?_⟩
    exact (hframed.before _ _ hcut hmore).imp_right fun hnamed => ⟨f.length, hnamed, hlt, hsmall⟩

/-- Then the loop keeps what it has. -/
theorem extractLoop_pending {consumed : Nat} (h : Lossless ch (d.discardBufferPrefix consumed) frames future)
    (hpos : 0 < ch.limits.maxBufferedBytes) (hnone : framesIn (d.buffer.drop consumed).length frames = 0)
    (budget : Nat) : extractLoop 0 budget d consumed = (d.discardBufferPrefix consumed, []) := by
  have hd : Synced ch d := { h.synced with }
  cases budget with
  | zero => rfl
  | succ budget =>
    rw [extractLoop, hd.boundaryAt]
    obtain ⟨hshort, hwait | ⟨n, hnamed, hlt, hsmall⟩⟩ := h.pending hpos hnone
    · have hboundary : ch.boundary (d.buffer.drop consumed) = .needMoreBytes := hwait
      simp only [hboundary]
      unfold finishUnknownBoundary
      rw [if_neg]
      rw [h.synced.limits_eq]
      omega
    · have hboundary : ch.boundary (d.buffer.drop consumed) = .frame n := hnamed
      have hpart : ¬ n ≤ d.buffer.length - consumed := by
        rw [← length_drop]
        exact Nat.not_le.mpr hlt
      simp only [hboundary, if_neg hpart]
      refine if_pos ⟨rfl, ?_⟩
      rw [h.synced.limits_eq]
      exact hsmall

/-- The loop hands out as many messages as the buffer holds whole, up to its budget. -/
theorem extractLoop_lossless (hpos : 0 < ch.limits.maxBufferedBytes) (budget : Nat) :
    ∀ (d : ProtocolStreamDecoder) (consumed : Nat) (frames : List Bytes),
      Lossless ch (d.discardBufferPrefix consumed) frames future →
      HandsOut ch (min budget (framesIn (d.buffer.drop consumed).length frames)) frames future
        (extractLoop 0 budget d consumed) := by
  induction budget with
  | zero =>
    intro d consumed frames h
    rw [Nat.zero_min]
    exact handsOut_nil h
  | succ budget ih =>
    intro d consumed frames h
    have hkept (hnone : framesIn (d.buffer.drop consumed).length frames = 0) :
        HandsOut ch (min (budget + 1) (framesIn (d.buffer.drop consumed).length frames)) frames future
          (extractLoop 0 (budget + 1) d consumed) := by
      rw [extractLoop_pending h hpos hnone, hnone, Nat.min_zero]
      exact handsOut_nil h
    cases frames with
    | nil => exact hkept rfl
    | cons f fs =>
      by_cases hfit : f.length ≤ (d.buffer.drop consumed).length
      · -- The message is there; it is handed out and the loop goes on behind it.
        have hd : Synced ch d := { h.synced with }
        have hs : d.buffer.drop consumed ++ future = f ++ fs.flatten := h.stream
        obtain ⟨htake, hrest⟩ := append_split hs hfit
        have hcut : d.buffer.drop consumed = f ++ (d.buffer.drop consumed).drop f.length := by
          rw [← htake, length_take, Nat.min_eq_left hfit, take_append_drop]
        have hboundary : ch.boundary (d.buffer.drop consumed) = .frame f.length := by
          rw [hcut]
          exact (h.fits f mem_cons_self).1.whole _
        rw [drop_drop] at hrest
        have hbehind : Lossless ch (discardBufferPrefix { d.completeFrame with postgresNegotiationResponse := false }
            (consumed + f.length)) fs future :=
          ⟨⟨hd.1, hd.2, hd.3, rfl, hd.5⟩, h.unskipped, hrest, fun g hg => h.fits g (mem_cons_of_mem f hg)⟩
        rw [framesIn, if_pos hfit, Nat.add_min_add_right, ← length_drop, drop_drop]
        rw [length_drop] at hfit
        rw [extractLoop, hd.boundaryAt]
        simp only [hboundary, if_pos hfit, htake]
        split
        next hall =>
          have hbuffer : d.buffer.drop (consumed + f.length) = [] := drop_eq_nil_of_le (Nat.le_of_eq hall.1.symm)
          have hdone := hbehind
          simp only [discardBufferPrefix, completeFrame, hbuffer] at hdone
          rw [hbuffer, length_nil, framesIn_zero fun g hg => (hbehind.fits g hg).ne_nil, Nat.min_zero]
          exact (handsOut_nil hdone).cons
        next => exact (ih _ _ fs hbehind).cons
      · exact hkept (if_neg hfit)

/-- **A push that loses nothing hands out the next messages, complete.** -/
theorem pushChunk_lossless {bytes : Bytes} (hpos : 0 < ch.limits.maxBufferedBytes)
    (h : Lossless ch d frames (bytes ++ future))
    (hroom : d.buffer.length + bytes.length ≤ ch.limits.maxBufferedBytes) :
    HandsOut ch
      (min ch.limits.maxFramesPerChunk (framesIn (d.buffer.length + bytes.length) frames)) frames future
      (d.pushChunk bytes bytes.length) := by
  obtain ⟨hd, hskip, hs, hfits⟩ := h
  have hspace : bytes.length ≤ d.limits.maxBufferedBytes - d.buffer.length := by
    rw [hd.limits_eq]
    omega
  have hbuffered : d.bufferVisible bytes = ({ d with buffer := d.buffer ++ bytes }, 0) := if_pos hspace
  unfold pushChunk
  simp only [hd.resync, Bool.false_eq_true, if_false, Nat.max_self, Nat.sub_self]
  unfold consumePendingSkip
  rw [if_pos hskip]
  simp only [hbuffered]
  have hbehind : Lossless ch (discardBufferPrefix { d with buffer := d.buffer ++ bytes } 0) frames future :=
    ⟨{ hd with }, hskip, by rw [← hs, ← append_assoc]; rfl, hfits⟩
  have hloop := extractLoop_lossless hpos d.limits.maxFramesPerChunk _ 0 frames hbehind
  rw [drop_zero, length_append, hd.limits_eq] at hloop
  unfold extractFrames
  rw [hd.limits_eq]
  exact hloop

end ProtocolStreamDecoder

namespace Peer

open ProtocolStreamDecoder

variable {ch : Channel} {d : Peer}

/-- The decoder has room for the bytes of a system call. -/
def HasRoom (d : Peer) (total : Nat) : Prop :=
  0 < d.side.decoder.limits.maxBufferedBytes ∧
    d.side.decoder.buffer.length + (d.unread.take total).length ≤ d.side.decoder.limits.maxBufferedBytes

instance (d : Peer) (total : Nat) : Decidable (d.HasRoom total) := inferInstanceAs (Decidable (_ ∧ _))

theorem lossless_send {rest : List Bytes} {frame : Bytes}
    (h : Lossless ch d.side.decoder rest d.unread) (hframe : Fits ch frame) :
    Lossless ch (d.send frame).side.decoder (rest ++ [frame]) (d.send frame).unread := by
  refine ⟨h.synced, h.unskipped, ?_, ?_⟩
  · show d.side.decoder.buffer ++ (d.unread ++ frame) = _
    rw [← append_assoc, h.stream, flatten_append, flatten_singleton]
  · exact forall_mem_append.mpr ⟨h.fits, forall_mem_singleton.mpr hframe⟩

/-- **A system call that is captured whole hands out the messages that are there, up to the budget.** -/
theorem receive_handsOut {rest : List Bytes} (h : Lossless ch d.side.decoder rest d.unread)
    {total : Nat} (hroom : d.HasRoom total) (observed : Nat) :
    HandsOut ch
      (min ch.limits.maxFramesPerChunk
        (framesIn (d.side.decoder.buffer.length + (d.unread.take total).length) rest)) rest
      (d.receive total total observed).1.unread
      ((d.receive total total observed).1.side.decoder, (d.receive total total observed).2.1) := by
  obtain ⟨hpos, hfit⟩ := hroom
  rw [h.synced.limits_eq] at hpos hfit
  have hvisible : (d.nextChunk total total).visible = d.unread.take total :=
    take_of_length_le (Nat.le_min.mpr ⟨length_take_le _ _, Nat.le_refl _⟩)
  have hunread : d.unread = d.unread.take total ++ d.unread.drop total := (take_append_drop total d.unread).symm
  rw [hunread] at h
  have hreceive : ((d.receive total total observed).1.side.decoder, (d.receive total total observed).2.1) =
      d.side.decoder.pushChunk (d.unread.take total) (d.unread.take total).length := by
    show d.side.decoder.pushChunk (d.nextChunk total total).visible (d.unread.take total).length = _
    rw [hvisible]
  rw [hreceive]
  exact pushChunk_lossless hpos h hfit

theorem receive_lossless {rest : List Bytes} (h : Lossless ch d.side.decoder rest d.unread)
    {total : Nat} (hroom : d.HasRoom total) (observed : Nat) :
    ∃ done rest', rest = done ++ rest' ∧ (d.receive total total observed).2.1 = done.map .complete ∧
      Lossless ch (d.receive total total observed).1.side.decoder rest'
        (d.receive total total observed).1.unread := by
  obtain ⟨done, rest', hrest, -, hframes, hlossless⟩ := receive_handsOut h hroom observed
  exact ⟨done, rest', hrest, hframes, hlossless⟩

/-- What a system call has moved are the messages it hands out and what it adds to the buffer. -/
theorem length_moved {done rest : List Bytes} {total observed : Nat}
    (h : Lossless ch d.side.decoder (done ++ rest) d.unread)
    (h' : Lossless ch (d.receive total total observed).1.side.decoder rest
      (d.receive total total observed).1.unread) :
    d.side.decoder.buffer.length + (d.unread.take total).length =
      done.flatten.length + (d.receive total total observed).1.side.decoder.buffer.length := by
  have hbefore := congrArg List.length h.stream
  have hafter := congrArg List.length h'.stream
  have hunread : (d.receive total total observed).1.unread.length = d.unread.length - total := length_drop
  rw [flatten_append, length_append, length_append] at hbefore
  rw [length_append, hunread] at hafter
  rw [length_take]
  omega

/-- Every message that was moved whole has been handed out: the messages `handed`, and not the `rest`. -/
structure Drained (ch : Channel) (d : Peer) (handed rest : List Bytes) : Prop where
  sent : d.sent = handed ++ rest
  lossless : Lossless ch d.side.decoder rest d.unread
  clock : d.clock.length = handed.flatten.length + d.side.decoder.buffer.length
  drained : framesIn d.side.decoder.buffer.length rest = 0

variable {handed rest : List Bytes}

theorem Drained.arrived (h : Drained ch d handed rest) : d.arrived = handed.length := by
  rw [Peer.arrived, h.sent, h.clock, framesIn_append, h.drained, Nat.add_zero]

theorem Drained.rest_eq_nil (h : Drained ch d handed rest) (hunread : d.unread = []) : rest = [] := by
  have hflat := congrArg List.length h.lossless.stream
  have hdrained := h.drained
  have hall := framesIn_append rest [] 0
  rw [hunread, append_nil] at hflat
  rw [Nat.add_zero, append_nil] at hall
  rw [hflat, hall, Nat.add_eq_zero_iff] at hdrained
  exact length_eq_zero_iff.mp hdrained.1

theorem Drained.send (h : Drained ch d handed rest) {frame : Bytes}
    (hframe : Fits ch frame) :
    Drained ch (d.send frame) handed (rest ++ [frame]) := by
  refine ⟨?_, lossless_send h.lossless hframe, h.clock, ?_⟩
  · show d.sent ++ [frame] = _
    rw [h.sent, append_assoc]
  · show framesIn d.side.decoder.buffer.length (rest ++ [frame]) = 0
    have hdrained := h.drained
    cases rest with
    | nil =>
      have hbuffer : d.side.decoder.buffer = [] := (append_eq_nil_iff.mp h.lossless.stream).1
      rw [hbuffer]
      exact framesIn_zero (forall_mem_singleton.mpr hframe.ne_nil)
    | cons f fs =>
      unfold framesIn at hdrained ⊢
      split at hdrained
      · cases hdrained
      next hlong => exact if_neg hlong

/-- **A system call hands out what it completes**, if the budget of the decoder allows it. -/
theorem Drained.receive (h : Drained ch d handed rest) {total observed : Nat}
    (hroom : d.HasRoom total)
    (hbudget : (d.receive total total observed).1.arrived - d.arrived ≤ ch.limits.maxFramesPerChunk) :
    ∃ done rest', rest = done ++ rest' ∧ (d.receive total total observed).1.arrived = handed.length + done.length ∧
      (d.receive total total observed).2.1 = done.map .complete ∧
      Drained ch (d.receive total total observed).1 (handed ++ done) rest' := by
  have hclock : (d.receive total total observed).1.clock.length =
      handed.flatten.length + (d.side.decoder.buffer.length + (d.unread.take total).length) := by
    show (d.clock ++ List.replicate (d.unread.take total).length observed).length = _
    rw [length_append, length_replicate, h.clock, Nat.add_assoc]
  have harrived : (d.receive total total observed).1.arrived = handed.length +
      framesIn (d.side.decoder.buffer.length + (d.unread.take total).length) rest := by
    show framesIn _ d.sent = _
    rw [h.sent, hclock, framesIn_append]
  rw [harrived, h.arrived, Nat.add_sub_cancel_left] at hbudget
  obtain ⟨done, rest', rfl, hcount, hframes, hlossless⟩ := receive_handsOut h.lossless hroom observed
  rw [Nat.min_eq_right hbudget] at hcount
  have hmoved := length_moved h.lossless hlossless
  rw [← hcount] at harrived
  refine ⟨done, rest', rfl, harrived, hframes, ?_, hlossless, ?_, ?_⟩
  · rw [append_assoc]
    exact h.sent
  · rw [hclock, hmoved, flatten_append, length_append, Nat.add_assoc]
  · rw [hmoved, framesIn_append] at hcount
    omega

end Peer

/-! ## Messages delimited by themselves -/

/-- The boundary function delimits the message by itself, and the buffer of the decoder can hold it. -/
def SelfDelimited (ch : Channel) (bytes : Bytes) : Prop :=
  ch.boundary bytes = .frame bytes.length ∧ bytes.length ≤ ch.limits.maxBufferedBytes

instance (ch : Channel) : DecidablePred (SelfDelimited ch) := fun _ => inferInstanceAs (Decidable (_ ∧ _))

variable {ch : Channel} {f : Bytes}

theorem prefixStable_of_frame (h : ch.boundary f = .frame f.length) (x : Bytes) :
    PrefixStable ch.protocol ch.direction ch.limits.maxFrameBytes f x := by
  refine prefixStable_of_settled ?_ x
  rintro ⟨hprotocol, hdirection, hlong, hline⟩
  have hne : f ≠ [] := length_pos_iff.mp (Nat.zero_lt_of_lt hlong)
  unfold Channel.boundary at h
  rw [hprotocol, hdirection, frameBoundary_redisRequest _ hne, (redisBoundary_countLine hline hlong).1] at h
  cases h

theorem length_le_of_frame (h : ch.boundary f = .frame f.length) :
    1 ≤ f.length ∧ f.length ≤ ch.limits.maxFrameBytes := by
  have hf := prefixStable_of_frame h []
  unfold Channel.boundary at h
  unfold PrefixStable at hf
  rw [h] at hf
  exact hf.1

theorem framed_of_frame (h : ch.boundary f = .frame f.length) : Framed ch.boundary f := by
  have hframe := h
  unfold Channel.boundary at hframe
  refine ⟨fun x => ?_, ?_⟩
  · have hf := prefixStable_of_frame h x
    unfold PrefixStable at hf
    rw [hframe] at hf
    exact hf.2.resolve_right fun hlate => absurd hlate.2.1 (Nat.lt_irrefl _)
  · rintro p x rfl -
    -- a part of it is shorter than the limit, so the verdict on it is final
    have hle := (length_le_of_frame h).2
    rw [length_append] at hle
    have hp : PrefixStable ch.protocol ch.direction ch.limits.maxFrameBytes p x :=
      prefixStable_of_settled (fun hline => absurd hline.2.2.1 (by omega)) x
    unfold PrefixStable at hp
    rw [hframe] at hp
    unfold Channel.boundary
    cases hb : frameBoundary ch.protocol ch.direction p ch.limits.maxFrameBytes with
    | needMoreBytes => exact .inl rfl
    | invalid =>
      rw [hb] at hp
      cases hp
    | protocolSwitch n q =>
      rw [hb] at hp
      cases hp.2
    | frame n =>
      rw [hb] at hp
      rcases hp.2 with hsame | ⟨-, -, q, hq⟩
      · exact .inr hsame.symm
      · cases hq

theorem SelfDelimited.fits (h : SelfDelimited ch f) : ProtocolStreamDecoder.Fits ch f := ⟨framed_of_frame h.1, h.2⟩

namespace ProtocolStreamDecoder

theorem lossless_new (ch : Channel) : Lossless ch (new ch.protocol ch.direction ch.limits) [] [] where
  synced := ⟨rfl, rfl, rfl, rfl, rfl⟩
  unskipped := rfl
  stream := rfl
  fits := nofun

end ProtocolStreamDecoder

end ENavigator.Stream
