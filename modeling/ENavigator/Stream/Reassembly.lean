import Mathlib.Data.List.Forall2
import ENavigator.Stream.Decoder

/-!
# Reassembly never guesses

A stream is the concatenation of its frames, each the one the boundary function delimits at its
position (`Delimited`). Capture cuts the stream into chunks and shows a prefix of each (`Chunk`).
While the decoder is in step with the stream it is `Aligned`: what it buffered and what is still to
come are, behind the bytes it has to skip, exactly the frames not handed out yet.

* `extractLoop_aligned`, `pushChunk_aligned` : one push hands out the next frames of the stream, each
  complete or as a true prefix with its true length (`Recovers`), and stays aligned or loses the
  position openly;
* `pushChunks_recovers` : so do all pushes up to the first that loses it.
-/

namespace ENavigator.Stream

open List

variable {d : ProtocolStreamDecoder} {future : Bytes} {frames : List Bytes}

/-- The frames of a stream, each the one `boundary` delimits at its position. -/
def Delimited (boundary : Bytes → FrameBoundary) : List Bytes → Prop
  | [] => True
  | f :: fs => boundary (f ++ fs.flatten) = .frame f.length ∧ Delimited boundary fs

/-- A recovered frame is the frame itself, or a prefix of it that declares its length. -/
inductive Recovers (f : Bytes) : StreamFrame → Prop
  | complete : Recovers f (.complete f)
  | truncated ( pfx : Bytes) (h : pfx <+: f) : Recovers f (.truncated pfx f.length)

/-- The boundary function names no frame that is longer than what it has seen. -/
def NamedWhole (boundary : Bytes → FrameBoundary) : Prop :=
  ∀ (bytes : Bytes) (n : Nat), boundary bytes = .frame n → n ≤ bytes.length

/-- A frame as it is handed out: complete, if the boundary function names only what is there. -/
structure Handed (boundary : Bytes → FrameBoundary) (f : Bytes) (frame : StreamFrame) : Prop where
  recovers : Recovers f frame
  complete : NamedWhole boundary → frame = .complete f

/-- What a decoder is set up for: one direction of a connection. -/
structure Channel where
  protocol : StreamProtocol
  direction : StreamDirection
  limits : StreamDecodeLimits

def Channel.boundary [Base64] (ch : Channel) (bytes : Bytes) : FrameBoundary :=
  frameBoundary ch.protocol ch.direction bytes ch.limits.maxFrameBytes

/-- A chunk of the stream, of which only the first `captured` bytes are visible. -/
structure Chunk where
  bytes : Bytes
  captured : Nat
  captured_le : captured ≤ bytes.length

def Chunk.visible (c : Chunk) : Bytes := c.bytes.take c.captured

theorem Chunk.length_visible (c : Chunk) : c.visible.length = c.captured := by
  have := c.captured_le
  simp only [Chunk.visible, length_take]
  omega

namespace ProtocolStreamDecoder

def pushChunks [Base64] (d : ProtocolStreamDecoder) : List Chunk → ProtocolStreamDecoder × List StreamFrame
  | [] => (d, [])
  | c :: cs =>
    let (d, frames) := d.pushChunk c.visible c.bytes.length
    let (d, more) := pushChunks d cs
    (d, frames ++ more)

section Run

variable [Base64] {ch : Channel}

/-- The decoder keeps its configuration and knows where it is in the stream. -/
structure Synced (ch : Channel) (d : ProtocolStreamDecoder) : Prop where
  protocol_eq : d.protocol = ch.protocol
  direction_eq : d.direction = ch.direction
  limits_eq : d.limits = ch.limits
  negotiation : d.postgresNegotiationResponse = false
  resync : d.resync = false

/-- `frames` are the frames not handed out yet and `future` the bytes not pushed yet: behind the
bytes to skip, the buffer and the future are exactly these frames. -/
structure Aligned (ch : Channel) (d : ProtocolStreamDecoder) (frames : List Bytes) (future : Bytes) : Prop where
  synced : Synced ch d
  delimited : Delimited ch.boundary frames
  stream : ∃ skipped : Bytes, skipped.length = d.pendingSkip ∧ d.buffer ++ future = skipped ++ frames.flatten
  skipping : d.pendingSkip ≠ 0 → d.buffer = []

/-- What a push may do: hand out the next frames, and stay aligned or lose the position. -/
def Advances (ch : Channel) (frames : List Bytes) (future : Bytes) (r : ProtocolStreamDecoder × List StreamFrame) :
    Prop :=
  ∃ done rest, frames = done ++ rest ∧ List.Forall₂ (Handed ch.boundary) done r.2 ∧
    (r.1.resync = true ∨ Aligned ch r.1 rest future)

theorem Synced.boundaryAt (h : Synced ch d) (consumed : Nat) :
    d.boundaryAt consumed = ch.boundary (d.buffer.drop consumed) := by
  simp [ProtocolStreamDecoder.boundaryAt, Channel.boundary, h.negotiation, h.protocol_eq, h.direction_eq, h.limits_eq]

theorem Advances.none (h : d.resync = true ∨ Aligned ch d frames future) : Advances ch frames future (d, []) :=
  ⟨[], frames, rfl, .nil, h⟩

variable {f : Bytes} {fs : List Bytes} {frame : StreamFrame}

theorem Advances.cons {r : ProtocolStreamDecoder × List StreamFrame}
    (hf : Handed ch.boundary f frame) (h : Advances ch fs future r) :
    Advances ch (f :: fs) future (r.1, frame :: r.2) := by
  obtain ⟨done, rest, rfl, hr, hend⟩ := h
  exact ⟨f :: done, rest, rfl, .cons hf hr, hend⟩

theorem Advances.single (hf : Handed ch.boundary f frame) (h : d.resync = true ∨ Aligned ch d fs future) :
    Advances ch (f :: fs) future (d, [frame]) :=
  ⟨[f], fs, rfl, .cons hf .nil, h⟩

/-- The buffer holds no whole frame, and what was lost behind it is `lost`. -/
theorem finishPartialFrame_advances {lost : Bytes} (hd : Synced ch d) (hskip : d.pendingSkip = 0)
    (hdel : Delimited ch.boundary (f :: fs))
    (hs : d.buffer ++ (lost ++ future) = f ++ fs.flatten) (hlt : d.buffer.length < f.length)
    (hnamed : ch.boundary d.buffer = .frame f.length) :
    Advances ch (f :: fs) future (d.finishPartialFrame f.length lost.length) := by
  obtain ⟨hpre, htail⟩ := append_split hs.symm (Nat.le_of_lt hlt)
  have hrec : Handed ch.boundary f (.truncated d.buffer f.length) :=
    ⟨.truncated d.buffer (by rw [← hpre]; exact List.take_prefix _ _),
      fun hwhole => absurd (hwhole _ _ hnamed) (Nat.not_le.mpr hlt)⟩
  unfold finishPartialFrame
  split
  next hwait =>
    have hlost : lost = [] := length_eq_zero_iff.mp hwait.1
    subst hlost
    exact .none (.inr ⟨hd, hdel, ⟨[], hskip.symm, hs⟩, fun h => absurd hskip h⟩)
  next =>
    dsimp only
    split
    next =>
      exact .single hrec (.inl rfl)
    next hgap =>
      have hle : lost.length ≤ (f.drop d.buffer.length).length := by
        rw [length_drop]
        omega
      obtain ⟨-, hfuture⟩ := append_split htail hle
      refine .single hrec (.inr ⟨{ hd with }, hdel.2, ?_, fun _ => rfl⟩)
      refine ⟨(f.drop d.buffer.length).drop lost.length, ?_, ?_⟩
      · simp only [length_drop]
      · exact hfuture.symm

section

variable (hp : ¬ switches ch.protocol ch.direction)
include hp

/-- **One push hands out the next frames of the stream.** The induction is on the frame budget; the
frames not handed out yet are what it generalises. -/
theorem extractLoop_aligned (lost future : Bytes) :
    ∀ (budget : Nat) (d : ProtocolStreamDecoder) (consumed : Nat) (frames : List Bytes),
      Synced ch d → d.pendingSkip = 0 → consumed ≤ d.buffer.length →
      Delimited ch.boundary frames →
      d.buffer.drop consumed ++ (lost ++ future) = frames.flatten →
      Advances ch frames future (extractLoop lost.length budget d consumed) := by
  intro budget
  induction budget with
  | zero =>
    intro d consumed frames hd hskip hc hdel hs
    apply Advances.none
    unfold finishBudget
    split
    · exact .inl rfl
    next hgap =>
      have hlost : lost = [] := length_eq_zero_iff.mp (by omega)
      subst hlost
      exact .inr ⟨{ hd with }, hdel, ⟨[], hskip.symm, hs⟩, fun h => absurd hskip h⟩
  | succ budget ih =>
    intro d consumed frames hd hskip hc hdel hs
    rw [extractLoop, hd.boundaryAt]
    have hsw : (ch.boundary (d.buffer.drop consumed)).isSwitch = false := frameBoundary_isSwitch hp _ _
    cases hb : ch.boundary (d.buffer.drop consumed) with
    | protocolSwitch n p => simp [hb, FrameBoundary.isSwitch] at hsw
    | invalid => exact .none (.inl rfl)
    | needMoreBytes =>
      apply Advances.none
      unfold finishUnknownBoundary
      split
      · exact .inl rfl
      next hwait =>
        have hlost : lost = [] := length_eq_zero_iff.mp (by omega)
        subst hlost
        exact .inr ⟨{ hd with }, hdel, ⟨[], hskip.symm, hs⟩, fun h => absurd hskip h⟩
    | frame n =>
      -- The named length is the length of the next frame of the stream.
      have hfull : ch.boundary (d.buffer.drop consumed ++ (lost ++ future)) = .frame n :=
        frameBoundary_stable hp _ _ (lost ++ future) n hb
      simp only [hs] at hfull
      cases frames with
      | nil => simp [Channel.boundary, frameBoundary] at hfull
      | cons f fs =>
        have hn : f.length = n := by
          have hf : ch.boundary (f ++ fs.flatten) = .frame f.length := hdel.1
          simp only [flatten_cons] at hfull
          rw [hf] at hfull
          exact FrameBoundary.frame.inj hfull
        subst hn
        dsimp only
        split
        next hfit =>
          have hle : f.length ≤ (d.buffer.drop consumed).length := by
            rw [length_drop]
            exact hfit
          obtain ⟨htake, hrest⟩ := append_split hs hle
          rw [drop_drop] at hrest
          rw [htake]
          have hd' : Synced ch { d.completeFrame with postgresNegotiationResponse := false } :=
            ⟨hd.1, hd.2, hd.3, rfl, hd.5⟩
          split
          next hall =>
            have hlost : lost = [] := length_eq_zero_iff.mp hall.2
            have hbuf : d.buffer.drop (consumed + f.length) = [] :=
              drop_eq_nil_of_le (Nat.le_of_eq hall.1.symm)
            rw [hbuf, hlost] at hrest
            refine .single ⟨.complete, fun _ => rfl⟩ (.inr ⟨⟨hd.1, hd.2, hd.3, rfl, hd.5⟩, hdel.2, ?_, ?_⟩)
            · exact ⟨[], hskip.symm, hrest⟩
            · exact fun h => absurd hskip h
          next =>
            exact .cons ⟨.complete, fun _ => rfl⟩ (ih _ _ fs hd' hskip (by
              show consumed + f.length ≤ d.buffer.length
              omega) hdel.2 hrest)
        next hfit =>
          refine finishPartialFrame_advances { hd with } hskip hdel hs ?_ hb
          simp only [discardBufferPrefix, length_drop]
          omega

/-- Buffering the visible bytes and extracting, with `tail` the uncaptured rest of the chunk. -/
theorem extractFrames_advances {visible tail : Bytes}
    (hd : Synced ch d) (hskip : d.pendingSkip = 0) (hdel : Delimited ch.boundary frames)
    (hs : d.buffer ++ (visible ++ (tail ++ future)) = frames.flatten) : Advances ch frames future
      ((d.bufferVisible visible).1.extractFrames (tail.length + (d.bufferVisible visible).2)) := by
  unfold bufferVisible extractFrames
  dsimp only
  split
  next =>
    refine extractLoop_aligned hp tail future _ _ 0 frames { hd with } hskip
      (Nat.zero_le _) hdel ?_
    simpa only [drop_zero, append_assoc] using hs
  next hspace =>
    -- What the buffer bound cut off is lost like the uncaptured tail behind it.
    generalize d.limits.maxBufferedBytes - d.buffer.length = space at hspace ⊢
    have hlen : tail.length + (visible.length - space) = (visible.drop space ++ tail).length := by
      rw [length_append, length_drop]
      omega
    rw [hlen]
    refine extractLoop_aligned hp _ future _ _ 0 frames { hd with } hskip
      (Nat.zero_le _) hdel ?_
    rw [← hs]
    simp only [drop_zero, append_assoc]
    rw [← append_assoc (visible.take space), take_append_drop]

theorem pushChunk_aligned {c : Chunk} (h : Aligned ch d frames (c.bytes ++ future)) :
    Advances ch frames future (d.pushChunk c.visible c.bytes.length) := by
  obtain ⟨hd, hdel, ⟨skipped, hlen, hs⟩, hbuf⟩ := h
  have hcap := c.captured_le
  have hvis := c.length_visible
  have hcut : c.visible ++ c.bytes.drop c.captured = c.bytes := take_append_drop _ _
  have hgap : c.bytes.length - c.captured = (c.bytes.drop c.captured).length := by
    rw [length_drop]
  have htotal : max c.bytes.length c.captured = c.bytes.length := by omega
  unfold pushChunk
  simp only [hvis, htotal, hd.resync, Bool.false_eq_true, if_false]
  unfold consumePendingSkip
  by_cases h0 : d.pendingSkip = 0
  · rw [if_pos h0]
    have hnil : skipped = [] := length_eq_zero_iff.mp (hlen.trans h0)
    rw [hnil, nil_append] at hs
    simp only [hgap]
    refine extractFrames_advances hp hd h0 hdel ?_
    rw [← hs, ← append_assoc c.visible, hcut]
  · rw [if_neg h0]
    rw [hbuf h0, nil_append] at hs
    by_cases hall : d.pendingSkip ≥ c.bytes.length
    · rw [if_pos hall]
      obtain ⟨-, hrest⟩ := append_split hs.symm (by omega)
      refine .none (.inr ⟨{ hd with }, hdel, ⟨skipped.drop c.bytes.length, ?_, ?_⟩,
        fun _ => hbuf h0⟩)
      · rw [length_drop, hlen]
      · show d.buffer ++ future = _
        rw [hbuf h0, nil_append]
        exact hrest.symm
    · rw [if_neg hall]
      obtain ⟨-, hrest⟩ := append_split hs (by omega)
      rw [hlen] at hrest
      rw [hvis]
      by_cases hin : d.pendingSkip < c.captured
      · rw [if_pos hin]
        simp only [hgap]
        refine extractFrames_advances hp { hd with } rfl hdel ?_
        rw [hbuf h0, nil_append, ← hrest, ← append_assoc,
          ← drop_append_of_le_length (by omega), hcut]
      · rw [if_neg hin]
        exact .none (.inl rfl)

/-- Every push but the last left the decoder in step, so each handed out the next frames. -/
theorem pushChunks_advances :
    ∀ (chunks : List Chunk) (d : ProtocolStreamDecoder) (frames : List Bytes) (future : Bytes),
      Aligned ch d frames ((chunks.map Chunk.bytes).flatten ++ future) →
      (∀ i < chunks.length, (d.pushChunks (chunks.take i)).1.resync = false) →
      Advances ch frames future (d.pushChunks chunks) := by
  intro chunks
  induction chunks with
  | nil => intro d frames future h _; exact .none (.inr h)
  | cons c cs ih =>
    intro d frames future h hsync
    rw [map_cons, flatten_cons, append_assoc] at h
    obtain ⟨done, rest, rfl, hdone, hend⟩ := pushChunk_aligned hp h
    cases cs with
    | nil =>
      refine ⟨done, rest, rfl, ?_, ?_⟩
      · simpa only [pushChunks, append_nil] using hdone
      · simpa only [pushChunks, map_nil, flatten_nil, nil_append] using hend
    | cons c' cs =>
      have hfirst : (d.pushChunk c.visible c.bytes.length).1.resync = false :=
        hsync 1 (by simp)
      have hal := hend.resolve_left (by simp [hfirst])
      obtain ⟨done', rest', rfl, hdone', hend'⟩ := ih _ rest future hal (by
        intro i hi
        exact hsync (i + 1) (by simpa using hi))
      exact ⟨done ++ done', rest', by rw [append_assoc], rel_append hdone hdone', hend'⟩

end

theorem aligned_new (hdel : Delimited ch.boundary frames) :
    Aligned ch (new ch.protocol ch.direction ch.limits) frames frames.flatten :=
  ⟨⟨rfl, rfl, rfl, rfl, rfl⟩, hdel, ⟨[], rfl, rfl⟩, fun _ => rfl⟩

end Run

/-- **Reassembly never guesses.** A stream of delimited frames is cut into chunks, each captured up
to some prefix. Through every push up to the first that loses the position, the frames appended are
the first `k` frames of the stream, each complete or as a true prefix with its true length. -/
theorem pushChunks_recovers [Base64] {protocol : StreamProtocol} {direction : StreamDirection}
    (hp : ¬ (protocol = .http1 ∧ direction = .response)) (limits : StreamDecodeLimits)
    (frames : List Bytes)
    (hdel : Delimited (frameBoundary protocol direction · limits.maxFrameBytes) frames)
    (chunks : List Chunk) (hcut : (chunks.map Chunk.bytes).flatten = frames.flatten) (m : Nat)
    (hsync : ∀ i < m, ((new protocol direction limits).pushChunks (chunks.take i)).1.resync = false) :
    ∃ k ≤ frames.length, List.Forall₂ Recovers (frames.take k)
      ((new protocol direction limits).pushChunks (chunks.take m)).2 := by
  have hal : Aligned ⟨protocol, direction, limits⟩ (new protocol direction limits) frames frames.flatten :=
    aligned_new hdel
  rw [← hcut, ← take_append_drop m chunks, map_append, flatten_append] at hal
  have hsynced : ∀ i < (chunks.take m).length,
      ((new protocol direction limits).pushChunks ((chunks.take m).take i)).1.resync = false := by
    intro i hi
    rw [length_take] at hi
    rw [take_take, Nat.min_eq_left (by omega)]
    exact hsync i (by omega)
  obtain ⟨done, rest, rfl, hdone, -⟩ := @pushChunks_advances _ ⟨protocol, direction, limits⟩ hp _ _ frames _ hal hsynced
  refine ⟨done.length, by simp, ?_⟩
  rw [take_left]
  exact hdone.imp fun _ _ h => h.recovers

attribute [local instance] Base64.refusing

/-- Two Kafka frames; the body of the first is partly uncaptured, and the rest of it leads the
second chunk. -/
def lossyFrames : List Bytes := [[0, 0, 0, 2, 7, 8], [0, 0, 0, 1, 9]]

def lossyChunks : List Chunk :=
  [⟨[0, 0, 0, 2, 7], 4, by decide⟩, ⟨[8, 0, 0, 0, 1, 9], 6, by decide⟩]

theorem pushChunks_recovers_lossy :
    ((new .kafka .request {}).pushChunks lossyChunks).2
        = [.truncated [0, 0, 0, 2] 6, .complete [0, 0, 0, 1, 9]] ∧
      ∃ k ≤ 2, List.Forall₂ Recovers (lossyFrames.take k)
        ((new .kafka .request {}).pushChunks (lossyChunks.take 2)).2 :=
  ⟨by decide +kernel, pushChunks_recovers (by decide) {} lossyFrames
    ⟨by decide +kernel, by decide +kernel, trivial⟩ lossyChunks (by decide) 2 (by decide +kernel)⟩

end ProtocolStreamDecoder

end ENavigator.Stream
