import ENavigator.Http2.Hpack

/-!
# HTTP/2 frames and header blocks

A frame header, the header block fragment of a HEADERS frame and the assembler that joins a HEADERS frame
with the CONTINUATION frames behind it. A block that the assembler hands over is read whole by
`headersFrameBlock` (`headersFrameBlock_finish`) and within the limit (`finish_of_pushFrame`).

Header blocks never mix frames: a block is handed over exactly when the frames pushed last are the frames of one block
(`Run`) and the first of them found nothing pending (`block_iff_run`). A HEADERS frame that comes before the block in
front of it is complete is refused along with that block.
-/

namespace ENavigator.Http2

open List

def http2FrameHeaderBytes : Nat := 9
def http2FrameTypeHeaders : UInt8 := 0x1
def http2FrameTypeContinuation : UInt8 := 0x9
def http2FlagEndStream : UInt8 := 0x1
def http2FlagEndHeaders : UInt8 := 0x4
def http2FlagPadded : UInt8 := 0x8
def http2FlagPriority : UInt8 := 0x20

structure Http2FrameHeader where
  length : Nat
  frameType : UInt8
  flags : UInt8
  streamId : Nat
  deriving DecidableEq, Repr

variable (header : Http2FrameHeader)

namespace Http2FrameHeader

def endStream : Bool := header.flags &&& http2FlagEndStream != 0
def endHeaders : Bool := header.flags &&& http2FlagEndHeaders != 0
def padded : Bool := header.flags &&& http2FlagPadded != 0
def priority : Bool := header.flags &&& http2FlagPriority != 0

def isHeaders : Bool := header.frameType == http2FrameTypeHeaders
def isContinuation : Bool := header.frameType == http2FrameTypeContinuation
def isHeaderFrame : Bool := header.isHeaders || header.isContinuation

end Http2FrameHeader

def parseHttp2FrameHeader : Bytes → Except Http2Extraction Http2FrameHeader
  | b0 :: b1 :: b2 :: frameType :: flags :: b5 :: b6 :: b7 :: b8 :: _ =>
    .ok {
      length := beNat [b0, b1, b2]
      frameType := frameType
      flags := flags
      -- the reserved bit is dropped
      streamId := beNat [b5 &&& 0x7f, b6, b7, b8] }
  | _ => .error .malformedFrame

/-- The header block fragment of a HEADERS frame, without padding and priority. -/
def headersFrameBlock (payload : Bytes) : Except Http2Extraction Bytes := do
  if !header.isHeaders then throw .unsupportedFrame
  let (start, stop) ← (if header.padded then
      match payload with
      | [] => throw .malformedFrame
      | pad :: _ => if payload.length < pad.toNat then throw .malformedFrame
        else pure (1, payload.length - pad.toNat)
    else pure (0, payload.length))
  let start := if header.priority then start + 5 else start
  if start > stop then throw .malformedFrame
  pure ((payload.take stop).drop start)

/-- A header block with the header of its HEADERS frame, complete or still to be continued. -/
structure AssembledHttp2HeaderBlock where
  header : Http2FrameHeader
  block : Bytes
  isHeaders : header.isHeaders = true
  streamId_ne_zero : header.streamId ≠ 0
  deriving DecidableEq, Repr

/-- The block is complete: its header says so and no longer speaks of padding or priority. -/
def AssembledHttp2HeaderBlock.finish (pending : AssembledHttp2HeaderBlock) : AssembledHttp2HeaderBlock where
  header := { pending.header with
    flags := (pending.header.flags ||| http2FlagEndHeaders) &&& ~~~(http2FlagPadded ||| http2FlagPriority)
    length := pending.block.length }
  block := pending.block
  isHeaders := pending.isHeaders
  streamId_ne_zero := pending.streamId_ne_zero

structure Http2HeaderBlockAssembler where
  pending : Option AssembledHttp2HeaderBlock := none

namespace Http2HeaderBlockAssembler

def isPending (a : Http2HeaderBlockAssembler) : Bool := a.pending.isSome

def reset (_ : Http2HeaderBlockAssembler) : Http2HeaderBlockAssembler := {}

/-- A block that ends here or has to wait for the next frame. -/
def advance (pending : AssembledHttp2HeaderBlock) (endHeaders : Bool) :
    Except Http2Extraction (Option AssembledHttp2HeaderBlock) × Http2HeaderBlockAssembler :=
  if endHeaders then (.ok (some pending.finish), {}) else (.ok none, { pending := some pending })

def pushHeaders (a : Http2HeaderBlockAssembler) (header : Http2FrameHeader) (isHeaders : header.isHeaders = true)
    (payload : Bytes) (maxHeaderBytes : Nat) :
    Except Http2Extraction (Option AssembledHttp2HeaderBlock) × Http2HeaderBlockAssembler :=
  if a.pending.isSome then (.error .continuationExpected, {})
  else if hzero : header.streamId = 0 then (.error .malformedFrame, {})
  else match headersFrameBlock header payload with
  | .error e => (.error e, {})
  | .ok block =>
    if block.length > maxHeaderBytes then (.error .headersTooLong, {})
    else advance ⟨header, block, isHeaders, hzero⟩ header.endHeaders

def pushContinuation (a : Http2HeaderBlockAssembler) (header : Http2FrameHeader) (payload : Bytes)
    (maxHeaderBytes : Nat) :
    Except Http2Extraction (Option AssembledHttp2HeaderBlock) × Http2HeaderBlockAssembler :=
  match a.pending with
  | none => (.error .unexpectedContinuation, {})
  | some pending =>
    if header.streamId = 0 || header.streamId != pending.header.streamId then
      (.error .continuationStreamMismatch, {})
    -- the lengths of two buffers in memory never overflow the checked sum
    else if pending.block.length + payload.length > maxHeaderBytes then (.error .headersTooLong, {})
    else advance { pending with block := pending.block ++ payload } header.endHeaders

/-- A frame between the frames of a block discards the block. -/
def pushFrame (a : Http2HeaderBlockAssembler) (header : Http2FrameHeader) (payload : Bytes)
    (maxHeaderBytes : Nat) :
    Except Http2Extraction (Option AssembledHttp2HeaderBlock) × Http2HeaderBlockAssembler :=
  if isHeaders : header.isHeaders = true then a.pushHeaders header isHeaders payload maxHeaderBytes
  else if header.isContinuation then a.pushContinuation header payload maxHeaderBytes
  else if a.pending.isSome then (.error .continuationExpected, {})
  else (.ok none, {})

end Http2HeaderBlockAssembler

/-! ## Complete blocks -/

namespace AssembledHttp2HeaderBlock

variable (b : AssembledHttp2HeaderBlock)

@[simp] theorem finish_block : b.finish.block = b.block := rfl

theorem finish_flags (flags : UInt8) :
    let flags := (flags ||| http2FlagEndHeaders) &&& ~~~(http2FlagPadded ||| http2FlagPriority)
    flags &&& http2FlagEndHeaders ≠ 0 ∧ flags &&& http2FlagPadded = 0 ∧ flags &&& http2FlagPriority = 0 :=
  forall_byte (P := fun flags =>
    let flags := (flags ||| http2FlagEndHeaders) &&& ~~~(http2FlagPadded ||| http2FlagPriority)
    flags &&& http2FlagEndHeaders ≠ 0 ∧ flags &&& http2FlagPadded = 0 ∧ flags &&& http2FlagPriority = 0)
    (by decide +kernel) flags

theorem endHeaders_finish : b.finish.header.endHeaders = true :=
  bne_iff_ne.mpr (finish_flags b.header.flags).1

theorem headersFrameBlock_finish :
    headersFrameBlock b.finish.header b.block = .ok b.block := by
  have hpadded : b.finish.header.padded = false := bne_eq_false_iff_eq.mpr (finish_flags b.header.flags).2.1
  have hpriority : b.finish.header.priority = false := bne_eq_false_iff_eq.mpr (finish_flags b.header.flags).2.2
  have hheaders : b.finish.header.isHeaders = true := b.isHeaders
  simp [headersFrameBlock, hpadded, hpriority, hheaders, pure, Except.pure, bind, Except.bind]

end AssembledHttp2HeaderBlock

structure PushedFrame where
  header : Http2FrameHeader
  payload : Bytes
  maxHeaderBytes : Nat

namespace Http2HeaderBlockAssembler

variable {a : Http2HeaderBlockAssembler} {f : PushedFrame} {b : AssembledHttp2HeaderBlock}
  {earlier frames run : List PushedFrame}

def push (a : Http2HeaderBlockAssembler) (f : PushedFrame) :
    Except Http2Extraction (Option AssembledHttp2HeaderBlock) × Http2HeaderBlockAssembler :=
  a.pushFrame f.header f.payload f.maxHeaderBytes

def afterFrames (frames : List PushedFrame) : Http2HeaderBlockAssembler := frames.foldl (fun a f => (a.push f).2) {}

theorem afterFrames_concat (frames : List PushedFrame) (f : PushedFrame) :
    afterFrames (frames ++ [f]) = ((afterFrames frames).push f).2 := by
  rw [afterFrames, foldl_append]
  rfl

/-- The block that a frame begins, or goes on with. Its stream is not zero, as no block's is. -/
inductive Extends : Option AssembledHttp2HeaderBlock → PushedFrame → AssembledHttp2HeaderBlock → Prop
  | headers {f : PushedFrame} {b : AssembledHttp2HeaderBlock} (hheader : b.header = f.header)
      (hfragment : headersFrameBlock f.header f.payload = .ok b.block) (hfits : b.block.length ≤ f.maxHeaderBytes) :
      Extends none f b
  | continuation {f : PushedFrame} {p : AssembledHttp2HeaderBlock} (hcontinuation : f.header.isContinuation = true)
      (hstream : f.header.streamId = p.header.streamId) (hfits : (p.block ++ f.payload).length ≤ f.maxHeaderBytes) :
      Extends (some p) f { p with block := p.block ++ f.payload }

/-- The frames of one block: a HEADERS frame and CONTINUATION frames, with END_HEADERS on none but the last. -/
inductive Run : List PushedFrame → AssembledHttp2HeaderBlock → Prop
  | headers {f : PushedFrame} {b : AssembledHttp2HeaderBlock} (h : Extends none f b) : Run [f] b
  | continuation {run : List PushedFrame} {p b : AssembledHttp2HeaderBlock} {f : PushedFrame} (h : Run run p)
      (hopen : ∀ e ∈ run, e.header.endHeaders = false) (hnext : Extends (some p) f b) : Run (run ++ [f]) b

theorem Extends.length_le {pending : Option AssembledHttp2HeaderBlock} (h : Extends pending f b) :
    b.block.length ≤ f.maxHeaderBytes := by
  rcases h with ⟨-, -, hfits⟩ | ⟨-, -, hfits⟩
  · exact hfits
  · exact hfits

/-- A frame extends a block, or nothing comes of it and nothing is pending. -/
theorem push_cases (a : Http2HeaderBlockAssembler) (f : PushedFrame) :
    (∃ b, Extends a.pending f b ∧ a.push f = advance b f.header.endHeaders) ∨
      (a.push f).2.pending = none ∧ ∀ b, (a.push f).1 ≠ .ok (some b) := by
  rcases a with ⟨pending⟩
  unfold push pushFrame pushHeaders pushContinuation
  split
  next hheaders =>
    rcases pending with _ | p
    · split
      · exact .inr ⟨rfl, nofun⟩
      split
      · exact .inr ⟨rfl, nofun⟩
      split
      · exact .inr ⟨rfl, nofun⟩
      next block hblock =>
        split
        · exact .inr ⟨rfl, nofun⟩
        next hfits => exact .inl ⟨_, .headers rfl hblock (Nat.le_of_not_gt hfits), rfl⟩
    · exact .inr ⟨rfl, nofun⟩
  split
  next hcontinuation =>
    rcases pending with _ | p
    · exact .inr ⟨rfl, nofun⟩
    dsimp only
    split
    · exact .inr ⟨rfl, nofun⟩
    next hstream =>
      split
      · exact .inr ⟨rfl, nofun⟩
      next hfits =>
        rw [Bool.or_eq_true, not_or, bne_iff_ne, not_not] at hstream
        rw [← length_append] at hfits
        exact .inl ⟨_, .continuation hcontinuation hstream.2 (Nat.le_of_not_gt hfits), rfl⟩
  · split <;> exact .inr ⟨rfl, nofun⟩

theorem extends_of_push (h : (a.push f).1 = .ok (some b)) :
    f.header.endHeaders = true ∧ ∃ p, Extends a.pending f p ∧ b = p.finish := by
  rcases push_cases a f with ⟨p, hextends, hpush⟩ | ⟨-, hno⟩
  · rw [hpush, advance] at h
    split at h
    next hlast =>
      cases h
      exact ⟨hlast, p, hextends, rfl⟩
    · cases h
  · exact absurd h (hno b)

theorem finish_of_pushFrame {a' : Http2HeaderBlockAssembler} {header : Http2FrameHeader} {payload : Bytes}
    {maxHeaderBytes : Nat} (h : a.pushFrame header payload maxHeaderBytes = (.ok (some b), a')) :
    ∃ p : AssembledHttp2HeaderBlock, b = p.finish ∧ p.block.length ≤ maxHeaderBytes := by
  obtain ⟨-, p, hextends, rfl⟩ := extends_of_push (f := ⟨header, payload, maxHeaderBytes⟩) (congrArg Prod.fst h)
  exact ⟨p, rfl, hextends.length_le⟩

theorem push_of_extends (h : Extends a.pending f b) : a.push f = advance b f.header.endHeaders := by
  rcases a with ⟨pending⟩
  unfold push pushFrame
  rcases h with ⟨hheader, hfragment, hfits⟩ | ⟨hcontinuation, hstream, hfits⟩
  · rcases b with ⟨header, block, hheaders, hzero⟩
    cases hheader
    rw [dif_pos hheaders, pushHeaders, dif_neg hzero, hfragment]
    dsimp only
    rw [if_neg (Nat.not_lt.mpr hfits)]
    rfl
  next p =>
    have hother : ¬ f.header.isHeaders = true := by
      simp only [Http2FrameHeader.isHeaders, Http2FrameHeader.isContinuation, beq_iff_eq] at hcontinuation ⊢
      rw [hcontinuation]
      decide
    rw [length_append] at hfits
    simp [hother, hcontinuation, pushContinuation, hstream, p.streamId_ne_zero, Nat.not_lt.mpr hfits]

/-- A frame that extends what is pending is the last of a run, since what is pending is an open run. -/
theorem run_of_extends (h : Extends (afterFrames frames).pending f b) :
    ∃ earlier before, frames = earlier ++ before ∧ (afterFrames earlier).pending = none ∧ Run (before ++ [f]) b ∧
      ∀ e ∈ before, e.header.endHeaders = false := by
  induction frames using List.reverseRecOn generalizing f b with
  | nil => exact ⟨[], [], rfl, rfl, .headers h, by simp⟩
  | append_singleton frames g ih =>
    rcases hpending : (afterFrames (frames ++ [g])).pending with _ | p
    · rw [hpending] at h
      exact ⟨frames ++ [g], [], by simp, hpending, .headers h, by simp⟩
    rw [hpending] at h
    rw [afterFrames_concat] at hpending
    rcases push_cases (afterFrames frames) g with ⟨q, hextends, hpush⟩ | ⟨hnone, -⟩
    · rw [hpush, advance] at hpending
      split at hpending
      · cases hpending
      next hopen =>
        cases hpending
        obtain ⟨earlier, before, rfl, hearlier, hrun, hbefore⟩ := ih hextends
        have hrest : ∀ e ∈ before ++ [g], e.header.endHeaders = false :=
          forall_mem_append.mpr ⟨hbefore, by simpa using hopen⟩
        exact ⟨earlier, before ++ [g], append_assoc _ _ _, hearlier, hrun.continuation hrest h, hrest⟩
    · rw [hnone] at hpending
      cases hpending

theorem push_of_run (h : Run run b) (hearlier : (afterFrames earlier).pending = none) :
    ∃ before f, run = before ++ [f] ∧ (afterFrames (earlier ++ before)).push f = advance b f.header.endHeaders := by
  induction h with
  | @headers f b h =>
    refine ⟨[], f, rfl, push_of_extends ?_⟩
    rw [append_nil, hearlier]
    exact h
  | @continuation run p b f _ hopen hnext ih =>
    obtain ⟨before, e, rfl, hpush⟩ := ih
    have hlast : e.header.endHeaders = false := hopen e (by simp)
    refine ⟨before ++ [e], f, rfl, push_of_extends ?_⟩
    rw [← append_assoc, afterFrames_concat, hpush, hlast]
    exact hnext

/-- **A block is handed over exactly when the frames pushed last are its frames**, the first of which found nothing
pending; it is within the limit, and after an error nothing is pending. -/
theorem block_iff_run (frames : List PushedFrame) (f : PushedFrame) :
    (∀ b, ((afterFrames frames).push f).1 = .ok (some b) ↔
      f.header.endHeaders = true ∧ ∃ earlier run p, frames ++ [f] = earlier ++ run ∧
        (afterFrames earlier).pending = none ∧ Run run p ∧ b = p.finish) ∧
    (∀ b, ((afterFrames frames).push f).1 = .ok (some b) → b.block.length ≤ f.maxHeaderBytes) ∧
    (∀ e, ((afterFrames frames).push f).1 = .error e → (afterFrames (frames ++ [f])).pending = none) := by
  refine ⟨fun b => ⟨?_, ?_⟩, ?_, ?_⟩
  · intro h
    obtain ⟨hlast, p, hextends, rfl⟩ := extends_of_push h
    obtain ⟨earlier, before, rfl, hearlier, hrun, -⟩ := run_of_extends hextends
    exact ⟨hlast, earlier, before ++ [f], p, append_assoc _ _ _, hearlier, hrun, rfl⟩
  · rintro ⟨hlast, earlier, run, p, hframes, hearlier, hrun, rfl⟩
    obtain ⟨before, g, rfl, hpush⟩ := push_of_run hrun hearlier
    rw [← append_assoc] at hframes
    obtain ⟨rfl, hsame⟩ := append_inj' hframes rfl
    cases hsame
    rw [hpush, hlast]
    rfl
  · intro b h
    obtain ⟨-, p, hextends, rfl⟩ := extends_of_push h
    exact hextends.length_le
  · intro e h
    rw [afterFrames_concat]
    rcases push_cases (afterFrames frames) f with ⟨p, -, hpush⟩ | ⟨hnone, -⟩
    · rw [hpush, advance] at h
      split at h <;> cases h
    · exact hnone

/-- A complete HEADERS frame on another stream, while the first one is still to be continued. -/
def interleaved : List PushedFrame :=
  [⟨⟨1, http2FrameTypeHeaders, 0, 1⟩, [0x82], 16⟩, ⟨⟨1, http2FrameTypeHeaders, http2FlagEndHeaders, 3⟩, [0x82], 16⟩]

/-- The frames of a block, with END_HEADERS on the last and within the limit, and no block comes of them. -/
theorem not_returned_interleaved :
    ∃ first second b, interleaved = [first] ++ [second] ∧ Run [second] b ∧ second.header.endHeaders = true ∧
      ((afterFrames [first]).push second).1 = .error .continuationExpected := by
  refine ⟨_, _, ⟨⟨1, http2FrameTypeHeaders, http2FlagEndHeaders, 3⟩, [0x82], rfl, by decide⟩, rfl, ?_, by decide,
    by decide⟩
  exact .headers (.headers rfl (by decide) (by decide))

end Http2HeaderBlockAssembler

end ENavigator.Http2
