import ENavigator.Http2.Connection
import ENavigator.Lib.Runs

/-!
# The header decoders against a receiver that sees everything

`HeaderReceiver` is the other end of one direction: it gets every frame whole, knows every stream, limits
no block and reads those of PUSH_PROMISE too. A connection is compared with it frame by frame (`Agrees`): a
header list that the connection's decoder returns has to be the one the receiver reads at the same frame.

`agrees_of_intact` : it is, as long as no header block passes the decoder by (`Intact`).
`orphan_not_agrees` : a response on an unknown stream passes it by, and what is indexed later is wrong.
-/

namespace ENavigator.Http2

open ENavigator.Correlation ENavigator.Stream Http2HeaderBlockAssembler Http2FrameHeader

variable (config : ProtocolExtractionConfig) (direction : StreamDirection)

/-! ## The receiver -/

/-- A frame as it was sent, and how many of its bytes were captured. -/
structure SentFrame where
  bytes : Bytes
  captured : Nat

def SentFrame.whole (sent : SentFrame) : Bool := sent.bytes.length ≤ sent.captured

def SentFrame.delivered (sent : SentFrame) : StreamFrame :=
  if sent.whole then .complete sent.bytes else .truncated (sent.bytes.take sent.captured) sent.bytes.length

/-- What a frame means for the header blocks of its direction. -/
inductive BlockEvent where
  | nothing
  | block (block : Bytes)
  /-- the frame is not allowed here: the connection is at its end -/
  | broken

def extendBlock (streamId : Nat) (block : Bytes) (endHeaders : Bool) : Option (Nat × Bytes) × BlockEvent :=
  if endHeaders then (none, .block block) else (some (streamId, block), .nothing)

def Http2FrameHeader.isPushPromise (header : Http2FrameHeader) : Bool := header.frameType == 0x5

/-- The fragment of a PUSH_PROMISE frame stands behind the stream that is promised, in front of the padding. -/
def promiseBlock (header : Http2FrameHeader) (payload : Bytes) : Option Bytes :=
  if header.padded then
    match payload with
    | [] => none
    | pad :: rest =>
      if rest.length < 4 + pad.toNat then none else some ((rest.take (rest.length - pad.toNat)).drop 4)
  else if payload.length < 4 then none
  else some (payload.drop 4)

/-- The stream and the fragments of the block that waits for its next frame, and what the frame completes. -/
def acceptFrame (pending : Option (Nat × Bytes)) (header : Http2FrameHeader) (payload : Bytes) :
    Option (Nat × Bytes) × BlockEvent :=
  match pending with
  | some (streamId, fragments) =>
    -- nothing but a continuation of the same stream may follow
    if header.isContinuation && header.streamId == streamId then
      extendBlock streamId (fragments ++ payload) header.endHeaders
    else (none, .broken)
  | none =>
    if header.isHeaders then
      match headersFrameBlock header payload with
      | .ok fragment => if header.streamId = 0 then (none, .broken)
        else extendBlock header.streamId fragment header.endHeaders
      | .error _ => (none, .broken)
    else if header.isPushPromise then
      match promiseBlock header payload with
      | some fragment => if header.streamId = 0 then (none, .broken)
        else extendBlock header.streamId fragment header.endHeaders
      | none => (none, .broken)
    else if header.isContinuation then (none, .broken)
    else (none, .nothing)

structure HeaderReceiver where
  decoder : HpackDecoder := .new
  pending : Option (Nat × Bytes) := none

/-- What the bytes of a frame say when all of them are there. -/
def sentFrame (bytes : Bytes) : Option ReadFrame :=
  (readFrame direction (.complete bytes) {}).2

/-- The receiver after a frame, and the outcome for the block that ended with it. -/
def HeaderReceiver.receive (bytes : Bytes) (r : HeaderReceiver) :
    HeaderReceiver × Option (Except Http2Extraction (List Header)) :=
  match sentFrame direction bytes with
  | none => (r, none)
  | some read =>
    match acceptFrame r.pending read.header read.payload with
    | (pending, .nothing) => ({ r with pending }, none)
    | (pending, .block block) =>
      let (headers, decoder) := r.decoder.decodeHeaderBlock block
      (⟨decoder, pending⟩, some headers)
    | (pending, .broken) => (⟨{ r.decoder with poisoned := true }, pending⟩, none)

/-! ## The comparison -/

/-- The header list that the connection's decoder returns for a frame. -/
def decodedHeaders (frame : StreamFrame) (http2 : Http2ConnectionState) : Option (List Header) :=
  (fedBlock config direction frame http2).bind fun block =>
    ((http2.side direction).decoder.decodeHeaderBlock block).1.toOption

/-- The header list that the receiver reads at a frame. -/
def receivedHeaders (bytes : Bytes) (r : HeaderReceiver) : Option (List Header) :=
  (r.receive direction bytes).2.bind Except.toOption

structure Http2Event where
  direction : StreamDirection
  frame : SentFrame
  observed : Nat

/-- A connection, and the receiver of the frames of one direction. -/
abbrev Watched := Http2Stream × HeaderReceiver

def Watched.step (w : Watched) (e : Http2Event) : Watched :=
  (handleHttp2Frame config e.direction e.observed e.frame.delivered w.1,
    if e.direction = direction then (w.2.receive direction e.frame.bytes).1 else w.2)

/-- What the decoder returns for a frame of its direction is what the receiver reads. -/
def Agrees (w : Watched) (e : Http2Event) : Prop :=
  e.direction = direction → ∀ headers,
    decodedHeaders config direction e.frame.delivered w.1.http2 = some headers →
      receivedHeaders direction e.frame.bytes w.2 = some headers

/-! ## The condition -/

def Http2HeaderBlockAssembler.fragments (a : Http2HeaderBlockAssembler) : Option (Nat × Bytes) :=
  a.pending.map fun b => (b.header.streamId, b.block)

/-- The frame is allowed where it stands, and its block is within the limit so far. -/
def WithinLimit : Option (Nat × Bytes) × BlockEvent → Prop
  | (pending, .nothing) => (pending.all fun p => decide (p.2.length ≤ config.maxHeaderBytes)) = true
  | (_, .block block) => block.length ≤ config.maxHeaderBytes
  | (_, .broken) => False

instance : DecidablePred (WithinLimit config)
  | (_, .nothing) => inferInstanceAs (Decidable (_ = true))
  | (_, .block block) => inferInstanceAs (Decidable (block.length ≤ config.maxHeaderBytes))
  | (_, .broken) => isFalse id

/-- A block that ends here goes on to the decoder, or would change nothing in it. That of a PUSH_PROMISE never goes
on, and if more frames belonged to it they would be taken for something else. -/
def HandedOn (http2 : Http2ConnectionState) (header : Http2FrameHeader) : BlockEvent → Prop
  | .block block => header.isPushPromise = false ∧ reaches direction http2 header.streamId = true ∨
      ((http2.side direction).decoder.decodeHeaderBlock block).2 = (http2.side direction).decoder
  | _ => header.isPushPromise = false

instance (http2 : Http2ConnectionState) (header : Http2FrameHeader) : DecidablePred (HandedOn direction http2 header)
  | .nothing => inferInstanceAs (Decidable (_ = false))
  | .block _ => inferInstanceAs (Decidable (_ ∧ _ ∨ _))
  | .broken => inferInstanceAs (Decidable (_ = false))

/-- The part of the condition that reads the frame. -/
def IntactFrame (http2 : Http2ConnectionState) (sent : SentFrame) : Option ReadFrame → Prop
  | none => sent.whole = true ∨ (http2.side direction).assembler.fragments = none
  | some read =>
    (sent.whole = true ∨ (http2.side direction).assembler.fragments = none ∧ read.header.isHeaders = false) ∧
    WithinLimit config (acceptFrame (http2.side direction).assembler.fragments read.header read.payload) ∧
    HandedOn direction http2 read.header
      (acceptFrame (http2.side direction).assembler.fragments read.header read.payload).2

instance (http2 : Http2ConnectionState) (sent : SentFrame) : DecidablePred (IntactFrame config direction http2 sent)
  | none => inferInstanceAs (Decidable (_ ∨ _))
  | some _ => inferInstanceAs (Decidable (_ ∧ _ ∧ _))

/-- No header block passes the decoder by at this frame: the decoder has given up before, or the frame keeps
to the protocol, was captured whole if it belongs to a block, keeps its block within the limit, and ends a
block only of a stream that is known (or a block that changes nothing in the decoder); a PUSH_PROMISE holds the
whole of such a block. -/
def Intact (http2 : Http2ConnectionState) (sent : SentFrame) : Prop :=
  (http2.side direction).decoder.poisoned = true ∨
    IntactFrame config direction http2 sent (sentFrame direction sent.bytes)

instance (http2 : Http2ConnectionState) (sent : SentFrame) : Decidable (Intact config direction http2 sent) :=
  inferInstanceAs (Decidable (_ ∨ _))

variable {config direction} {read : ReadFrame} {w : Watched} {e : Http2Event}

/-! ## The assembler follows the receiver -/

/-- The assembler holds what the receiver holds, and hands over the block that the receiver completes. -/
structure Follows (taken : Http2HeaderBlockAssembler × Option AssembledHttp2HeaderBlock) (streamId : Nat)
    (accepted : Option (Nat × Bytes) × BlockEvent) : Prop where
  fragments : taken.1.fragments = accepted.1
  nothing : accepted.2 = .nothing → taken.2 = none
  block : ∀ block, accepted.2 = .block block → ∃ b, taken.2 = some b ∧ b.block = block ∧ b.header.streamId = streamId

theorem follows_advance (p : AssembledHttp2HeaderBlock) (last : Bool) :
    Follows (outcome (advance p last)) p.header.streamId
      (extendBlock p.header.streamId p.block last) := by
  cases last with
  | true => exact ⟨rfl, nofun, fun block h => ⟨p.finish, rfl, BlockEvent.block.inj h, rfl⟩⟩
  | false => exact ⟨rfl, fun _ => rfl, nofun⟩

theorem length_le_of_extendBlock {streamId : Nat} {block : Bytes} {last : Bool}
    (h : WithinLimit config (extendBlock streamId block last)) : ¬ block.length > config.maxHeaderBytes := by
  unfold extendBlock at h
  split at h
  · exact Nat.not_lt.mpr h
  · exact Nat.not_lt.mpr (of_decide_eq_true h)

section first

variable (hlimit : WithinLimit config (acceptFrame none read.header read.payload))
include hlimit

theorem follows_headers (hwhole : read.truncated = false) (hheaders : read.header.isHeaders = true) :
    Follows (intake config {} read) read.header.streamId (acceptFrame none read.header read.payload) := by
  rcases hblock : headersFrameBlock read.header read.payload with e | fragment
  · simp only [acceptFrame, hheaders, if_true, hblock, WithinLimit] at hlimit
  by_cases hzero : read.header.streamId = 0
  · simp only [acceptFrame, hheaders, if_true, hblock, hzero, WithinLimit] at hlimit
  have haccept : acceptFrame none read.header read.payload =
      extendBlock read.header.streamId fragment read.header.endHeaders := by
    simp only [acceptFrame, hheaders, if_true, hblock, hzero, if_false]
  rw [haccept] at hlimit ⊢
  have hlen := length_le_of_extendBlock hlimit
  have hintake : intake config {} read = outcome (advance
      ⟨read.header, fragment, hheaders, hzero⟩ read.header.endHeaders) := by
    simp only [intake, hzero, hwhole, isHeaderFrame, hheaders, Bool.true_or, if_true, if_false,
      Bool.false_eq_true, pushFrame, pushHeaders, hblock,
      hlen, dif_pos, dif_neg, not_false_eq_true, Option.isSome_none]
  rw [hintake]
  exact follows_advance ⟨read.header, fragment, hheaders, hzero⟩ read.header.endHeaders

theorem accept_other (hheaders : ¬ read.header.isHeaders = true) (hpromise : ¬ read.header.isPushPromise = true) :
    acceptFrame none read.header read.payload = (none, .nothing) ∧ ¬ read.header.isContinuation = true := by
  by_cases hcontinuation : read.header.isContinuation = true
  · simp [acceptFrame, hheaders, hpromise, hcontinuation, WithinLimit] at hlimit
  · exact ⟨by simp [acceptFrame, hheaders, hpromise, hcontinuation], hcontinuation⟩

omit hlimit in
theorem intake_other (hheaders : ¬ read.header.isHeaders = true) (hcontinuation : ¬ read.header.isContinuation = true) :
    intake config {} read = ({}, none) := by
  simp [intake, isHeaderFrame, hheaders, hcontinuation, isPending, reset]

theorem follows_other (hheaders : ¬ read.header.isHeaders = true) (hpromise : ¬ read.header.isPushPromise = true) :
    Follows (intake config {} read) read.header.streamId (acceptFrame none read.header read.payload) := by
  obtain ⟨haccept, hcontinuation⟩ := accept_other hlimit hheaders hpromise
  rw [haccept, intake_other hheaders hcontinuation]
  refine ⟨rfl, fun _ => rfl, ?_⟩
  intro block hblock
  cases hblock

end first

theorem follows_continuation {p : AssembledHttp2HeaderBlock} (hwhole : read.truncated = false)
    (hlimit : WithinLimit config (acceptFrame (some (p.header.streamId, p.block)) read.header read.payload)) :
    Follows (intake config ⟨some p⟩ read) read.header.streamId
      (acceptFrame (some (p.header.streamId, p.block)) read.header read.payload) := by
  by_cases hnext : (read.header.isContinuation && read.header.streamId == p.header.streamId) = true
  · obtain ⟨hcontinuation, hstream⟩ := Bool.and_eq_true_iff.mp hnext
    have hstream : read.header.streamId = p.header.streamId := eq_of_beq hstream
    have hheaders : read.header.isHeaders = false := by
      rw [isHeaders, eq_of_beq hcontinuation]
      decide
    simp only [acceptFrame, hnext, if_true] at hlimit ⊢
    have hlen := length_le_of_extendBlock hlimit
    rw [List.length_append] at hlen
    have hintake : intake config ⟨some p⟩ read = outcome (advance
        { p with block := p.block ++ read.payload } read.header.endHeaders) := by
      simp [intake, pushFrame, pushContinuation, hwhole,
        hheaders, hcontinuation, hstream, p.streamId_ne_zero, hlen, isHeaderFrame]
    rw [hintake, hstream]
    exact follows_advance { p with block := p.block ++ read.payload } read.header.endHeaders
  · simp only [acceptFrame, hnext, WithinLimit] at hlimit
    exact hlimit.elim

variable {a : Http2HeaderBlockAssembler} {d : HpackDecoder} {sent : SentFrame}

theorem follows_intake (hwhole : read.truncated = false) (hpromise : ¬ read.header.isPushPromise = true)
    (hlimit : WithinLimit config (acceptFrame a.fragments read.header read.payload)) :
    Follows (intake config a read) read.header.streamId (acceptFrame a.fragments read.header read.payload) := by
  rcases a with ⟨_ | p⟩
  · by_cases hheaders : read.header.isHeaders = true
    · exact follows_headers hlimit hwhole hheaders
    · exact follows_other hlimit hheaders hpromise
  · exact follows_continuation hwhole hlimit

/-! ## Promises -/

theorem isPushPromise_ne (h : read.header.isPushPromise = true) :
    ¬ read.header.isHeaders = true ∧ ¬ read.header.isContinuation = true := by
  unfold Http2FrameHeader.isHeaders Http2FrameHeader.isContinuation
  rw [eq_of_beq h]
  decide

/-- A PUSH_PROMISE stands outside of other blocks, holds its block whole, and its block changes nothing. -/
theorem accept_promise {http2 : Http2ConnectionState} {pending : Option (Nat × Bytes)}
    (hpromise : read.header.isPushPromise = true)
    (hlimit : WithinLimit config (acceptFrame pending read.header read.payload))
    (hhanded : HandedOn direction http2 read.header (acceptFrame pending read.header read.payload).2) :
    pending = none ∧ ∃ block, acceptFrame pending read.header read.payload = (none, .block block) ∧
      ((http2.side direction).decoder.decodeHeaderBlock block).2 = (http2.side direction).decoder := by
  obtain ⟨hheaders, hcontinuation⟩ := isPushPromise_ne hpromise
  have hother : ¬ read.header.isPushPromise = false := Bool.not_eq_false _ ▸ hpromise
  rcases pending with _ | ⟨streamId, fragments⟩
  · refine ⟨rfl, ?_⟩
    rcases haccept : acceptFrame none read.header read.payload with ⟨pending, _ | block | _⟩
    all_goals rw [haccept] at hhanded
    · exact absurd hhanded hother
    · refine ⟨block, ?_, hhanded.resolve_left fun h => hother h.1⟩
      -- a block that is complete leaves nothing pending
      simp only [acceptFrame, hheaders, hpromise, Bool.false_eq_true, if_true, if_false] at haccept
      split at haccept
      · split at haccept
        · cases haccept
        · unfold extendBlock at haccept
          split at haccept <;> cases haccept
          rfl
      · cases haccept
    · exact absurd hhanded hother
  · simp [acceptFrame, hcontinuation, WithinLimit] at hlimit

/-! ## One frame -/

theorem HpackDecoder.decodeHeaderBlock_poisoned (h : d.poisoned = true) (block : Bytes) :
    d.decodeHeaderBlock block = (.error .decoderPoisoned, d) := by
  rw [decodeHeaderBlock, if_pos h]

theorem HpackDecoder.feed_poisoned (h : d.poisoned = true) (block : Option Bytes) : (d.feed block).poisoned = true := by
  cases block with
  | none => exact h
  | some block => rw [feed, decodeHeaderBlock_poisoned h]; exact h

theorem truncated_delivered (h : (readFrame direction sent.delivered {}).2 = some read) :
    read.truncated = !sent.whole := by
  unfold SentFrame.delivered at h
  split at h
  all_goals
    next hwhole =>
      simp only [readFrame] at h
      split at h
      · cases h
      · split at h
        · cases h
        · cases h
          simp [hwhole]

/-- A frame of which a part is missing completes no block and, if none is pending, starts none. -/
theorem intake_truncated (hwhole : ¬ sent.whole = true) (hpending : a.pending = none)
    (hread : (readFrame direction sent.delivered {}).2 = some read) : intake config a read = (a, none) := by
  have htruncated := truncated_delivered hread
  rcases a with ⟨_ | p⟩
  · simp [intake, htruncated, hwhole, reset]
  · cases hpending

/-- The receiver's view of its direction is the connection's, unless the connection's decoder has given up. -/
def Synced (direction : StreamDirection) (w : Watched) : Prop :=
  (w.1.http2.side direction).decoder.poisoned = true ∨
    (w.1.http2.side direction).decoder = w.2.decoder ∧ (w.1.http2.side direction).assembler.fragments = w.2.pending

theorem agrees_of_none (h : fedBlock config direction e.frame.delivered w.1.http2 = none) :
    Agrees config direction w e := by
  intro _ headers hdecoded
  rw [decodedHeaders, h] at hdecoded
  cases hdecoded

theorem step_of_direction (h : e.direction = direction) : w.step config direction e =
      (handleHttp2Frame config direction e.observed e.frame.delivered w.1,
        (w.2.receive direction e.frame.bytes).1) := by
  subst h
  rw [Watched.step, if_pos rfl]

theorem step_poisoned (hd : e.direction = direction) (h : (w.1.http2.side direction).decoder.poisoned = true) :
    Agrees config direction w e ∧ Synced direction (w.step config direction e) := by
  refine ⟨fun _ headers hdecoded => ?_, .inl ?_⟩
  · rw [decodedHeaders] at hdecoded
    obtain ⟨block, -, hblock⟩ := Option.bind_eq_some_iff.mp hdecoded
    rw [HpackDecoder.decodeHeaderBlock_poisoned h] at hblock
    cases hblock
  · rw [step_of_direction hd, (handleHttp2Frame_side config direction e.observed e.frame.delivered w.1).1]
    exact HpackDecoder.feed_poisoned h _

/-- A frame that the assembler takes nothing of, and the receiver neither. -/
theorem step_idle (hd : e.direction = direction) (hsynced : Synced direction w)
    (hidle : ∀ read, (readFrame direction e.frame.delivered {}).2 = some read →
      intake config (w.1.http2.side direction).assembler read = ((w.1.http2.side direction).assembler, none))
    (hreceive : (w.2.receive direction e.frame.bytes).1 = w.2) :
    Agrees config direction w e ∧ Synced direction (w.step config direction e) := by
  have hside : fedBlock config direction e.frame.delivered w.1.http2 = none ∧
      (handleHttp2Frame config direction e.observed e.frame.delivered w.1).http2.side direction =
        w.1.http2.side direction := by
    rw [(handleHttp2Frame_side config direction e.observed e.frame.delivered w.1).1, fedBlock]
    rcases hread : (readFrame direction e.frame.delivered {}).2 with _ | read
    · exact ⟨rfl, rfl⟩
    · simp [hidle read hread, HpackDecoder.feed]
  refine ⟨agrees_of_none hside.1, ?_⟩
  rw [step_of_direction hd, hreceive, Synced, hside.2]
  exact hsynced

section

variable (hd : e.direction = direction) (hread : sentFrame direction e.frame.bytes = some read)
  (hdecoder : (w.1.http2.side direction).decoder = w.2.decoder)
  (hpending : (w.1.http2.side direction).assembler.fragments = w.2.pending)
  (hlimit : WithinLimit config (acceptFrame w.2.pending read.header read.payload))
include hd hread hdecoder hpending hlimit

/-- A frame that was captured whole: the assembler follows the receiver, and so does the decoder. -/
theorem step_whole (hwhole : e.frame.whole = true) (hpromise : ¬ read.header.isPushPromise = true)
    (hhanded : HandedOn direction w.1.http2 read.header (acceptFrame w.2.pending read.header read.payload).2) :
    Agrees config direction w e ∧ Synced direction (w.step config direction e) := by
  have hdelivered : e.frame.delivered = .complete e.frame.bytes := if_pos hwhole
  have hreadFrame : (readFrame direction (.complete e.frame.bytes) {}).2 = some read := hread
  have htruncated := truncated_delivered
    ((congrArg (fun frame => (readFrame direction frame {}).2) hdelivered).trans hread)
  rw [hwhole] at htruncated
  have hfollows := hpending ▸ follows_intake htruncated hpromise (hpending ▸ hlimit)
  have hfed : fedBlock config direction e.frame.delivered w.1.http2 =
      (intake config (w.1.http2.side direction).assembler read).2.bind fun b =>
        if reaches direction w.1.http2 b.header.streamId then some b.block else none := by
    rw [fedBlock, hdelivered, hreadFrame, Option.bind_some]
  have hside := (handleHttp2Frame_side config direction e.observed e.frame.delivered w.1).1
  rw [hdecoder, hdelivered, hreadFrame, ← hdelivered] at hside
  rcases haccept : acceptFrame w.2.pending read.header read.payload with ⟨pending, _ | block | _⟩
  all_goals rw [haccept] at hfollows hlimit hhanded
  · have hnone := hfollows.nothing rfl
    rw [hnone, Option.bind_none] at hfed
    refine ⟨agrees_of_none hfed, .inr ?_⟩
    rw [step_of_direction hd, hside, hfed]
    simp only [HeaderReceiver.receive, hread, haccept]
    exact ⟨rfl, hfollows.fragments⟩
  · obtain ⟨b, hb, rfl, hstream⟩ := hfollows.block block rfl
    rw [hb, Option.bind_some, hstream] at hfed
    have hreceive : w.2.receive direction e.frame.bytes = (⟨(w.2.decoder.decodeHeaderBlock b.block).2, pending⟩,
        some (w.2.decoder.decodeHeaderBlock b.block).1) := by
      simp only [HeaderReceiver.receive, hread, haccept]
    by_cases hknown : reaches direction w.1.http2 read.header.streamId = true
    · rw [if_pos hknown] at hfed
      refine ⟨fun _ headers hdecoded => ?_, .inr ?_⟩
      · rw [decodedHeaders, hfed, Option.bind_some, hdecoder] at hdecoded
        rw [receivedHeaders, hreceive, Option.bind_some]
        exact hdecoded
      · rw [step_of_direction hd, hside, hfed, hreceive]
        exact ⟨rfl, hfollows.fragments⟩
    · -- the block is dropped, and would not have changed the decoder
      rw [if_neg hknown] at hfed
      have hsame : (w.2.decoder.decodeHeaderBlock b.block).2 = w.2.decoder :=
        hdecoder ▸ hhanded.resolve_left fun h => hknown h.2
      refine ⟨agrees_of_none hfed, .inr ?_⟩
      rw [step_of_direction hd, hside, hfed, hreceive]
      exact ⟨hsame.symm, hfollows.fragments⟩
  · exact hlimit.elim

/-- A PUSH_PROMISE, captured whole or not: the connection passes it by, and it changes nothing at the receiver. -/
theorem step_promise (hpromise : read.header.isPushPromise = true)
    (hhanded : HandedOn direction w.1.http2 read.header (acceptFrame w.2.pending read.header read.payload).2) :
    Agrees config direction w e ∧ Synced direction (w.step config direction e) := by
  obtain ⟨hreceiver, block, haccept, hsame⟩ := accept_promise hpromise hlimit hhanded
  obtain ⟨hheaders, hcontinuation⟩ := isPushPromise_ne hpromise
  have hnone : (w.1.http2.side direction).assembler.pending = none :=
    Option.map_eq_none_iff.mp (hpending.trans hreceiver)
  refine step_idle hd (.inr ⟨hdecoder, hpending⟩) (fun read' hdelivered => ?_) ?_
  · by_cases hwhole : e.frame.whole = true
    · rw [SentFrame.delivered, if_pos hwhole] at hdelivered
      cases Option.some.inj (hdelivered.symm.trans hread)
      rw [show (w.1.http2.side direction).assembler = {} from congrArg Http2HeaderBlockAssembler.mk hnone]
      exact intake_other hheaders hcontinuation
    · exact intake_truncated hwhole hnone hdelivered
  · rw [hdecoder] at hsame
    simp only [HeaderReceiver.receive, hread, haccept, hsame]
    exact congrArg (HeaderReceiver.mk w.2.decoder) hreceiver.symm

/-- A frame that was captured in part belongs to no block. -/
theorem step_part (hwhole : ¬ e.frame.whole = true) (hpromise : ¬ read.header.isPushPromise = true)
    (hreceiver : w.2.pending = none) (hheaders : read.header.isHeaders = false) :
    Agrees config direction w e ∧ Synced direction (w.step config direction e) := by
  have hnone : (w.1.http2.side direction).assembler.pending = none :=
    Option.map_eq_none_iff.mp (hpending.trans hreceiver)
  refine step_idle hd (.inr ⟨hdecoder, hpending⟩) (fun _ => intake_truncated hwhole hnone) ?_
  rw [hreceiver] at hlimit
  have haccept := (accept_other hlimit (by simp [hheaders]) hpromise).1
  simp only [HeaderReceiver.receive, hread, hreceiver, haccept]
  exact congrArg (HeaderReceiver.mk w.2.decoder) hreceiver.symm

end

theorem step_intact (hsynced : Synced direction w)
    (h : e.direction = direction → Intact config direction w.1.http2 e.frame) :
    Agrees config direction w e ∧ Synced direction (w.step config direction e) := by
  by_cases hd : e.direction = direction
  · rcases hsynced with hpoisoned | ⟨hdecoder, hpending⟩
    · exact step_poisoned hd hpoisoned
    rcases h hd with hpoisoned | hintact
    · exact step_poisoned hd hpoisoned
    rcases hread : sentFrame direction e.frame.bytes with _ | read
    all_goals rw [hread] at hintact
    · have hreceive : (w.2.receive direction e.frame.bytes).1 = w.2 := by
        simp only [HeaderReceiver.receive, hread]
      refine step_idle hd (.inr ⟨hdecoder, hpending⟩) (fun read hdelivered => ?_) hreceive
      by_cases hwhole : e.frame.whole = true
      · rw [SentFrame.delivered, if_pos hwhole] at hdelivered
        exact absurd (hdelivered.symm.trans hread) (Option.some_ne_none read)
      · exact intake_truncated hwhole (Option.map_eq_none_iff.mp (hintact.resolve_left hwhole)) hdelivered
    · obtain ⟨hcapture, hlimit, hhanded⟩ := hintact
      rw [hpending] at hcapture hlimit hhanded
      by_cases hpromise : read.header.isPushPromise = true
      · exact step_promise hd hread hdecoder hpending hlimit hpromise hhanded
      by_cases hwhole : e.frame.whole = true
      · exact step_whole hd hread hdecoder hpending hlimit hwhole hpromise hhanded
      · obtain ⟨hreceiver, hheaders⟩ := hcapture.resolve_left hwhole
        exact step_part hd hread hdecoder hpending hlimit hwhole hpromise hreceiver hheaders
  · -- a frame of the other direction
    refine ⟨fun h => (hd h).elim, ?_⟩
    have hside := (handleHttp2Frame_side config e.direction e.observed e.frame.delivered w.1).2 direction
      (fun h => hd h.symm)
    rw [Synced, Watched.step, if_neg hd, hside]
    exact hsynced

/-! ## Whole runs -/

/-- **The header decoders do not drift.** On a connection on which no header block of a direction passes the
decoder by, every header list that the decoder of that direction returns is the one that a receiver of all
its header blocks reads at that frame. -/
theorem agrees_of_intact (config : ProtocolExtractionConfig) (direction : StreamDirection) (events : List Http2Event)
    (h : Along (Watched.step config direction)
      (fun w e => e.direction = direction → Intact config direction w.1.http2 e.frame) ({}, {}) events) :
    Along (Watched.step config direction) (Agrees config direction) ({}, {}) events :=
  h.of_invariant (fun _ _ hsynced hintact => step_intact hsynced hintact) (.inr ⟨by cases direction <;> rfl,
    by cases direction <;> rfl⟩)

def headersFrame (streamId : UInt8) (block : Bytes) : SentFrame :=
  let bytes := [0, 0, UInt8.ofNat block.length, http2FrameTypeHeaders, http2FlagEndHeaders ||| http2FlagEndStream,
    0, 0, 0, streamId] ++ block
  ⟨bytes, bytes.length⟩

def getBlock : Bytes := [0x82]
/-- `:status` with its value, entered into the table. -/
def statusBlock (status : String) : Bytes := [0x48, 3] ++ text status
def newestBlock : Bytes := [0xbe]

/-- Two requests and their responses, the second of which indexes what the first one entered. -/
theorem agrees_of_intact_get :
    let events : List Http2Event := [⟨.request, headersFrame 1 getBlock, 0⟩, ⟨.request, headersFrame 5 getBlock, 0⟩,
      ⟨.response, headersFrame 1 (statusBlock "201"), 1⟩, ⟨.response, headersFrame 5 newestBlock, 2⟩]
    Along (Watched.step {} .response) (Agrees {} .response) ({}, {}) events :=
  agrees_of_intact {} .response _ (by decide +kernel)

/-- The same with a response between them on a stream whose request was not seen. Its block enters another
status into the sender's table and never reaches the decoder: the status of stream 5 is reported as 201
where 202 was sent. -/
theorem orphan_not_agrees :
    let events : List Http2Event := [⟨.request, headersFrame 1 getBlock, 0⟩, ⟨.request, headersFrame 5 getBlock, 0⟩,
      ⟨.response, headersFrame 1 (statusBlock "201"), 1⟩, ⟨.response, headersFrame 3 (statusBlock "202"), 2⟩]
    let last : Http2Event := ⟨.response, headersFrame 5 newestBlock, 3⟩
    let w := events.foldl (Watched.step {} .response) ({}, {})
    decodedHeaders {} .response last.frame.delivered w.1.http2 = some [(text ":status", text "201")] ∧
      receivedHeaders .response last.frame.bytes w.2 = some [(text ":status", text "202")] ∧
      ¬ Along (Watched.step {} .response) (Agrees {} .response) ({}, {}) (events ++ [last]) := by
  intro events last w
  have hdecoded : decodedHeaders {} .response last.frame.delivered w.1.http2 =
      some [(text ":status", text "201")] := by decide +kernel
  have hreceived : receivedHeaders .response last.frame.bytes w.2 = some [(text ":status", text "202")] := by
    decide +kernel
  refine ⟨hdecoded, hreceived, fun h => ?_⟩
  obtain ⟨-, -, -, -, h, -⟩ := h
  have hagrees := h rfl _ hdecoded
  revert hagrees
  decide +kernel

end ENavigator.Http2
