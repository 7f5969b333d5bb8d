import ENavigator.Stream.Reassembly

/-!
# One direction of a connection

`StreamSide.feed` is what the registry does with a captured system call before it looks at the frames: it pushes
the bytes and works out the time at which the frames count as received.

`Peer` puts the sender beside it: the frames it has sent, the bytes of them that no system call has moved yet, and
when each of the others was moved; `lastTimes` reads off when a frame was there whole, and `Peer.arrived` how many
frames are. The sender may add a frame at any time (`Aligned.snoc`), and a system call hands out the next frames
(`receive_advances`); where the boundary function names only frames that are there whole, each of them complete
(`receive_complete`).
-/

namespace ENavigator.Stream

open List

structure StreamSide where
  decoder : ProtocolStreamDecoder
  frameStartedUnixNanos : Option Nat := none

/-- The frames of one captured system call and the time they are handled at. -/
def StreamSide.feed [Base64] (side : StreamSide) (captured : Bytes) (totalLen observed : Nat) :
    StreamSide × List StreamFrame × Nat :=
  let frameStarted := side.frameStartedUnixNanos.getD observed
  let (decoder, frames) := side.decoder.pushChunk captured totalLen
  let pending :=
    if decoder.buffer.length = 0 then none
    else if decoder.stats.completeFrames > side.decoder.stats.completeFrames then some observed
    else some frameStarted
  (⟨decoder, pending⟩, frames, frameStarted)

/-! ## The sender -/

structure Peer where
  side : StreamSide
  sent : List Bytes := []
  unread : Bytes := []
  /-- for each byte that was moved, the time of the system call that moved it -/
  clock : List Nat := []

namespace Peer

open ProtocolStreamDecoder

variable [Base64]

def start (protocol : StreamProtocol) (direction : StreamDirection) (limits : StreamDecodeLimits) : Peer where
  side := ⟨new protocol direction limits, none⟩

def send (d : Peer) (frame : Bytes) : Peer :=
  { d with sent := d.sent ++ [frame], unread := d.unread ++ frame }

/-- The bytes that a system call for `total` of them moves, of which `captured` are visible. -/
def nextChunk (d : Peer) (captured total : Nat) : Chunk where
  bytes := d.unread.take total
  captured := min captured (d.unread.take total).length
  captured_le := Nat.min_le_right _ _

def receive (d : Peer) (captured total observed : Nat) : Peer × List StreamFrame × Nat :=
  let chunk := d.nextChunk captured total
  let (side, frames, time) := d.side.feed chunk.visible chunk.bytes.length observed
  ({ d with
      side := side
      unread := d.unread.drop total
      clock := d.clock ++ List.replicate chunk.bytes.length observed }, frames, time)

end Peer

/-- When the last byte of each frame was moved; `none` for a frame that is not there whole. -/
def lastTimes (clock : List Nat) : List Bytes → List (Option Nat)
  | [] => []
  | f :: fs => clock[f.length - 1]? :: lastTimes (clock.drop f.length) fs

theorem lastTimes_append (clock : List Nat) (before after : List Bytes) :
    lastTimes clock (before ++ after) =
      lastTimes clock before ++ lastTimes (clock.drop before.flatten.length) after := by
  induction before generalizing clock with
  | nil => rfl
  | cons f fs ih => rw [cons_append, lastTimes, lastTimes, ih, drop_drop, flatten_cons, length_append, cons_append]

/-- Frames that are there whole keep their times. -/
theorem lastTimes_later {frames : List Bytes} (hne : ∀ f ∈ frames, f ≠ []) {clock : List Nat}
    (hclock : frames.flatten.length ≤ clock.length) (later : List Nat) :
    lastTimes (clock ++ later) frames = lastTimes clock frames := by
  induction frames generalizing clock with
  | nil => rfl
  | cons f fs ih =>
    obtain ⟨hf, hfs⟩ := forall_mem_cons.mp hne
    have hpos : 0 < f.length := length_pos_iff.mpr hf
    rw [flatten_cons, length_append] at hclock
    have hdrop : fs.flatten.length ≤ (clock.drop f.length).length := by
      rw [length_drop]
      omega
    rw [lastTimes, lastTimes, getElem?_append_left (by omega), drop_append_of_le_length (by omega), ih hfs hdrop]

theorem lastTimes_replicate {frames : List Bytes} (hne : ∀ f ∈ frames, f ≠ []) {n : Nat}
    (hn : frames.flatten.length ≤ n) (time : Nat) :
    lastTimes (List.replicate n time) frames = frames.map fun _ => some time := by
  induction frames generalizing n with
  | nil => rfl
  | cons f fs ih =>
    obtain ⟨hf, hfs⟩ := forall_mem_cons.mp hne
    have hpos : 0 < f.length := length_pos_iff.mpr hf
    rw [flatten_cons, length_append] at hn
    rw [lastTimes, getElem?_replicate, if_pos (by omega), drop_replicate, ih hfs (by omega), map_cons]

/-- How many of the frames the first `n` bytes of them hold whole. -/
def framesIn (n : Nat) : List Bytes → Nat
  | [] => 0
  | f :: fs => if f.length ≤ n then framesIn (n - f.length) fs + 1 else 0

theorem framesIn_append (before after : List Bytes) (n : Nat) :
    framesIn (before.flatten.length + n) (before ++ after) = before.length + framesIn n after := by
  induction before with
  | nil => simp
  | cons f fs ih =>
    have hle : f.length ≤ (f :: fs).flatten.length + n := by
      rw [flatten_cons, length_append]
      omega
    have hrest : (f :: fs).flatten.length + n - f.length = fs.flatten.length + n := by
      rw [flatten_cons, length_append]
      omega
    rw [cons_append, framesIn, if_pos hle, hrest, ih, length_cons]
    omega

theorem framesIn_zero {frames : List Bytes} (hne : ∀ f ∈ frames, f ≠ []) : framesIn 0 frames = 0 := by
  cases frames with
  | nil => rfl
  | cons f fs =>
    have hpos : 0 < f.length := length_pos_iff.mpr (hne f mem_cons_self)
    rw [framesIn, if_neg (by omega)]

/-- How many of the frames that were sent have been moved whole. -/
def Peer.arrived (d : Peer) : Nat := framesIn d.clock.length d.sent

theorem Delimited.snoc {boundary : Bytes → FrameBoundary} (hstable : FrameStable boundary) {frames : List Bytes}
    {frame : Bytes} (h : Delimited boundary frames) (hframe : boundary frame = .frame frame.length) :
    Delimited boundary (frames ++ [frame]) := by
  induction frames with
  | nil =>
    refine ⟨?_, trivial⟩
    rw [flatten_nil, append_nil]
    exact hframe
  | cons f fs ih =>
    refine ⟨?_, ih h.2⟩
    show boundary (f ++ (fs ++ [frame]).flatten) = _
    rw [flatten_append, flatten_singleton, ← append_assoc]
    exact hstable _ frame _ h.1

namespace ProtocolStreamDecoder

theorem Aligned.snoc [Base64] {ch : Channel} (hp : ¬ switches ch.protocol ch.direction) {d : ProtocolStreamDecoder}
    {frames : List Bytes} {future frame : Bytes} (h : Aligned ch d frames future)
    (hframe : ch.boundary frame = .frame frame.length) : Aligned ch d (frames ++ [frame]) (future ++ frame) := by
  obtain ⟨hsynced, hdelimited, ⟨skipped, hskipped, hstream⟩, hskipping⟩ := h
  refine ⟨hsynced, hdelimited.snoc (frameBoundary_stable hp _) hframe, ⟨skipped, hskipped, ?_⟩, hskipping⟩
  rw [flatten_append, flatten_singleton, ← append_assoc, hstream, append_assoc]

end ProtocolStreamDecoder

theorem Peer.receive_advances [Base64] {ch : Channel} {d : Peer} (hp : ¬ switches ch.protocol ch.direction)
    {rest : List Bytes} (h : ProtocolStreamDecoder.Aligned ch d.side.decoder rest d.unread)
    (captured total observed : Nat) :
    ProtocolStreamDecoder.Advances ch rest (d.receive captured total observed).1.unread
      ((d.receive captured total observed).1.side.decoder, (d.receive captured total observed).2.1) := by
  have hunread : d.unread = (d.nextChunk captured total).bytes ++ d.unread.drop total :=
    (take_append_drop total d.unread).symm
  rw [hunread] at h
  exact ProtocolStreamDecoder.pushChunk_aligned hp h

/-! ## Frames that are named only when they are there -/

theorem namedWhole_redisResponse [Base64] (limits : StreamDecodeLimits) :
    NamedWhole (Channel.boundary ⟨.redis, .response, limits⟩) := by
  intro bytes n h
  dsimp only [Channel.boundary, frameBoundary] at h
  split at h
  · cases h
  · exact redisResponseBoundary_le h

namespace Peer

open ProtocolStreamDecoder

variable {ch : Channel} {d : Peer} {handed : List StreamFrame}

theorem eq_map_complete {boundary : Bytes → FrameBoundary} (hwhole : NamedWhole boundary) {done : List Bytes}
    (h : List.Forall₂ (Handed boundary) done handed) : handed = done.map .complete := by
  induction h with
  | nil => rfl
  | cons hf _ ih => rw [map_cons, ← ih, hf.complete hwhole]

/-- Each of them is complete, if the boundary function names only what is there. -/
theorem receive_complete [Base64] (hp : ¬ switches ch.protocol ch.direction) (hwhole : NamedWhole ch.boundary)
    {rest : List Bytes} (haligned : Aligned ch d.side.decoder rest d.unread) (captured total observed : Nat) :
    ∃ more rest', rest = more ++ rest' ∧ (d.receive captured total observed).2.1 = more.map .complete ∧
      ((d.receive captured total observed).1.side.decoder.resync = true ∨
        Aligned ch (d.receive captured total observed).1.side.decoder rest'
          (d.receive captured total observed).1.unread) := by
  obtain ⟨more, rest', hrest, hmore, hplace⟩ := receive_advances hp haligned captured total observed
  exact ⟨more, rest', hrest, eq_map_complete hwhole hmore, hplace⟩

end Peer

end ENavigator.Stream
