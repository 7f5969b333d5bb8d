import ENavigator.Stream.Boundary

/-!
# The stream decoder

`ProtocolStreamDecoder` reassembles one direction of one connection. Capture hands it, per system
call, a prefix of the bytes and the true length (`pushChunk`); it answers with the frames it could
recover and keeps what it needs to go on: a bounded buffer that starts at a frame boundary, the
number of stream bytes still to skip, and whether its position in the stream is lost (`resync`).

Each method of the source that appends to the caller's list of frames returns the frames it appends.
-/

namespace ENavigator.Stream

structure ProtocolStreamDecoder where
  protocol : StreamProtocol
  direction : StreamDirection
  limits : StreamDecodeLimits
  buffer : Bytes
  pendingSkip : Nat
  resync : Bool
  postgresNegotiationResponse : Bool
  stats : StreamDecodeStats

variable [Base64] (d : ProtocolStreamDecoder)

namespace ProtocolStreamDecoder

def new (protocol : StreamProtocol) (direction : StreamDirection) (limits : StreamDecodeLimits) :
    ProtocolStreamDecoder where
  protocol := protocol
  direction := direction
  limits := limits
  buffer := []
  pendingSkip := 0
  resync := false
  postgresNegotiationResponse := false
  stats := {}

/-- Rebinds this direction to a new protocol; partial old bytes are counted as dropped. -/
def switchProtocol (protocol : StreamProtocol) : ProtocolStreamDecoder :=
  if d.protocol = protocol then d
  else { d with
    stats := { d.stats with droppedBufferBytes := d.stats.droppedBufferBytes + d.buffer.length }
    buffer := []
    pendingSkip := 0
    resync := false
    postgresNegotiationResponse := false
    protocol := protocol }

def expectPostgresNegotiationResponse : ProtocolStreamDecoder :=
  { d with postgresNegotiationResponse := true }

def beginResync : ProtocolStreamDecoder :=
  { d with
    buffer := []
    pendingSkip := 0
    resync := false
    stats := { d.stats with resyncs := d.stats.resyncs + 1 } }

/-- Applies the pending skip to a chunk; the visible bytes behind it, or `none` if the chunk is
used up. -/
def consumePendingSkip (captured : Bytes) (chunkTotalLen : Nat) : ProtocolStreamDecoder × Option Bytes :=
  let skipped (n : Nat) : StreamDecodeStats :=
    { d.stats with skippedBytes := d.stats.skippedBytes + n }
  if d.pendingSkip = 0 then (d, some captured)
  else if d.pendingSkip ≥ chunkTotalLen then
    ({ d with pendingSkip := d.pendingSkip - chunkTotalLen, stats := skipped chunkTotalLen }, none)
  else if d.pendingSkip < captured.length then
    ({ d with pendingSkip := 0, stats := skipped d.pendingSkip }, some (captured.drop d.pendingSkip))
  else
    -- The skip ends inside the uncaptured tail, so the next boundary was never captured.
    ({ d with pendingSkip := 0, stats := skipped d.pendingSkip, resync := true }, none)

/-- Buffers the visible bytes; what does not fit is returned as additional gap. -/
def bufferVisible (visible : Bytes) : ProtocolStreamDecoder × Nat :=
  let space := d.limits.maxBufferedBytes - d.buffer.length
  if visible.length ≤ space then ({ d with buffer := d.buffer ++ visible }, 0)
  else
    let dropped := visible.length - space
    ({ d with
      buffer := d.buffer ++ visible.take space
      stats := { d.stats with droppedBufferBytes := d.stats.droppedBufferBytes + dropped } }, dropped)

def discardBufferPrefix (consumed : Nat) : ProtocolStreamDecoder :=
  { d with buffer := d.buffer.drop consumed }

/-- The buffer holds the start of a frame of known length that it does not hold whole. -/
def finishPartialFrame (totalLen gap : Nat) : ProtocolStreamDecoder × List StreamFrame :=
  if gap = 0 ∧ totalLen ≤ d.limits.maxBufferedBytes then (d, [])
  else
    let remaining := totalLen - d.buffer.length
    let stats := { d.stats with truncatedFrames := d.stats.truncatedFrames + 1 }
    let frames := [StreamFrame.truncated d.buffer totalLen]
    if gap > remaining then ({ d with buffer := [], stats := stats, resync := true }, frames)
    else ({ d with buffer := [], stats := stats, pendingSkip := remaining - gap }, frames)

/-- The buffered bytes do not yet reveal a frame boundary. -/
def finishUnknownBoundary (gap : Nat) : ProtocolStreamDecoder :=
  if gap > 0 ∨ d.buffer.length ≥ d.limits.maxBufferedBytes then
    { d with
      stats := { d.stats with droppedBufferBytes := d.stats.droppedBufferBytes + d.buffer.length }
      buffer := []
      resync := true }
  else d

/-- The boundary of the frame that starts `consumed` bytes into the buffer. -/
def boundaryAt (consumed : Nat) : FrameBoundary :=
  if d.postgresNegotiationResponse then
    postgresNegotiationResponseBoundary (d.buffer.drop consumed) d.limits.maxFrameBytes
  else frameBoundary d.protocol d.direction (d.buffer.drop consumed) d.limits.maxFrameBytes

def completeFrame : ProtocolStreamDecoder :=
  { d with stats := { d.stats with completeFrames := d.stats.completeFrames + 1 } }

/-- The frame budget of the chunk is used up. -/
def finishBudget (gap consumed : Nat) : ProtocolStreamDecoder :=
  if gap > 0 then { d with buffer := [], resync := true } else d.discardBufferPrefix consumed

/-- The loop of `extract_frames`, with `consumed` bytes of the buffer already handed out. -/
def extractLoop (gap : Nat) : Nat → ProtocolStreamDecoder → Nat → ProtocolStreamDecoder × List StreamFrame
  | 0, d, consumed => (d.finishBudget gap consumed, [])
  | budget + 1, d, consumed =>
    match d.boundaryAt consumed with
    | .frame totalLen =>
      if totalLen ≤ d.buffer.length - consumed then
        let frame := StreamFrame.complete ((d.buffer.drop consumed).take totalLen)
        let d := { d.completeFrame with postgresNegotiationResponse := false }
        if consumed + totalLen = d.buffer.length ∧ gap = 0 then ({ d with buffer := [] }, [frame])
        else
          let (d, frames) := extractLoop gap budget d (consumed + totalLen)
          (d, frame :: frames)
      else (d.discardBufferPrefix consumed).finishPartialFrame totalLen gap
    | .protocolSwitch totalLen protocol =>
      if totalLen ≤ d.buffer.length - consumed then
        let frame := StreamFrame.protocolSwitch ((d.buffer.drop consumed).take totalLen) protocol
        let d := { d.completeFrame with protocol := protocol }
        if consumed + totalLen = d.buffer.length ∧ gap = 0 then ({ d with buffer := [] }, [frame])
        else
          let (d, frames) := extractLoop gap budget d (consumed + totalLen)
          (d, frame :: frames)
      else (d.discardBufferPrefix consumed).finishPartialFrame totalLen gap
    | .needMoreBytes => ((d.discardBufferPrefix consumed).finishUnknownBoundary gap, [])
    | .invalid =>
      ({ d with
        stats := { d.stats with invalidFrames := d.stats.invalidFrames + 1 }
        buffer := []
        resync := true }, [])

def extractFrames (gap : Nat) : ProtocolStreamDecoder × List StreamFrame :=
  extractLoop gap d.limits.maxFramesPerChunk d 0

/-- Feeds one captured chunk; `chunkTotalLen` is the full length of the system call. -/
def pushChunk (captured : Bytes) (chunkTotalLen : Nat) : ProtocolStreamDecoder × List StreamFrame :=
  let chunkTotalLen := max chunkTotalLen captured.length
  let d := if d.resync then d.beginResync else d
  match d.consumePendingSkip captured chunkTotalLen with
  | (d, none) => (d, [])
  | (d, some visible) =>
    let gap := chunkTotalLen - captured.length
    let (d, dropped) := d.bufferVisible visible
    d.extractFrames (gap + dropped)

end ProtocolStreamDecoder

end ENavigator.Stream
