import ENavigator.Lib.Bytes

/-!
# Captured streams: protocols, boundaries and frames

The vocabulary of `stream.rs`. A boundary function reads the bytes buffered so far and says where
the frame that starts at the first of them ends (`FrameBoundary`). `FrameStable` is what reassembly
asks of it: once a boundary function has named a frame length, no later byte changes it.
-/

namespace ENavigator.Stream

/-- Application protocol carried by a captured stream. -/
inductive StreamProtocol where
  | http1 | http2 | webSocket | kafka | mongodb | mysql | mysqlCompressed | nats | postgresql | redis
  deriving DecidableEq, Repr

/-- Direction of a captured stream relative to the observed client. -/
inductive StreamDirection where
  | request | response
  deriving DecidableEq, Repr

structure StreamDecodeLimits where
  maxBufferedBytes : Nat := 8 * 1024
  maxFrameBytes : Nat := 64 * 1024 * 1024
  maxFramesPerChunk : Nat := 64

/-- Where the next frame ends relative to the start of the buffered bytes. -/
inductive FrameBoundary where
  | needMoreBytes
  | frame (totalLen : Nat)
  | protocolSwitch (totalLen : Nat) (protocol : StreamProtocol)
  | invalid
  deriving DecidableEq, Repr

inductive StreamFrame where
  | complete (bytes : Bytes)
  | protocolSwitch (bytes : Bytes) (protocol : StreamProtocol)
  | truncated ( pfx : Bytes) (declaredLen : Nat)
  deriving DecidableEq, Repr

/-- The bytes of a frame that were captured. -/
def frameBytes : StreamFrame → Bytes
  | .complete bytes => bytes
  | .truncated bytes _ => bytes
  | .protocolSwitch bytes _ => bytes

/-- Counters describing everything the decoder did not reconstruct. -/
structure StreamDecodeStats where
  completeFrames : Nat := 0
  truncatedFrames : Nat := 0
  invalidFrames : Nat := 0
  resyncs : Nat := 0
  skippedBytes : Nat := 0
  droppedBufferBytes : Nat := 0

def checkedFrame (totalLen maxFrameBytes : Nat) : FrameBoundary :=
  if totalLen > maxFrameBytes then .invalid else .frame totalLen

/-- A length that may have overflowed, as a boundary. -/
def checkedFrame? (totalLen : Option Nat) (maxFrameBytes : Nat) : FrameBoundary :=
  match totalLen with
  | some totalLen => checkedFrame totalLen maxFrameBytes
  | none => .invalid

/-- A frame length, once named, survives every extension of the buffered bytes. -/
def FrameStable (boundary : Bytes → FrameBoundary) : Prop :=
  ∀ (bytes x : Bytes) (n : Nat), boundary bytes = .frame n → boundary (bytes ++ x) = .frame n

def FrameBoundary.isSwitch : FrameBoundary → Bool
  | .protocolSwitch _ _ => true
  | _ => false

/-- The verdict on a part of a stream against the verdict on more of it: it waits, or it is settled and names a
frame within the bound or no frame at all. -/
inductive Settles (max : Nat) : FrameBoundary → FrameBoundary → Prop
  | wait (w : FrameBoundary) : Settles max .needMoreBytes w
  | frame {n : Nat} (hpos : 0 < n) (hle : n ≤ max) : Settles max (.frame n) (.frame n)
  | invalid : Settles max .invalid .invalid

variable {max : Nat} {v w : FrameBoundary}

theorem Settles.frame_eq {n : Nat} (h : Settles max v w) (hv : v = .frame n) : w = .frame n := by
  cases h with
  | wait => cases hv
  | frame => exact hv
  | invalid => cases hv

theorem Settles.isSwitch (h : Settles max v w) : v.isSwitch = false := by
  cases h <;> rfl

theorem settles_checkedFrame {len : Nat} (max : Nat) (hpos : 0 < len) :
    Settles max (checkedFrame len max) (checkedFrame len max) := by
  unfold checkedFrame
  split
  · exact .invalid
  next hle => exact .frame hpos (Nat.not_lt.mp hle)

theorem settles_checkedFrame? {len : Option Nat} (max : Nat) (hpos : ∀ n, len = some n → 0 < n) :
    Settles max (checkedFrame? len max) (checkedFrame? len max) := by
  cases len with
  | none => exact .invalid
  | some n => exact settles_checkedFrame max (hpos n rfl)

theorem settles_checkedAdd {a b : Nat} (max : Nat) (hpos : 0 < a + b) :
    Settles max (checkedFrame? (checkedAdd a b) max) (checkedFrame? (checkedAdd a b) max) :=
  settles_checkedFrame? max fun _ h => (checkedAdd_eq_some_iff.mp h).2 ▸ hpos

theorem settles_of_full {bytes : Bytes} (h : max ≤ bytes.length → w = .invalid) :
    Settles max (if bytes.length ≥ max then .invalid else .needMoreBytes) w := by
  split
  next hfull =>
    rw [h hfull]
    exact .invalid
  next => exact .wait w

end ENavigator.Stream
