import ENavigator.Stream.Types

/-!
# Boundaries read from a binary header

HTTP/2, Kafka, MongoDB, MySQL (plain and compressed), PostgreSQL and WebSocket frames declare their
length in a fixed header. Each boundary function reads that header and nothing behind it, so what it
says of a part of the bytes settles what it says of all of them (`settles_http2Boundary`,
`settles_kafkaBoundary` and so on, one for each).
-/

namespace ENavigator.Stream

open List

/-! ## HTTP/2 -/

def http2Preface : Bytes := text "PRI * HTTP/2.0\r\n\r\nSM\r\n\r\n"

def http2FrameHeaderBytes : Nat := 9

variable (bytes : Bytes) (maxFrameBytes : Nat)

/-- The connection preface, compared as far as it has arrived. -/
def http2PrefaceBoundary : FrameBoundary :=
  if bytes.take http2Preface.length != http2Preface.take bytes.length then .invalid
  else if bytes.length < http2Preface.length then .needMoreBytes
  else checkedFrame http2Preface.length maxFrameBytes

def http2HeaderBoundary : FrameBoundary :=
  match bytes with
  | b0 :: b1 :: b2 :: _ :: _ :: _ :: _ :: _ :: _ :: _ =>
    checkedFrame? (checkedAdd (beNat [b0, b1, b2]) http2FrameHeaderBytes) maxFrameBytes
  | _ => .needMoreBytes

def http2Boundary (allowPreface : Bool) : FrameBoundary :=
  if allowPreface && bytes.head? == some 80 then http2PrefaceBoundary bytes maxFrameBytes
  else http2HeaderBoundary bytes maxFrameBytes

/-! ## Databases and brokers -/

def kafkaBoundary : FrameBoundary :=
  match bytes with
  | b0 :: b1 :: b2 :: b3 :: _ =>
    let declared := signed 32 (beNat [b0, b1, b2, b3])
    if declared ≤ 0 then .invalid
    else checkedFrame? (checkedAdd declared.toNat 4) maxFrameBytes
  | _ => .needMoreBytes

def mongodbBoundary : FrameBoundary :=
  match bytes with
  | b0 :: b1 :: b2 :: b3 :: _ =>
    let declared := signed 32 (leNat [b0, b1, b2, b3])
    if declared < 16 then .invalid else checkedFrame declared.toNat maxFrameBytes
  | _ => .needMoreBytes

def mysqlBoundary : FrameBoundary :=
  match bytes with
  | b0 :: b1 :: b2 :: _ :: _ => checkedFrame (leNat [b0, b1, b2] + 4) maxFrameBytes
  | _ => .needMoreBytes

def mysqlCompressedBoundary : FrameBoundary :=
  match bytes with
  | b0 :: b1 :: b2 :: _ :: _ :: _ :: _ :: _ => checkedFrame (leNat [b0, b1, b2] + 7) maxFrameBytes
  | _ => .needMoreBytes

/-- A message type a PostgreSQL frame may start with: a letter, or `1`, `2`, `3`. -/
def isPostgresTag (b : UInt8) : Bool := isAsciiAlphabetic b || b == 49 || b == 50 || b == 51

def postgresBoundary : FrameBoundary :=
  match bytes with
  | [] => .needMoreBytes
  | b0 :: rest =>
    if b0 = 0 then
      -- Untagged startup-style message: the length counts itself.
      match rest with
      | b1 :: b2 :: b3 :: _ =>
        let declared := beNat [b0, b1, b2, b3]
        if declared < 8 then .invalid else checkedFrame declared maxFrameBytes
      | _ => .needMoreBytes
    else if !isPostgresTag b0 then .invalid
    else match rest with
      | b1 :: b2 :: b3 :: b4 :: _ =>
        let declared := beNat [b1, b2, b3, b4]
        if declared < 4 then .invalid else checkedFrame? (checkedAdd declared 1) maxFrameBytes
      | _ => .needMoreBytes

/-- The one-byte answer to an SSL or GSS request, or the error that replaces it. -/
def postgresNegotiationResponseBoundary : FrameBoundary :=
  match bytes with
  | [] => .needMoreBytes
  | b0 :: _ =>
    if b0 == 78 || b0 == 83 || b0 == 71 then checkedFrame 1 maxFrameBytes
    else if b0 == 69 then postgresBoundary bytes maxFrameBytes
    else .invalid

/-! ## WebSocket -/

inductive WebSocketDirection where
  | clientToServer | serverToClient
  deriving DecidableEq, Repr

inductive WebSocketOpcode where
  | continuation | text | binary | close | ping | pong

def WebSocketOpcode.fromWire (value : UInt8) : Option WebSocketOpcode :=
  if value = 0x0 then some .continuation
  else if value = 0x1 then some .text
  else if value = 0x2 then some .binary
  else if value = 0x8 then some .close
  else if value = 0x9 then some .ping
  else if value = 0xa then some .pong
  else none

def WebSocketOpcode.isControl : WebSocketOpcode → Bool
  | .close | .ping | .pong => true
  | _ => false

inductive WebSocketExtraction where
  | headersTooLong | malformedHandshake | unsupportedExtensions | needMoreBytes | invalidReservedBits
  | invalidOpcode | invalidMasking | invalidLengthEncoding | fragmentedControlFrame
  | controlFrameTooLarge | frameTooLarge | truncatedFrame
  deriving DecidableEq, Repr

structure FrameHeader where
  fin : Bool
  opcode : WebSocketOpcode
  masked : Bool
  payloadLen : Nat
  headerLen : Nat

/-- The payload length and the number of extension bytes that carry it; `rest` follows the two
fixed header bytes. -/
def payloadLength (lengthTag : UInt8) (rest : Bytes) : Except WebSocketExtraction (Option (Nat × Nat)) :=
  if lengthTag ≤ 125 then .ok (some (lengthTag.toNat, 0))
  else if lengthTag = 126 then
    match rest with
    | b2 :: b3 :: _ =>
      let value := beNat [b2, b3]
      if value < 126 then .error .invalidLengthEncoding else .ok (some (value, 2))
    | _ => .ok none
  else if lengthTag = 127 then
    match rest with
    | b2 :: b3 :: b4 :: b5 :: b6 :: b7 :: b8 :: b9 :: _ =>
      if b2 &&& 0x80 ≠ 0 then .error .invalidLengthEncoding
      else
        let value := beNat [b2, b3, b4, b5, b6, b7, b8, b9]
        if value < 65536 then .error .invalidLengthEncoding else .ok (some (value, 8))
    | _ => .ok none
  else .error .invalidLengthEncoding

def parseFrameHeader (direction : WebSocketDirection) : Except WebSocketExtraction (Option FrameHeader) :=
  match bytes with
  | b0 :: b1 :: rest =>
    let fin := b0 &&& 0x80 != 0
    let masked := b1 &&& 0x80 != 0
    if b0 &&& 0x70 ≠ 0 then .error .invalidReservedBits
    else match WebSocketOpcode.fromWire (b0 &&& 0x0f) with
    | none => .error .invalidOpcode
    | some opcode =>
      if masked ≠ (direction == .clientToServer) then .error .invalidMasking
      else match payloadLength (b1 &&& 0x7f) rest with
      | .error e => .error e
      | .ok none => .ok none
      | .ok (some (payloadLen, extensionLen)) =>
        if opcode.isControl && !fin then .error .fragmentedControlFrame
        else if opcode.isControl && decide (payloadLen > 125) then .error .controlFrameTooLarge
        else
          let headerLen := 2 + extensionLen + masked.toNat * 4
          if bytes.length < headerLen then .ok none
          else .ok (some { fin, opcode, masked, payloadLen, headerLen })
  | _ => .ok none

/-- The boundary of a WebSocket frame; every error of the header parser is an invalid boundary. -/
def webSocketBoundary (direction : WebSocketDirection) (maxFrameBytes : Nat) : FrameBoundary :=
  match parseFrameHeader bytes direction with
  | .error _ => .invalid
  | .ok none => .needMoreBytes
  | .ok (some header) => checkedFrame? (checkedAdd header.headerLen header.payloadLen) maxFrameBytes

/-! ## The header decides -/

variable (max : Nat) (bytes x : Bytes)

theorem settles_http2PrefaceBoundary :
    Settles max (http2PrefaceBoundary bytes max) (http2PrefaceBoundary (bytes ++ x) max) := by
  -- What agrees with the preface agreed with it before.
  have hback : (bytes ++ x).take http2Preface.length = http2Preface.take (bytes ++ x).length →
      bytes.take http2Preface.length = http2Preface.take bytes.length := by
    intro h
    have hpart := congrArg (List.take bytes.length) h
    rw [take_take, take_take, take_append_of_le_length (Nat.min_le_left _ _), length_append,
      Nat.min_eq_left (Nat.le_add_right _ _), Nat.min_comm] at hpart
    rw [take_eq_take_min]
    exact hpart
  simp only [http2PrefaceBoundary, bne_iff_ne, ne_eq, ite_not]
  by_cases hb : bytes.take http2Preface.length = http2Preface.take bytes.length
  · rw [if_pos hb]
    split
    · exact .wait _
    next hlen =>
      have hle : http2Preface.length ≤ bytes.length := Nat.le_of_not_lt hlen
      have hle' : http2Preface.length ≤ (bytes ++ x).length := by
        rw [length_append]
        omega
      rw [take_of_length_le hle] at hb
      rw [take_append_of_le_length hle, take_of_length_le hle', if_pos hb, if_neg (Nat.not_lt.mpr hle')]
      exact settles_checkedFrame max (by decide)
  · rw [if_neg hb, if_neg (mt hback hb)]
    exact .invalid

theorem settles_http2HeaderBoundary :
    Settles max (http2HeaderBoundary bytes max) (http2HeaderBoundary (bytes ++ x) max) := by
  unfold http2HeaderBoundary
  split
  · exact settles_checkedAdd max (Nat.succ_pos _)
  · exact .wait _

theorem settles_http2Boundary (allowPreface : Bool) {bytes : Bytes} (x : Bytes) (hne : bytes ≠ []) :
    Settles max (http2Boundary bytes max allowPreface) (http2Boundary (bytes ++ x) max allowPreface) := by
  unfold http2Boundary
  rw [List.head?_append_of_ne_nil _ hne]
  split
  · exact settles_http2PrefaceBoundary max bytes x
  · exact settles_http2HeaderBoundary max bytes x

theorem settles_kafkaBoundary :
    Settles max (kafkaBoundary bytes max) (kafkaBoundary (bytes ++ x) max) := by
  unfold kafkaBoundary
  split
  · dsimp only [cons_append]
    split
    · exact .invalid
    · exact settles_checkedAdd max (Nat.succ_pos _)
  · exact .wait _

theorem settles_mongodbBoundary :
    Settles max (mongodbBoundary bytes max) (mongodbBoundary (bytes ++ x) max) := by
  unfold mongodbBoundary
  split
  · dsimp only [cons_append]
    split
    · exact .invalid
    · exact settles_checkedFrame max (by omega)
  · exact .wait _

theorem settles_mysqlBoundary :
    Settles max (mysqlBoundary bytes max) (mysqlBoundary (bytes ++ x) max) := by
  unfold mysqlBoundary
  split
  · exact settles_checkedFrame max (Nat.succ_pos _)
  · exact .wait _

theorem settles_mysqlCompressedBoundary :
    Settles max (mysqlCompressedBoundary bytes max) (mysqlCompressedBoundary (bytes ++ x) max) := by
  unfold mysqlCompressedBoundary
  split
  · exact settles_checkedFrame max (Nat.succ_pos _)
  · exact .wait _

theorem settles_postgresBoundary :
    Settles max (postgresBoundary bytes max) (postgresBoundary (bytes ++ x) max) := by
  unfold postgresBoundary
  cases bytes with
  | nil => exact .wait _
  | cons b0 rest =>
    dsimp only [cons_append]
    split
    · split
      · dsimp only [cons_append]
        split
        · exact .invalid
        · exact settles_checkedFrame max (by omega)
      · exact .wait _
    · split
      · exact .invalid
      · split
        · dsimp only [cons_append]
          split
          · exact .invalid
          · exact settles_checkedAdd max (Nat.succ_pos _)
        · exact .wait _

theorem payloadLength_part (tag : UInt8) (rest x : Bytes) :
    payloadLength tag rest = .ok none ∨ payloadLength tag (rest ++ x) = payloadLength tag rest := by
  unfold payloadLength
  split
  · exact .inr rfl
  · split
    · split
      · exact .inr rfl
      · exact .inl rfl
    · split
      · split
        · exact .inr rfl
        · exact .inl rfl
      · exact .inr rfl

theorem parseFrameHeader_part (direction : WebSocketDirection) :
    parseFrameHeader bytes direction = .ok none ∨
      parseFrameHeader (bytes ++ x) direction = parseFrameHeader bytes direction := by
  match bytes with
  | [] | [_] => exact .inl rfl
  | b0 :: b1 :: rest =>
    simp only [parseFrameHeader, cons_append]
    split
    · exact .inr rfl
    · cases WebSocketOpcode.fromWire (b0 &&& 0x0f) with
      | none => exact .inr rfl
      | some opcode =>
        dsimp only
        split
        · exact .inr rfl
        rcases payloadLength_part (b1 &&& 0x7f) rest x with hwait | hsame
        · rw [hwait]
          exact .inl rfl
        rw [hsame]
        cases payloadLength (b1 &&& 0x7f) rest with
        | error e => exact .inr rfl
        | ok len =>
          cases len with
          | none => exact .inr rfl
          | some len =>
            dsimp only
            split
            · exact .inr rfl
            split
            · exact .inr rfl
            split
            · exact .inl rfl
            next hlen =>
              refine .inr (if_neg ?_)
              simp only [length_cons, length_append] at hlen ⊢
              omega

theorem settles_webSocketBoundary (direction : WebSocketDirection) (max : Nat) (bytes x : Bytes) :
    Settles max (webSocketBoundary bytes direction max) (webSocketBoundary (bytes ++ x) direction max) := by
  unfold webSocketBoundary
  rcases parseFrameHeader_part bytes x direction with hwait | hsame
  · rw [hwait]
    exact .wait _
  · rw [hsame]
    split
    · exact .invalid
    · exact .wait _
    next header hheader =>
      have hpos : 0 < header.headerLen := by
        unfold parseFrameHeader at hheader
        grind
      exact settles_checkedAdd max (Nat.add_pos_left hpos _)

end ENavigator.Stream
