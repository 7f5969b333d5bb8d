import ENavigator.Lib.Bytes
import ENavigator.Lib.SizedTable

/-!
# HPACK decoding

The connection-scoped header decoder: integers, Huffman strings, the static and the dynamic table and
the loop over the fields of a block. Strings are kept as their UTF-8 octets.

The source's functions move a cursor over the block; here they take the bytes from the cursor on and
return those they leave. A code word of the Huffman reader has at most 30 bits, so the 32-bit
accumulator is a natural number.
-/

namespace ENavigator.Http2

def maxHpackHeadersPerBlock : Nat := 64
def maxHpackNameBytes : Nat := 128
def maxHpackValueBytes : Nat := 1024
def maxHpackDynamicTableBytes : Nat := 64 * 1024
def defaultHpackDynamicTableBytes : Nat := 4096
def hpackEntryOverheadBytes : Nat := 32
def maxHpackIntContinuationBytes : Nat := 5
def huffmanEosSymbol : Nat := 256

inductive Http2Extraction where
  | malformedFrame | headersTooLong | invalidHpack | invalidHuffman | decoderPoisoned | unsupportedFrame
  | continuationExpected | unexpectedContinuation | continuationStreamMismatch | invalidStatusCode
  deriving DecidableEq, Repr

abbrev Header := Bytes × Bytes

/-! ## Integers -/

/-- The continuation bytes of an integer: `turns` more of them may be read. -/
def decodeContinuation : Nat → Nat → Nat → Bytes → Except Http2Extraction (Nat × Bytes)
  | 0, _, _, _ => .error .invalidHpack
  | _ + 1, _, _, [] => .error .invalidHpack
  | turns + 1, shift, value, byte :: rest =>
    -- `checked_shl` refuses the shift only; bits above the 32-bit word are lost
    if shift ≥ 32 then .error .invalidHpack
    else
      let addend := ((byte &&& 0x7f).toNat <<< shift) % 2 ^ 32
      if value + addend ≥ 2 ^ 32 then .error .invalidHpack
      else if byte &&& 0x80 = 0 then .ok (value + addend, rest)
      else decodeContinuation turns (shift + 7) (value + addend) rest

def decodeInteger (prefixBits : Nat) : Bytes → Except Http2Extraction (Nat × Bytes)
  | [] => .error .invalidHpack
  | first :: rest =>
    let mask := 2 ^ prefixBits - 1
    let value := first.toNat &&& mask
    if value < mask then .ok (value, rest)
    else decodeContinuation maxHpackIntContinuationBytes 0 value rest

/-! ## Huffman strings -/

def huffmanLengths : List Nat :=
  [5, 6, 7, 8, 10, 11, 12, 13, 14, 15, 19, 20, 21, 22, 23, 24, 25, 26, 27, 28, 30]

def huffmanFirstCode : List Nat :=
  [0, 20, 92, 248, 1016, 2042, 4090, 8184, 16380, 32764, 524272, 1048550, 2097116, 4194258, 8388568,
   16777194, 33554412, 67108832, 134217694, 268435426, 1073741820]

def huffmanFirstIndex : List Nat :=
  [0, 10, 36, 68, 74, 79, 82, 84, 90, 92, 95, 98, 106, 119, 145, 174, 186, 190, 205, 224, 253]

def huffmanCount : List Nat :=
  [10, 26, 32, 6, 5, 3, 2, 6, 2, 3, 3, 8, 13, 26, 29, 12, 4, 15, 19, 29, 4]

def huffmanSymbols : List Nat :=
  [48, 49, 50, 97, 99, 101, 105, 111, 115, 116, 32, 37, 45, 46, 47, 51, 52, 53, 54, 55, 56, 57, 61, 65,
   95, 98, 100, 102, 103, 104, 108, 109, 110, 112, 114, 117, 58, 66, 67, 68, 69, 70, 71, 72, 73, 74, 75,
   76, 77, 78, 79, 80, 81, 82, 83, 84, 85, 86, 87, 89, 106, 107, 113, 118, 119, 120, 121, 122, 38, 42,
   44, 59, 88, 90, 33, 34, 40, 41, 63, 39, 43, 124, 35, 62, 0, 36, 64, 91, 93, 126, 94, 125, 60, 96,
   123, 92, 195, 208, 128, 130, 131, 162, 184, 194, 224, 226, 153, 161, 167, 172, 176, 177, 179, 209,
   216, 217, 227, 229, 230, 129, 132, 133, 134, 136, 146, 154, 156, 160, 163, 164, 169, 170, 173, 178,
   181, 185, 186, 187, 189, 190, 196, 198, 228, 232, 233, 1, 135, 137, 138, 139, 140, 141, 143, 147,
   149, 150, 151, 152, 155, 157, 158, 165, 166, 168, 174, 175, 180, 182, 183, 188, 191, 197, 231, 239,
   9, 142, 144, 145, 148, 159, 171, 206, 215, 225, 236, 237, 199, 207, 234, 235, 192, 193, 200, 201,
   202, 205, 210, 213, 218, 219, 238, 240, 242, 243, 255, 203, 204, 211, 212, 214, 221, 222, 223, 241,
   244, 245, 246, 247, 248, 250, 251, 252, 253, 254, 2, 3, 4, 5, 6, 7, 8, 11, 12, 14, 15, 16, 17, 18,
   19, 20, 21, 23, 24, 25, 26, 27, 28, 29, 30, 31, 127, 220, 249, 10, 13, 22, 256]

def huffmanSymbol (code codeBits : Nat) : Option Nat :=
  (huffmanLengths.findIdx? (· == codeBits)).bind fun position =>
    let firstCode := huffmanFirstCode.getD position 0
    let count := huffmanCount.getD position 0
    if code ≥ firstCode && code < firstCode + count then
      huffmanSymbols[huffmanFirstIndex.getD position 0 + (code - firstCode)]?
    else none

/-- The bits of a byte, most significant first. -/
def byteBits (byte : UInt8) : List Bool := [7, 6, 5, 4, 3, 2, 1, 0].map fun i => byte.toNat.testBit i

structure HuffmanState where
  output : Bytes := []
  code : Nat := 0
  codeBits : Nat := 0

def huffmanBit (maxBytes : Nat) (s : HuffmanState) (bit : Bool) : Except Http2Extraction HuffmanState :=
  let code := 2 * s.code + bit.toNat
  let codeBits := s.codeBits + 1
  match huffmanSymbol code codeBits with
  | some symbol =>
    if symbol = huffmanEosSymbol then .error .invalidHuffman
    else if s.output.length ≥ maxBytes then .error .headersTooLong
    else .ok { output := s.output ++ [UInt8.ofNat symbol], code := 0, codeBits := 0 }
  | none =>
    if codeBits ≥ 30 then .error .invalidHuffman
    else .ok { s with code := code, codeBits := codeBits }

def huffmanDecode (input : Bytes) (maxBytes : Nat) : Except Http2Extraction Bytes :=
  match (input.flatMap byteBits).foldlM (huffmanBit maxBytes) {} with
  | .error e => .error e
  | .ok s =>
    -- what is left has to be a start of the end-of-string word
    if s.codeBits > 7 || s.code != 2 ^ s.codeBits - 1 then .error .invalidHuffman else .ok s.output

def decodeString (maxBytes : Nat) : Bytes → Except Http2Extraction (Bytes × Bytes)
  | [] => .error .invalidHpack
  | first :: tail => do
    let huffman := first &&& 0x80 != 0
    let (length, rest) ← decodeInteger 7 (first :: tail)
    if rest.length < length then throw .invalidHpack
    let raw := rest.take length
    let bytes ← if huffman then huffmanDecode raw maxBytes
      else if raw.length > maxBytes then throw .headersTooLong else pure raw
    if validUtf8 bytes then pure (bytes, rest.drop length) else throw .invalidHpack

/-! ## The tables -/

def hpackStaticTable : List Header :=
  ([(":authority", ""), (":method", "GET"), (":method", "POST"), (":path", "/"),
   (":path", "/index.html"), (":scheme", "http"), (":scheme", "https"), (":status", "200"),
   (":status", "204"), (":status", "206"), (":status", "304"), (":status", "400"),
   (":status", "404"), (":status", "500"), ("accept-charset", ""), ("accept-encoding", "gzip, deflate"),
   ("accept-language", ""), ("accept-ranges", ""), ("accept", ""), ("access-control-allow-origin", ""),
   ("age", ""), ("allow", ""), ("authorization", ""), ("cache-control", ""),
   ("content-disposition", ""), ("content-encoding", ""), ("content-language", ""), ("content-length", ""),
   ("content-location", ""), ("content-range", ""), ("content-type", ""), ("cookie", ""),
   ("date", ""), ("etag", ""), ("expect", ""), ("expires", ""),
   ("from", ""), ("host", ""), ("if-match", ""), ("if-modified-since", ""),
   ("if-none-match", ""), ("if-range", ""), ("if-unmodified-since", ""), ("last-modified", ""),
   ("link", ""), ("location", ""), ("max-forwards", ""), ("proxy-authenticate", ""),
   ("proxy-authorization", ""), ("range", ""), ("referer", ""), ("refresh", ""),
   ("retry-after", ""), ("server", ""), ("set-cookie", ""), ("strict-transport-security", ""),
   ("transfer-encoding", ""), ("user-agent", ""), ("vary", ""), ("via", ""),
   ("www-authenticate", "")] : List (String × String)).map fun entry => (text entry.1, text entry.2)

def entryAt (dynamic : List Header) (index : Nat) : Option Header :=
  if index = 0 then none
  else if index ≤ hpackStaticTable.length then hpackStaticTable[index - 1]?
  else dynamic[index - hpackStaticTable.length - 1]?

def entryBytes (entry : Header) : Nat := entry.1.length + entry.2.length + hpackEntryOverheadBytes

/-- The newest entry of the dynamic table comes first. -/
structure HpackDecoder where
  dynamic : List Header
  dynamicBytes : Nat
  maxDynamicBytes : Nat
  poisoned : Bool
  deriving DecidableEq, Repr

variable (d : HpackDecoder)

namespace HpackDecoder

def new : HpackDecoder := ⟨[], 0, defaultHpackDynamicTableBytes, false⟩

def evictToLimit : HpackDecoder :=
  let kept := SizedTable.evict entryBytes d.maxDynamicBytes d.dynamic.reverse d.dynamicBytes
  { d with dynamic := kept.1.reverse, dynamicBytes := kept.2 }

theorem evictToLimit_eq {d : HpackDecoder} (h : d.dynamicBytes = SizedTable.total entryBytes d.dynamic) :
    d.evictToLimit =
      let kept := SizedTable.fit entryBytes d.maxDynamicBytes d.dynamic
      { d with dynamic := kept, dynamicBytes := SizedTable.total entryBytes kept } := by
  simp only [evictToLimit, h, SizedTable.evict_reverse, List.reverse_reverse]

def insertDynamic (entry : Header) : HpackDecoder :=
  if entryBytes entry > d.maxDynamicBytes then { d with dynamic := [], dynamicBytes := 0 }
  else
    evictToLimit { d with
      dynamic := entry :: d.dynamic, dynamicBytes := d.dynamicBytes + entryBytes entry }

def indexedEntry (index : Nat) : Except Http2Extraction Header :=
  match entryAt d.dynamic index with
  | none => .error .invalidHpack
  | some entry => .ok entry

/-! ## Header blocks -/

def decodeName (nameIndex : Nat) (rest : Bytes) : Except Http2Extraction (Bytes × Bytes) :=
  if nameIndex = 0 then decodeString maxHpackNameBytes rest
  else match entryAt d.dynamic nameIndex with
  | none => .error .invalidHpack
  | some entry => .ok (entry.1, rest)

def decodeLiteral (prefixBits : Nat) (bytes : Bytes) : Except Http2Extraction (Header × Bytes) := do
  let (nameIndex, rest) ← decodeInteger prefixBits bytes
  let (name, rest) ← d.decodeName nameIndex rest
  let (value, rest) ← decodeString maxHpackValueBytes rest
  pure ((name, value), rest)

/-- One turn of the loop over a block: the decoder, the header read, if any, and the bytes left. -/
def decodeField : Bytes → Except Http2Extraction (HpackDecoder × Option Header × Bytes)
  | [] => .error .invalidHpack
  | first :: tail => do
    if first &&& 0x80 ≠ 0 then
      let (index, rest) ← decodeInteger 7 (first :: tail)
      let entry ← d.indexedEntry index
      pure (d, some entry, rest)
    else if first &&& 0xc0 = 0x40 then
      let (entry, rest) ← d.decodeLiteral 6 (first :: tail)
      pure (d.insertDynamic entry, some entry, rest)
    else if first &&& 0xe0 = 0x20 then
      let (size, rest) ← decodeInteger 5 (first :: tail)
      if size > maxHpackDynamicTableBytes then throw .invalidHpack
      pure (evictToLimit { d with maxDynamicBytes := size }, none, rest)
    else
      let (entry, rest) ← d.decodeLiteral 4 (first :: tail)
      pure (d, some entry, rest)

/-- The loop over a block. A turn takes at least a byte, so the length of the block bounds the turns;
on an error the decoder keeps what earlier fields did to it. -/
def decodeFields : Nat → HpackDecoder → List Header → Bytes →
    Except Http2Extraction (List Header) × HpackDecoder
  | 0, d, _, _ => (.error .invalidHpack, d)
  | fuel + 1, d, headers, bytes =>
    if bytes.isEmpty then (.ok headers, d)
    else if headers.length ≥ maxHpackHeadersPerBlock then (.error .headersTooLong, d)
    else match d.decodeField bytes with
    | .error e => (.error e, d)
    | .ok (d, header, rest) => decodeFields fuel d (headers ++ header.toList) rest

def decodeBlockInner (block : Bytes) : Except Http2Extraction (List Header) × HpackDecoder :=
  decodeFields (block.length + 1) d [] block

/-- An error poisons the decoder: its table may have diverged from the encoder's. -/
def decodeHeaderBlock (block : Bytes) : Except Http2Extraction (List Header) × HpackDecoder :=
  if d.poisoned then (.error .decoderPoisoned, d)
  else match d.decodeBlockInner block with
  | (.ok headers, d) => (.ok headers, d)
  | (.error e, d) => (.error e, { d with poisoned := true })

end HpackDecoder

end ENavigator.Http2
