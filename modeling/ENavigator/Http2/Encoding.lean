import ENavigator.Http2.Hpack
import ENavigator.Lib.PrefixCode

/-!
# What a conforming HPACK encoder sends

The other end of the connection, stated for its own sake: its dynamic table (`EncoderTable`) and every
byte string it may write for an integer, a string, a header field and a header block. The choices an
encoder is free to make are constructors: the representation of a field, a name by index or as a
string, a string plain or Huffman coded, more continuation bytes than an integer needs.
-/

namespace ENavigator.Http2

open SizedTable (total fit)
open PrefixCode (bitsMsb)

/-! ## Integers -/

/-- `n` in groups of seven bits, least significant first; every byte but the last is marked. -/
inductive Groups : Nat → Bytes → Prop
  | last {d : Nat} (h : d < 128) : Groups d [UInt8.ofNat d]
  | more {d n : Nat} {bytes : Bytes} (h : d < 128) (hn : Groups n bytes) :
      Groups (d + 128 * n) (UInt8.ofNat (128 + d) :: bytes)

/-- `n` behind the bits `tag` of an octet, in its `bits` low bits and, when these are all ones, in at
most five continuation bytes. -/
inductive IntegerCode (bits tag : Nat) : Nat → Bytes → Prop
  | short {n : Nat} (h : n < 2 ^ bits - 1) : IntegerCode bits tag n [UInt8.ofNat (tag + n)]
  | long {n : Nat} {bytes : Bytes} (h : Groups n bytes) (hlen : bytes.length ≤ 5) :
      IntegerCode bits tag (2 ^ bits - 1 + n) (UInt8.ofNat (tag + (2 ^ bits - 1)) :: bytes)

/-! ## Strings -/

/-- The code word of each octet and its length in bits. -/
def huffmanCode : List (Nat × Nat) :=
  [(0x1ff8, 13), (0x7fffd8, 23), (0xfffffe2, 28), (0xfffffe3, 28), (0xfffffe4, 28), (0xfffffe5, 28), (0xfffffe6, 28),
    (0xfffffe7, 28), (0xfffffe8, 28), (0xffffea, 24), (0x3ffffffc, 30), (0xfffffe9, 28), (0xfffffea, 28),
    (0x3ffffffd, 30), (0xfffffeb, 28), (0xfffffec, 28), (0xfffffed, 28), (0xfffffee, 28), (0xfffffef, 28),
    (0xffffff0, 28), (0xffffff1, 28), (0xffffff2, 28), (0x3ffffffe, 30), (0xffffff3, 28), (0xffffff4, 28),
    (0xffffff5, 28), (0xffffff6, 28), (0xffffff7, 28), (0xffffff8, 28), (0xffffff9, 28), (0xffffffa, 28),
    (0xffffffb, 28), (0x14, 6), (0x3f8, 10), (0x3f9, 10), (0xffa, 12), (0x1ff9, 13), (0x15, 6), (0xf8, 8),
    (0x7fa, 11), (0x3fa, 10), (0x3fb, 10), (0xf9, 8), (0x7fb, 11), (0xfa, 8), (0x16, 6), (0x17, 6), (0x18, 6),
    (0x0, 5), (0x1, 5), (0x2, 5), (0x19, 6), (0x1a, 6), (0x1b, 6), (0x1c, 6), (0x1d, 6), (0x1e, 6), (0x1f, 6),
    (0x5c, 7), (0xfb, 8), (0x7ffc, 15), (0x20, 6), (0xffb, 12), (0x3fc, 10), (0x1ffa, 13), (0x21, 6), (0x5d, 7),
    (0x5e, 7), (0x5f, 7), (0x60, 7), (0x61, 7), (0x62, 7), (0x63, 7), (0x64, 7), (0x65, 7), (0x66, 7), (0x67, 7),
    (0x68, 7), (0x69, 7), (0x6a, 7), (0x6b, 7), (0x6c, 7), (0x6d, 7), (0x6e, 7), (0x6f, 7), (0x70, 7), (0x71, 7),
    (0x72, 7), (0xfc, 8), (0x73, 7), (0xfd, 8), (0x1ffb, 13), (0x7fff0, 19), (0x1ffc, 13), (0x3ffc, 14), (0x22, 6),
    (0x7ffd, 15), (0x3, 5), (0x23, 6), (0x4, 5), (0x24, 6), (0x5, 5), (0x25, 6), (0x26, 6), (0x27, 6), (0x6, 5),
    (0x74, 7), (0x75, 7), (0x28, 6), (0x29, 6), (0x2a, 6), (0x7, 5), (0x2b, 6), (0x76, 7), (0x2c, 6), (0x8, 5),
    (0x9, 5), (0x2d, 6), (0x77, 7), (0x78, 7), (0x79, 7), (0x7a, 7), (0x7b, 7), (0x7ffe, 15), (0x7fc, 11),
    (0x3ffd, 14), (0x1ffd, 13), (0xffffffc, 28), (0xfffe6, 20), (0x3fffd2, 22), (0xfffe7, 20), (0xfffe8, 20),
    (0x3fffd3, 22), (0x3fffd4, 22), (0x3fffd5, 22), (0x7fffd9, 23), (0x3fffd6, 22), (0x7fffda, 23), (0x7fffdb, 23),
    (0x7fffdc, 23), (0x7fffdd, 23), (0x7fffde, 23), (0xffffeb, 24), (0x7fffdf, 23), (0xffffec, 24), (0xffffed, 24),
    (0x3fffd7, 22), (0x7fffe0, 23), (0xffffee, 24), (0x7fffe1, 23), (0x7fffe2, 23), (0x7fffe3, 23), (0x7fffe4, 23),
    (0x1fffdc, 21), (0x3fffd8, 22), (0x7fffe5, 23), (0x3fffd9, 22), (0x7fffe6, 23), (0x7fffe7, 23), (0xffffef, 24),
    (0x3fffda, 22), (0x1fffdd, 21), (0xfffe9, 20), (0x3fffdb, 22), (0x3fffdc, 22), (0x7fffe8, 23), (0x7fffe9, 23),
    (0x1fffde, 21), (0x7fffea, 23), (0x3fffdd, 22), (0x3fffde, 22), (0xfffff0, 24), (0x1fffdf, 21), (0x3fffdf, 22),
    (0x7fffeb, 23), (0x7fffec, 23), (0x1fffe0, 21), (0x1fffe1, 21), (0x3fffe0, 22), (0x1fffe2, 21), (0x7fffed, 23),
    (0x3fffe1, 22), (0x7fffee, 23), (0x7fffef, 23), (0xfffea, 20), (0x3fffe2, 22), (0x3fffe3, 22), (0x3fffe4, 22),
    (0x7ffff0, 23), (0x3fffe5, 22), (0x3fffe6, 22), (0x7ffff1, 23), (0x3ffffe0, 26), (0x3ffffe1, 26), (0xfffeb, 20),
    (0x7fff1, 19), (0x3fffe7, 22), (0x7ffff2, 23), (0x3fffe8, 22), (0x1ffffec, 25), (0x3ffffe2, 26), (0x3ffffe3, 26),
    (0x3ffffe4, 26), (0x7ffffde, 27), (0x7ffffdf, 27), (0x3ffffe5, 26), (0xfffff1, 24), (0x1ffffed, 25),
    (0x7fff2, 19), (0x1fffe3, 21), (0x3ffffe6, 26), (0x7ffffe0, 27), (0x7ffffe1, 27), (0x3ffffe7, 26),
    (0x7ffffe2, 27), (0xfffff2, 24), (0x1fffe4, 21), (0x1fffe5, 21), (0x3ffffe8, 26), (0x3ffffe9, 26),
    (0xffffffd, 28), (0x7ffffe3, 27), (0x7ffffe4, 27), (0x7ffffe5, 27), (0xfffec, 20), (0xfffff3, 24), (0xfffed, 20),
    (0x1fffe6, 21), (0x3fffe9, 22), (0x1fffe7, 21), (0x1fffe8, 21), (0x7ffff3, 23), (0x3fffea, 22), (0x3fffeb, 22),
    (0x1ffffee, 25), (0x1ffffef, 25), (0xfffff4, 24), (0xfffff5, 24), (0x3ffffea, 26), (0x7ffff4, 23),
    (0x3ffffeb, 26), (0x7ffffe6, 27), (0x3ffffec, 26), (0x3ffffed, 26), (0x7ffffe7, 27), (0x7ffffe8, 27),
    (0x7ffffe9, 27), (0x7ffffea, 27), (0x7ffffeb, 27), (0xffffffe, 28), (0x7ffffec, 27), (0x7ffffed, 27),
    (0x7ffffee, 27), (0x7ffffef, 27), (0x7fffff0, 27), (0x3ffffee, 26)]

def huffmanWord (byte : UInt8) : Nat × Nat := huffmanCode.getD byte.toNat (0, 0)

/-- The words of a string, filled up to a byte boundary with ones. -/
def HuffmanCoded (s raw : Bytes) : Prop :=
  ∃ padding < 8, raw.flatMap byteBits =
    (s.flatMap fun byte => bitsMsb (huffmanWord byte).1 (huffmanWord byte).2)
      ++ List.replicate padding true

inductive StringCode : Bytes → Bytes → Prop
  | plain {s code : Bytes} (h : IntegerCode 7 0 s.length code) : StringCode s (code ++ s)
  | huffman {s raw code : Bytes} (hraw : HuffmanCoded s raw) (h : IntegerCode 7 128 raw.length code) :
      StringCode s (code ++ raw)

/-! ## The dynamic table -/

/-- The encoder's dynamic table, newest entry first, within its size. -/
structure EncoderTable where
  entries : List Header
  maxSize : Nat
  fits : total entryBytes entries ≤ maxSize
  maxSize_le : maxSize ≤ maxHpackDynamicTableBytes

namespace EncoderTable

def initial : EncoderTable := ⟨[], defaultHpackDynamicTableBytes, Nat.zero_le _, by decide⟩

def setMaxSize (t : EncoderTable) (size : Nat) (h : size ≤ maxHpackDynamicTableBytes) : EncoderTable where
  entries := fit entryBytes size t.entries
  maxSize := size
  fits := SizedTable.total_fit_le _ _ _
  maxSize_le := h

/-- What remains when room is made for the new entry, which is added if it fits at all. -/
def inserted (t : EncoderTable) (entry : Header) : List Header :=
  let room := fit entryBytes (t.maxSize - entryBytes entry) t.entries
  if entryBytes entry ≤ t.maxSize then entry :: room else []

theorem inserted_eq_fit (t : EncoderTable) (entry : Header) :
    t.inserted entry = fit entryBytes t.maxSize (entry :: t.entries) := rfl

def insert (t : EncoderTable) (entry : Header) : EncoderTable where
  entries := t.inserted entry
  maxSize := t.maxSize
  fits := by
    rw [inserted_eq_fit]
    exact SizedTable.total_fit_le _ _ _
  maxSize_le := t.maxSize_le

/-- The address space: the static table, then the dynamic one, counted from 1. -/
def At (t : EncoderTable) (index : Nat) (entry : Header) : Prop :=
  0 < index ∧ (hpackStaticTable ++ t.entries)[index - 1]? = some entry

end EncoderTable

/-! ## Header fields and blocks -/

inductive NameCode (t : EncoderTable) (bits tag : Nat) (name : Bytes) : Bytes → Prop
  | index {index : Nat} {value code : Bytes} (h : t.At index (name, value))
      (hcode : IntegerCode bits tag index code) : NameCode t bits tag name code
  | literal {zero code : Bytes} (hzero : IntegerCode bits tag 0 zero) (h : StringCode name code) :
      NameCode t bits tag name (zero ++ code)

/-- The representations of one header field, and the table behind it. -/
inductive FieldCode (t : EncoderTable) (entry : Header) : Bytes → EncoderTable → Prop
  | indexed {index : Nat} {code : Bytes} (h : t.At index entry) (hcode : IntegerCode 7 128 index code) :
      FieldCode t entry code t
  | incremental {name value : Bytes} (hname : NameCode t 6 64 entry.1 name) (hvalue : StringCode entry.2 value) :
      FieldCode t entry (name ++ value) (t.insert entry)
  | withoutIndexing {name value : Bytes} (hname : NameCode t 4 0 entry.1 name)
      (hvalue : StringCode entry.2 value) : FieldCode t entry (name ++ value) t
  | neverIndexed {name value : Bytes} (hname : NameCode t 4 16 entry.1 name)
      (hvalue : StringCode entry.2 value) : FieldCode t entry (name ++ value) t

inductive FieldsCode : EncoderTable → List Header → Bytes → EncoderTable → Prop
  | nil {t : EncoderTable} : FieldsCode t [] [] t
  | cons {t t' t'' : EncoderTable} {entry : Header} {entries : List Header} {code rest : Bytes}
      (h : FieldCode t entry code t') (hrest : FieldsCode t' entries rest t'') :
      FieldsCode t (entry :: entries) (code ++ rest) t''

/-- The table size updates at the start of a block. -/
inductive UpdatesCode : EncoderTable → Bytes → EncoderTable → Prop
  | nil {t : EncoderTable} : UpdatesCode t [] t
  | cons {t t' : EncoderTable} {size : Nat} {code rest : Bytes} (h : size ≤ maxHpackDynamicTableBytes)
      (hcode : IntegerCode 5 32 size code) (hrest : UpdatesCode (t.setMaxSize size h) rest t') :
      UpdatesCode t (code ++ rest) t'

/-- A header within the decoder's bounds. -/
structure Bounded (entry : Header) : Prop where
  name_length : entry.1.length ≤ maxHpackNameBytes
  value_length : entry.2.length ≤ maxHpackValueBytes
  name_utf8 : validUtf8 entry.1 = true
  value_utf8 : validUtf8 entry.2 = true

structure EncodedBlock where
  headers : List Header
  bytes : Bytes
  tableAfter : EncoderTable

/-- The block an encoder with table `t` may send for its headers. -/
structure EncodedBlock.Conforms (b : EncodedBlock) (t : EncoderTable) : Prop where
  count : b.headers.length ≤ maxHpackHeadersPerBlock
  bounded : ∀ entry ∈ b.headers, Bounded entry
  coded : ∃ t' updates fields, b.bytes = updates ++ fields ∧ UpdatesCode t updates t' ∧
    FieldsCode t' b.headers fields b.tableAfter

inductive EncoderRun : EncoderTable → List EncodedBlock → Prop
  | nil {t : EncoderTable} : EncoderRun t []
  | cons {t : EncoderTable} {b : EncodedBlock} {bs : List EncodedBlock} (h : b.Conforms t)
      (hrest : EncoderRun b.tableAfter bs) : EncoderRun t (b :: bs)

end ENavigator.Http2
