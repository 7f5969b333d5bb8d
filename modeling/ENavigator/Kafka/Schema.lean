import ENavigator.Lib.Bytes

/-!
# Kafka messages

The messages of the public protocol, before flexible versions: a schema lists the fields of a message, a value of a
schema is what those fields hold, and `encode` is its wire form. Integers that no reader looks into are kept as their
octets. `errorCodes` are the error codes of a message in the order in which they come on the wire.
-/

namespace ENavigator.Kafka

inductive Schema where
  | empty
  /-- an integer or a flag of this many octets -/
  | fixed (width : Nat)
  | errorCode
  | string
  | nullableString
  | bytes
  | nullableBytes
  | array (item : Schema)
  | nullableArray (item : Schema)
  | seq (first second : Schema)

namespace Schema

abbrev int8 : Schema := fixed 1
abbrev int32 : Schema := fixed 4
abbrev int64 : Schema := fixed 8

/-- The fields of a structure, one after the other. -/
abbrev fields (list : List Schema) : Schema := list.foldr seq empty

/-- A field that is there from version `first` on. -/
def since (apiVersion first : Int) (s : Schema) : Schema := if first ≤ apiVersion then s else empty

theorem since_cases (P : Schema → Prop) (apiVersion first : Int) (s : Schema) (h : first ≤ apiVersion → P s)
    (hbelow : ¬ first ≤ apiVersion → P empty) : P (since apiVersion first s) := by
  unfold since
  split
  · exact h ‹_›
  · exact hbelow ‹_›

abbrev Value : Schema → Type
  | empty => Unit
  | fixed width => { octets : Bytes // octets.length = width }
  | errorCode => { code : Int // -2 ^ 15 ≤ code ∧ code < 2 ^ 15 }
  | string => { octets : Bytes // octets.length < 2 ^ 15 }
  | nullableString => Option { octets : Bytes // octets.length < 2 ^ 15 }
  | bytes => { octets : Bytes // octets.length < 2 ^ 31 }
  | nullableBytes => Option { octets : Bytes // octets.length < 2 ^ 31 }
  | array item => List item.Value
  | nullableArray item => Option (List item.Value)
  | seq first second => first.Value × second.Value

/-! ## The wire form -/

/-- A signed integer of `width` octets, most significant first. -/
def int (width : Nat) (n : Int) : Bytes := beBytes width (n % 2 ^ (8 * width)).toNat

def encodeString (octets : Bytes) : Bytes := int 2 octets.length ++ octets
def encodeBytes (octets : Bytes) : Bytes := int 4 octets.length ++ octets

def encode : (s : Schema) → s.Value → Bytes
  | empty, _ => []
  | fixed _, octets => octets.1
  | errorCode, code => int 2 code.1
  | string, octets => encodeString octets.1
  | nullableString, none => int 2 (-1)
  | nullableString, some octets => encodeString octets.1
  | bytes, octets => encodeBytes octets.1
  | nullableBytes, none => int 4 (-1)
  | nullableBytes, some octets => encodeBytes octets.1
  | array item, items => int 4 items.length ++ items.flatMap item.encode
  | nullableArray _, none => int 4 (-1)
  | nullableArray item, some items => int 4 items.length ++ items.flatMap item.encode
  | seq first second, (a, b) => first.encode a ++ second.encode b

/-! ## Error codes and limits -/

def errorCodes : (s : Schema) → s.Value → List Int
  | errorCode, code => [code.1]
  | array item, items => items.flatMap item.errorCodes
  | nullableArray item, some items => items.flatMap item.errorCodes
  | seq first second, (a, b) => first.errorCodes a ++ second.errorCodes b
  | _, _ => []

/-- Strings of at most `maxString` octets and arrays of at most 1024 items. -/
def Within (maxString : Nat) : (s : Schema) → s.Value → Prop
  | string, octets => octets.1.length ≤ maxString
  | nullableString, some octets => octets.1.length ≤ maxString
  | array item, items => items.length ≤ 1024 ∧ ∀ i ∈ items, Within maxString item i
  | nullableArray item, some items => items.length ≤ 1024 ∧ ∀ i ∈ items, Within maxString item i
  | seq first second, (a, b) => Within maxString first a ∧ Within maxString second b
  | _, _ => True

/-- The limits can be tried on a value. -/
def decidableWithin (maxString : Nat) : (s : Schema) → (value : s.Value) → Decidable (s.Within maxString value)
  | empty, _ => isTrue trivial
  | fixed _, _ => isTrue trivial
  | errorCode, _ => isTrue trivial
  | string, octets => inferInstanceAs (Decidable (octets.1.length ≤ maxString))
  | nullableString, none => isTrue trivial
  | nullableString, some octets => inferInstanceAs (Decidable (octets.1.length ≤ maxString))
  | bytes, _ => isTrue trivial
  | nullableBytes, _ => isTrue trivial
  | array item, items =>
    have := item.decidableWithin maxString
    inferInstanceAs (Decidable (items.length ≤ 1024 ∧ ∀ i ∈ items, Within maxString item i))
  | nullableArray _, none => isTrue trivial
  | nullableArray item, some items =>
    have := item.decidableWithin maxString
    inferInstanceAs (Decidable (items.length ≤ 1024 ∧ ∀ i ∈ items, Within maxString item i))
  | seq first second, (a, b) =>
    have := first.decidableWithin maxString a
    have := second.decidableWithin maxString b
    inferInstanceAs (Decidable (_ ∧ _))

instance (maxString : Nat) (s : Schema) (value : s.Value) : Decidable (s.Within maxString value) :=
  s.decidableWithin maxString value

end Schema

/-- The first code that is an error, or zero. -/
def firstError (codes : List Int) : Int := (codes.find? (· != 0)).getD 0

/-! ## Responses -/

open Schema

/-- A partition of a produce, fetch, ... response belongs to a topic. -/
abbrev topics (partition : Schema) : Schema := array (fields [string, array partition])

variable (apiVersion : Int)

def produceResponse : Schema :=
  fields [
    topics (fields [int32, errorCode, int64, since apiVersion 2 int64, since apiVersion 5 int64]),
    since apiVersion 1 int32]

/-- The aborted transactions of a partition may be null. -/
def fetchResponse : Schema :=
  fields [
    since apiVersion 1 int32,
    topics (fields [int32, errorCode, int64, since apiVersion 4 int64, since apiVersion 5 int64,
      since apiVersion 4 (nullableArray (fields [int64, int64])), nullableBytes])]

def listOffsetsResponse : Schema :=
  fields [
    since apiVersion 2 int32,
    topics (fields [int32, errorCode, int64, int64, since apiVersion 4 int32])]

def metadataResponse : Schema :=
  fields [
    since apiVersion 3 int32,
    array (fields [int32, string, int32, since apiVersion 1 nullableString]),
    since apiVersion 2 nullableString,
    since apiVersion 1 int32,
    array (fields [errorCode, string, since apiVersion 1 int8,
      array (fields [errorCode, int32, int32, since apiVersion 7 int32, array int32, array int32,
        since apiVersion 5 (array int32)]),
      since apiVersion 8 int32]),
    since apiVersion 8 int32]

def offsetCommitResponse : Schema :=
  fields [since apiVersion 3 int32, topics (fields [int32, errorCode])]

/-- The topics of an offset fetch, and behind them the code of the response as a whole. -/
def offsetFetchTopics : Schema :=
  topics (fields [int32, int64, since apiVersion 5 int32, nullableString, errorCode])

def offsetFetchResponse : Schema :=
  fields [since apiVersion 3 int32, offsetFetchTopics apiVersion, since apiVersion 2 errorCode]

/-- A member is its id, from version 5 on its instance id, and its metadata. -/
def joinGroupResponse : Schema :=
  fields [
    since apiVersion 2 int32, errorCode, int32, string, string, string,
    array (fields [string, since apiVersion 5 nullableString, bytes])]

end ENavigator.Kafka
