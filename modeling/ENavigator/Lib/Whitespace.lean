import ENavigator.Lib.Bytes

/-!
# Whitespace

Trimming of text, which is kept as its UTF-8 octets.
-/

namespace ENavigator

/-- The UTF-8 encodings of the characters that are whitespace. -/
def whitespace : List Bytes :=
  [[0x09], [0x0A], [0x0B], [0x0C], [0x0D], [0x20], [0xC2, 0x85], [0xC2, 0xA0], [0xE1, 0x9A, 0x80],
    [0xE2, 0x80, 0x80], [0xE2, 0x80, 0x81], [0xE2, 0x80, 0x82], [0xE2, 0x80, 0x83], [0xE2, 0x80, 0x84],
    [0xE2, 0x80, 0x85], [0xE2, 0x80, 0x86], [0xE2, 0x80, 0x87], [0xE2, 0x80, 0x88], [0xE2, 0x80, 0x89],
    [0xE2, 0x80, 0x8A], [0xE2, 0x80, 0xA8], [0xE2, 0x80, 0xA9], [0xE2, 0x80, 0xAF], [0xE2, 0x81, 0x9F],
    [0xE3, 0x80, 0x80]]

def trimStartFuel : Nat → List Bytes → Bytes → Bytes
  | 0, _, bytes => bytes
  | fuel + 1, blanks, bytes =>
    match blanks.find? (·.isPrefixOf bytes) with
    | some blank => trimStartFuel fuel blanks (bytes.drop blank.length)
    | none => bytes

/-- A byte string has at most as many characters as bytes. -/
def trimStart (blanks : List Bytes) (bytes : Bytes) : Bytes := trimStartFuel bytes.length blanks bytes

def trim (bytes : Bytes) : Bytes :=
  (trimStart (whitespace.map List.reverse) (trimStart whitespace bytes).reverse).reverse

end ENavigator
