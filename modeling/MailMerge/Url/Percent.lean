import MailMerge.Text.Hexadecimal

/-!
# Percent encoding

Bytes that have a meaning in a URL, or none at all, are written as a percent sign and two
hexadecimal digits. Which bytes these are depends on the part of the URL.

## Main definitions

* `utf8`: the bytes of a text.
* `percentEncode`: a text with some of its bytes encoded.
* `percentDecode`: the bytes of an encoded text.
* `inFragment`, `inQuery`, `inPath`, `inSegment`, `inUserinfo`: the bytes that are encoded.
-/

namespace MailMerge.Url

/-- The bytes of a text. -/
def utf8 (cs : List Char) : List UInt8 := cs.flatMap String.utf8EncodeChar

/-- The value of a hexadecimal digit. -/
def hexValue? (b : UInt8) : Option Nat :=
  if 48 ≤ b ∧ b ≤ 57 then some (b.toNat - 48)
  else if 65 ≤ b ∧ b ≤ 70 then some (b.toNat - 55)
  else if 97 ≤ b ∧ b ≤ 102 then some (b.toNat - 87)
  else none

/-- A byte, encoded if it has to be. -/
def encodeByte (encoded : UInt8 → Bool) (b : UInt8) : List Char :=
  if encoded b then ['%', Text.hexCapital (b.toNat / 16), Text.hexCapital (b.toNat % 16)]
  else [Char.ofNat b.toNat]

/-- A text with some of its bytes encoded. -/
def percentEncode (encoded : UInt8 → Bool) (cs : List Char) : List Char :=
  (utf8 cs).flatMap (encodeByte encoded)

/-- The bytes of an encoded text. A percent sign without two digits stands for itself. -/
def percentDecode : List UInt8 → List UInt8
  | 37 :: a :: b :: rest =>
    match hexValue? a, hexValue? b with
    | some x, some y => UInt8.ofNat (16 * x + y) :: percentDecode rest
    | _, _ => 37 :: percentDecode (a :: b :: rest)
  | b :: rest => b :: percentDecode rest
  | [] => []

/-- The byte of an ASCII character. -/
def byte (c : Char) : UInt8 := UInt8.ofNat c.toNat

/-- True for the bytes of some ASCII characters. -/
def oneOf (cs : List Char) (b : UInt8) : Bool := (cs.map byte).contains b

/-- Bytes that are encoded everywhere: controls and everything beyond ASCII. -/
def isControl (b : UInt8) : Bool := b < 32 || 126 < b

/-- Bytes that are encoded in a fragment. -/
def inFragment (b : UInt8) : Bool := isControl b || oneOf [' ', '"', '<', '>', '\x60'] b

/-- Bytes that are encoded in a query; special schemes encode the apostrophe, too. -/
def inQuery (special : Bool) (b : UInt8) : Bool :=
  isControl b || oneOf [' ', '"', '#', '<', '>'] b || (special && b == 39)

/-- Bytes that are encoded in a path. -/
def inPath (b : UInt8) : Bool := inFragment b || oneOf ['#', '?', '\x7b', '\x7d'] b

/-- Bytes that are encoded in a segment of a path that is put together from its segments. -/
def inSegment (special : Bool) (b : UInt8) : Bool :=
  inPath b || oneOf ['/', '%'] b || (special && oneOf ['\\'] b)

/-- Bytes that are encoded in user names and passwords. -/
def inUserinfo (b : UInt8) : Bool :=
  inPath b || oneOf ['/', ':', ';', '=', '@', '[', '\\', ']', '^', '|'] b

end MailMerge.Url
