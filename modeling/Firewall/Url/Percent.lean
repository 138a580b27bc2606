import Firewall.Text.Hex
import Firewall.Text.Utf8

/-!
Percent encoding in addresses of the web: which characters each part of an
address may hold as they are, and the `%41` form of all others.
-/

namespace Firewall.Url

open Text

/-- A set of ASCII characters that a part of an address may not hold as they are. -/
abbrev EncodeSet := Char → Bool

def controlSet : EncodeSet := fun c => c.toNat < 0x20 || c.toNat == 0x7F

def fragmentSet : EncodeSet := fun c =>
  controlSet c || [' ', '"', '<', '>', Char.ofNat 0x60].contains c

def querySet : EncodeSet := fun c =>
  controlSet c || [' ', '"', '#', '<', '>'].contains c

/-- The set for queries of the well-known schemes. -/
def specialQuerySet : EncodeSet := fun c => querySet c || c == Char.ofNat 0x27

def pathSet : EncodeSet := fun c =>
  fragmentSet c || ['#', '?', Char.ofNat 0x7B, Char.ofNat 0x7D].contains c

def userSet : EncodeSet := fun c =>
  pathSet c || ['/', ':', ';', '=', '@', '[', '\\', ']', '^', '|'].contains c

def percentByte (b : UInt8) : List Char :=
  ['%', Hex.upperDigit (b.toNat / 16), Hex.upperDigit (b.toNat % 16)]

/-- A character as it is when it is ASCII outside the set, else its bytes. -/
def encodeChar (set : EncodeSet) (c : Char) : List Char :=
  if c.toNat < 0x80 && !set c then [c] else (Utf8.encodeChar c).flatMap percentByte

def percentEncode (set : EncodeSet) (s : List Char) : List Char := s.flatMap (encodeChar set)

/-- The bytes of a text whose `%41` forms stand for the bytes they name; a
percent sign without two digits stands for itself. -/
def percentDecode : List Char → List UInt8
  | '%' :: a :: b :: r =>
    match hexDigit? a, hexDigit? b with
    | some x, some y => (16 * x + y).toUInt8 :: percentDecode r
    | _, _ => 0x25 :: percentDecode (a :: b :: r)
  | c :: r => Utf8.encodeChar c ++ percentDecode r
  | [] => []

end Firewall.Url
