import DraftSchema.Json.Token

/-!
# `DraftSchema.Url.Percent`: percent-encoding

A character that a part of a location cannot hold is written as the bytes of its
encoding, each a percent sign and two upper-case hexadecimal digits. Each part
has its own set of characters to encode; characters beyond ASCII are in all of
them.
-/

set_option autoImplicit false

namespace DraftSchema.Url.Percent

/-- A control character of ASCII, or a character beyond ASCII. -/
def isControl (c : Char) : Bool := c.toNat < 0x20 || 0x7F ≤ c.toNat

/-- The characters that a fragment cannot hold. -/
def inFragment (c : Char) : Bool := isControl c || [' ', '"', '<', '>', '\x60'].contains c

/-- The characters that a path cannot hold. -/
def inPath (c : Char) : Bool := inFragment c || ['#', '?', '\x7b', '\x7d'].contains c

/-- The characters that a name or password cannot hold. -/
def inUserinfo (c : Char) : Bool :=
  inPath c || ['/', ':', ';', '=', '@', '[', '\\', ']', '^', '|'].contains c

/-- The characters that a query cannot hold. -/
def inQuery (c : Char) : Bool := isControl c || [' ', '"', '#', '<', '>'].contains c

/-- The characters that a query of a special scheme cannot hold. -/
def inSpecialQuery (c : Char) : Bool := inQuery c || c = '\''

/-- The characters that one segment of a path cannot hold where it stands for the
name of a file. -/
def inSegment (c : Char) : Bool := inPath c || ['/', '%', '\\'].contains c

/-- The upper-case hexadecimal digit of a value below sixteen. -/
def hexDigit (n : Nat) : Char := Char.ofNat (if n < 10 then 48 + n else 55 + n)

/-- The text of one byte. -/
def byteChars (b : UInt8) : List Char := ['%', hexDigit (b.toNat / 16), hexDigit (b.toNat % 16)]

/-- Encodes the characters of a set. -/
def encode (inSet : Char → Bool) (cs : List Char) : List Char :=
  cs.flatMap fun c => if inSet c then (String.utf8EncodeChar c).flatMap byteChars else [c]

/-- The bytes that a text spells: a percent sign with two hexadecimal digits
stands for one byte, any other character for the bytes of its encoding. -/
def decode : List Char → List UInt8
  | [] => []
  | '%' :: a :: b :: rest =>
    match Json.hexValue? a, Json.hexValue? b with
    | some m, some n => UInt8.ofNat (m * 16 + n) :: decode rest
    | _, _ => UInt8.ofNat 37 :: decode (a :: b :: rest)
  | c :: rest => String.utf8EncodeChar c ++ decode rest

/-- The text that bytes encode. -/
def utf8? (bytes : List UInt8) : Option String := String.fromUTF8? ⟨bytes.toArray⟩

end DraftSchema.Url.Percent
