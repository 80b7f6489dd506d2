import DraftSchema.Json

/-!
# `DraftSchema.Json.Printer`: the compact text of a value

No blanks are written. A string escapes the quote, the backslash and the
characters below U+0020, five of them by letter and the others as `\u00xx` with
lower-case digits; every other character stands for itself.
-/

set_option autoImplicit false

namespace DraftSchema.Json

/-- The lower-case hexadecimal digit of a value below sixteen. -/
def hexDigit (n : Nat) : Char := Char.ofNat (if n < 10 then 48 + n else 87 + n)

/-- The text of one character inside a string. -/
def escape (c : Char) : List Char :=
  if c = '"' then ['\\', '"']
  else if c = '\\' then ['\\', '\\']
  else if c = '\x08' then ['\\', 'b']
  else if c = '\x0c' then ['\\', 'f']
  else if c = '\n' then ['\\', 'n']
  else if c = '\r' then ['\\', 'r']
  else if c = '\t' then ['\\', 't']
  else if c.toNat < 32 then ['\\', 'u', '0', '0', hexDigit (c.toNat / 16), hexDigit (c.toNat % 16)]
  else [c]

/-- The text of a string, quotes included. -/
def quoted (s : String) : List Char := '"' :: (s.toList.flatMap escape ++ ['"'])

mutual

/-- The compact text of a value. -/
def chars : Json → List Char
  | .null => ['n', 'u', 'l', 'l']
  | .bool true => ['t', 'r', 'u', 'e']
  | .bool false => ['f', 'a', 'l', 's', 'e']
  | .number n => n.chars
  | .string s => quoted s
  | .array elements => '[' :: (elementsChars elements ++ [']'])
  | .object members => '{' :: (membersChars members ++ ['}'])

/-- The texts of an array's elements, parted by commas. -/
def elementsChars : List Json → List Char
  | [] => []
  | [v] => v.chars
  | v :: w :: rest => v.chars ++ ',' :: elementsChars (w :: rest)

/-- The texts of an object's members, parted by commas. -/
def membersChars : List (String × Json) → List Char
  | [] => []
  | [(name, v)] => quoted name ++ ':' :: v.chars
  | (name, v) :: m :: rest => quoted name ++ ':' :: (v.chars ++ ',' :: membersChars (m :: rest))

end

/-- The compact text of a value. -/
def compact (v : Json) : String := String.ofList v.chars

/-- The text of a value inside a message: a string stands for itself, any other
value for its compact text. -/
def display : Json → String
  | .string s => s
  | v => v.compact

end DraftSchema.Json
