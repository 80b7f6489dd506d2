import DraftSchema.Json

/-!
# `DraftSchema.Json.Token`: the tokens of a JSON text

A text is cut into brackets, marks, literals, numbers and strings. A string
token keeps its escapes of UTF-16 units apart from plain characters
(`TextUnit`), because an escape that spells half of a surrogate pair is an
error only where the string is used: `TextUnit.decode?` joins the pairs.
-/

set_option autoImplicit false

namespace DraftSchema.Json

/-- One unit of a string: a character, or the UTF-16 unit of a `\u` escape. -/
inductive TextUnit where
  | char (c : Char)
  | unit (value : Nat)
deriving DecidableEq, Repr

/-- A token of a JSON text. -/
inductive Token where
  | openArray | closeArray | openObject | closeObject | comma | colon
  | null
  | bool (value : Bool)
  | number (value : Number)
  | string (units : List TextUnit)
deriving DecidableEq, Repr

/-- The blanks between tokens: space, tab, line feed and carriage return. -/
def isBlank (c : Char) : Bool := c = ' ' || c = '\t' || c = '\n' || c = '\r'

/-- The value of a hexadecimal digit in either case. -/
def hexValue? (c : Char) : Option Nat :=
  if '0' ≤ c ∧ c ≤ '9' then some (c.toNat - 48)
  else if 'a' ≤ c ∧ c ≤ 'f' then some (c.toNat - 87)
  else if 'A' ≤ c ∧ c ≤ 'F' then some (c.toNat - 55)
  else none

/-- The value of four hexadecimal digits. -/
def hexUnit? (a b c d : Char) : Option Nat := do
  return ((← hexValue? a) * 16 + (← hexValue? b)) * 256
    + ((← hexValue? c) * 16 + (← hexValue? d))

/-- The character of a one-letter escape. -/
def letterEscape? (c : Char) : Option Char :=
  match c with
  | '"' => some '"'
  | '\\' => some '\\'
  | '/' => some '/'
  | 'b' => some '\x08'
  | 'f' => some '\x0c'
  | 'n' => some '\n'
  | 'r' => some '\r'
  | 't' => some '\t'
  | _ => none

namespace TextUnit

/-- A unit that opens a surrogate pair. -/
def isHigh (n : Nat) : Bool := 0xD800 ≤ n && n < 0xDC00

/-- A unit that closes a surrogate pair. -/
def isLow (n : Nat) : Bool := 0xDC00 ≤ n && n < 0xE000

/-- The characters that the units of a string spell. Half of a surrogate pair
spells nothing. -/
def decode? : List TextUnit → Option (List Char)
  | [] => some []
  | .char c :: rest => (decode? rest).map (c :: ·)
  | .unit h :: .unit l :: rest =>
    if isHigh h then
      if isLow l then
        (decode? rest).map (Char.ofNat (0x10000 + (h - 0xD800) * 0x400 + (l - 0xDC00)) :: ·)
      else none
    else if isLow h then none
    else (decode? (.unit l :: rest)).map (Char.ofNat h :: ·)
  | .unit n :: rest =>
    if isHigh n || isLow n then none else (decode? rest).map (Char.ofNat n :: ·)

end TextUnit

namespace Token

/-- Reads a string after its opening quote: its units and what follows the
closing quote. A character below U+0020 must be escaped. -/
def stringUnits? : List Char → Option (List TextUnit × List Char)
  | [] => none
  | '"' :: rest => some ([], rest)
  | '\\' :: 'u' :: a :: b :: c :: d :: rest => do
    let n ← hexUnit? a b c d
    let (units, tail) ← stringUnits? rest
    return (.unit n :: units, tail)
  -- A `u` that is not followed by four digits is no escape of one letter either.
  | '\\' :: c :: rest => do
    let e ← letterEscape? c
    let (units, tail) ← stringUnits? rest
    return (.char e :: units, tail)
  | c :: rest =>
    if c = '\\' ∨ c.toNat < 32 then none
    else (stringUnits? rest).map fun (units, tail) => (.char c :: units, tail)

/-- A string ends before the text that holds it. -/
theorem length_lt_of_stringUnits? {cs : List Char} {r : List TextUnit × List Char}
    (h : stringUnits? cs = some r) : r.2.length < cs.length := by
  fun_induction stringUnits? cs generalizing r with
  | case1 => simp at h
  | case2 rest => simp only [Option.some.injEq] at h; subst h; simp
  | case3 a b c d rest ih =>
    simp only [Option.bind_eq_bind, Option.bind_eq_some_iff] at h
    obtain ⟨n, -, p, hp, h⟩ := h
    have := ih hp
    simp only [pure, Option.some.injEq] at h
    subst h
    simp only [List.length_cons]
    omega
  | case4 c rest _ ih =>
    simp only [Option.bind_eq_bind, Option.bind_eq_some_iff] at h
    obtain ⟨n, -, p, hp, h⟩ := h
    have := ih hp
    simp only [pure, Option.some.injEq] at h
    subst h
    simp only [List.length_cons]
    omega
  | case5 => simp at h
  | case6 c rest _ _ _ _ ih =>
    obtain ⟨p, hp, rfl⟩ := Option.map_eq_some_iff.1 h
    have := ih hp
    simp only [List.length_cons]
    omega

/-- The characters that a number may be made of. -/
def isNumberChar (c : Char) : Bool :=
  c.isDigit || c = '-' || c = '+' || c = '.' || c = 'e' || c = 'E'

theorem length_dropWhile_le {α : Type} (p : α → Bool) (xs : List α) :
    (xs.dropWhile p).length ≤ xs.length :=
  (List.dropWhile_sublist p).length_le

/-- Cuts a text into tokens. -/
def scan (cs : List Char) : Option (List Token) :=
  match cs with
  | [] => some []
  | '[' :: rest => (scan rest).map (.openArray :: ·)
  | ']' :: rest => (scan rest).map (.closeArray :: ·)
  | '{' :: rest => (scan rest).map (.openObject :: ·)
  | '}' :: rest => (scan rest).map (.closeObject :: ·)
  | ',' :: rest => (scan rest).map (.comma :: ·)
  | ':' :: rest => (scan rest).map (.colon :: ·)
  | 'n' :: 'u' :: 'l' :: 'l' :: rest => (scan rest).map (.null :: ·)
  | 't' :: 'r' :: 'u' :: 'e' :: rest => (scan rest).map (.bool true :: ·)
  | 'f' :: 'a' :: 'l' :: 's' :: 'e' :: rest => (scan rest).map (.bool false :: ·)
  | '"' :: rest =>
    match h : stringUnits? rest with
    | some (units, tail) =>
      have : tail.length < rest.length := length_lt_of_stringUnits? h
      (scan tail).map (.string units :: ·)
    | none => none
  | c :: rest =>
    if isBlank c then scan rest
    else
      have := length_dropWhile_le isNumberChar rest
      match Number.ofChars? (c :: rest.takeWhile isNumberChar) with
      | some n => (scan (rest.dropWhile isNumberChar)).map (.number n :: ·)
      | none => none
termination_by cs.length
decreasing_by all_goals (simp only [List.length_cons]; omega)

end Token
end DraftSchema.Json
