import DraftSchema.Scanner
import DraftSchema.Toml.Scalar

/-!
# `DraftSchema.Toml.Reader`: reading documents of settings

A document is read line by line: headers of tables, keys with their values,
comments. Strings are in one line or several, and either have escapes or stand
for themselves. Arrays and tables in braces may go over several lines.
-/

set_option autoImplicit false

namespace DraftSchema.Toml

/-! ### Blanks and comments -/

/-- A blank inside a line. -/
def isBlank (c : Char) : Bool := c = ' ' || c = '\t'

/-- A control character that no text holds. -/
def isForbidden (c : Char) : Bool := (c.toNat < 0x20 && c ≠ '\t') || c.toNat = 0x7F

/-- Skips blanks inside a line. -/
def skipBlanks : Scanner Unit := do
  let _ ← Scanner.takeWhile isBlank

/-- Takes the end of a line if it comes next. -/
def newline : Scanner Bool := do
  if ← Scanner.accept ['\n'] then return true else Scanner.accept ['\r', '\n']

/-- Skips a comment if one comes next. -/
def skipComment : Scanner Unit := do
  if ← Scanner.accept ['#'] then
    let _ ← Scanner.takeWhile (!isForbidden ·)

/-- Takes blanks, a comment, and the end of a line or of the text. -/
def endLine : Scanner Unit := do
  skipBlanks
  skipComment
  Scanner.guard ((← newline) || (← Scanner.peek).isNone)

/-- Skips blanks, comments and ends of lines. -/
def skipLines : Scanner Unit :=
  Scanner.iterate (fun _ => do
    skipBlanks
    skipComment
    if ← newline then return .inl () else return .inr ()) ()

/-! ### Strings -/

/-- Takes so many hexadecimal digits that spell a character. -/
def hexEscape (width : Nat) : Scanner Char := do
  let cs := (← Scanner.lookAhead).take width
  Scanner.guard (cs.length = width)
  let ds ← Scanner.ofOption (cs.mapM Json.hexValue?)
  Scanner.skip width
  let n := ds.foldl (fun n d => n * 16 + d) 0
  Scanner.guard (n.isValidChar)
  return Char.ofNat n

/-- Takes what follows the backslash of an escape. -/
def escape : Scanner Char := do
  match ← Scanner.next with
  | 'b' => return '\x08'
  | 't' => return '\t'
  | 'n' => return '\n'
  | 'f' => return '\x0c'
  | 'r' => return '\r'
  | 'e' => return '\x1b'
  | '"' => return '"'
  | '\\' => return '\\'
  | 'x' => hexEscape 2
  | 'u' => hexEscape 4
  | 'U' => hexEscape 8
  | _ => Scanner.fail

/-- Takes the rest of a string in one line, behind its first quote. -/
def lineString (quote : Char) (escapes : Bool) : Scanner String :=
  Scanner.iterate (fun (before : List Char) => do
    let c ← Scanner.next
    if c = quote then return .inr (String.ofList before.reverse)
    else if escapes && c = '\\' then return .inl ((← escape) :: before)
    else
      Scanner.guard (!isForbidden c)
      return .inl (c :: before)) []

/-- Skips the end of a line and all blanks behind it, if nothing but blanks comes
before it. -/
def joinLines : Scanner Bool := do
  match (← Scanner.lookAhead).dropWhile isBlank with
  | '\n' :: _ | '\r' :: '\n' :: _ =>
    skipBlanks
    let _ ← newline
    Scanner.iterate (fun _ => do
      skipBlanks
      if ← newline then return .inl () else return .inr ()) ()
    return true
  | _ => return false

/-- The most quotes that end a string of several lines: two of them belong to the
string. -/
def closingQuotes : Nat := 5

/-- Takes the rest of a string of several lines, behind its first quotes. -/
def blockString (quote : Char) (escapes : Bool) : Scanner String := do
  let _ ← newline
  Scanner.iterate (fun (before : List Char) => do
    let quotes := ((← Scanner.lookAhead).take closingQuotes).takeWhile (· = quote)
    -- Quotes in front of the closing three are part of the string.
    if 3 ≤ quotes.length then
      Scanner.skip quotes.length
      return .inr (String.ofList (before.reverse ++ quotes.drop 3))
    else if ← newline then return .inl ('\n' :: before)
    else
      let c ← Scanner.next
      if escapes && c = '\\' then
        -- A backslash at the end of a line joins it to the next.
        if ← joinLines then return .inl before
        else return .inl ((← escape) :: before)
      else
        Scanner.guard (!isForbidden c)
        return .inl (c :: before)) []

/-- Takes a string of any kind. -/
def string (quote : Char) (escapes : Bool) : Scanner String := do
  if ← Scanner.accept [quote, quote, quote] then blockString quote escapes
  else
    Scanner.skip 1
    lineString quote escapes

/-! ### Keys -/

/-- The characters of a key without quotes. -/
def isKeyChar (c : Char) : Bool := c.isAlphanum || c = '_' || c = '-'

/-- Takes one part of a key. -/
def keyPart : Scanner String := do
  match ← Scanner.peek with
  | some '"' => Scanner.skip 1; lineString '"' true
  | some '\'' => Scanner.skip 1; lineString '\'' false
  | _ =>
    let cs ← Scanner.takeWhile isKeyChar
    Scanner.guard (!cs.isEmpty)
    return String.ofList cs

/-- A key: its last part, and the parts before that. -/
structure Key where
  path : List String
  last : String

/-- Takes a key, whose parts are parted by points. -/
def key : Scanner Key :=
  Scanner.iterate (fun (before : List String) => do
    let part ← keyPart
    skipBlanks
    if ← Scanner.accept ['.'] then
      skipBlanks
      return .inl (part :: before)
    else return .inr ⟨before.reverse, part⟩) []

/-! ### Values -/

/-- Takes a word, or a date and a time with a space in between. -/
def word : Scanner Value := do
  let cs ← Scanner.takeWhile Scalar.isWordChar
  let isDate := (Scanner.run? Scalar.date cs).isSome
  match ← Scanner.lookAhead with
  | ' ' :: c :: _ =>
    -- A space behind a date belongs to the value if a digit follows.
    if isDate && c.isDigit then
      Scanner.skip 1
      let rest ← Scanner.takeWhile Scalar.isWordChar
      Scanner.ofOption (Scalar.parse? (cs ++ ' ' :: rest))
    else Scanner.ofOption (Scalar.parse? cs)
  | _ => Scanner.ofOption (Scalar.parse? cs)

/-- Takes what is listed up to a closing bracket, each by `item`. -/
def listed {σ : Type} (close : Char) (item : σ → Scanner σ) (start : σ) : Scanner σ := do
  skipLines
  if ← Scanner.accept [close] then return start
  else
    Scanner.iterate (fun s => do
      let s ← item s
      skipLines
      if ← Scanner.accept [','] then
        skipLines
        -- A comma may come last.
        if ← Scanner.accept [close] then return .inr s else return .inl s
      else
        Scanner.guard (← Scanner.accept [close])
        return .inr s) start

/-- Takes a key, the sign behind it, and a value. -/
def keyValue (value : Scanner Value) : Scanner (Key × Value) := do
  let k ← key
  skipBlanks
  Scanner.guard (← Scanner.accept ['='])
  skipBlanks
  return (k, ← value)

/-- Takes a value with at most so many brackets inside each other. -/
def value : (depth : Nat) → Scanner Value
  | 0 => do
    match ← Scanner.peek with
    | some '"' => return .string (← string '"' true)
    | some '\'' => return .string (← string '\'' false)
    | _ => word
  | depth + 1 => do
    match ← Scanner.peek with
    | some '"' => return .string (← string '"' true)
    | some '\'' => return .string (← string '\'' false)
    | some '[' =>
      Scanner.skip 1
      let elements ← listed ']' (fun before => do return (← value depth) :: before) []
      return .array elements.reverse
    | some '\x7b' =>
      Scanner.skip 1
      let entries ← listed '\x7d' (fun (before : Entries) => do
        let (k, v) ← keyValue (value depth)
        Scanner.ofOption (before.addAt? k.path k.last v)) []
      return .table .braces entries
    | _ => word

/-- The most brackets inside each other. -/
def nestingLimit : Nat := 80

/-! ### Documents -/

/-- A document that is being read. -/
structure Document where
  entries : Entries
  /-- The table that keys are added to. -/
  current : List String

/-- Takes a header and begins its table. -/
def Document.header (d : Document) : Scanner Document := do
  let isArray ← Scanner.accept ['[', '[']
  if !isArray then Scanner.skip 1
  skipBlanks
  let k ← key
  Scanner.guard (← Scanner.accept (if isArray then [']', ']'] else [']']))
  endLine
  let entries ← Scanner.ofOption <|
    if isArray then d.entries.push? k.path k.last else d.entries.open? k.path k.last
  return ⟨entries, k.path ++ [k.last]⟩

/-- Takes a line. -/
def Document.line (d : Document) : Scanner Document := do
  skipBlanks
  match ← Scanner.peek with
  | some '[' => d.header
  | some '#' | some '\n' | some '\r' | none => endLine; return d
  | _ =>
    let (k, v) ← keyValue (value nestingLimit)
    endLine
    let entries ← Scanner.ofOption (d.entries.within? d.current (·.addAt? k.path k.last v))
    return { d with entries := entries }

/-- Takes all lines. -/
def document : Scanner Entries :=
  Scanner.iterate (fun (d : Document) => do
    if (← Scanner.peek).isNone then return .inr d.entries else return .inl (← d.line)) ⟨[], []⟩

/-- Reads a document. A byte order mark may come first. -/
def parse? (text : String) : Option Entries :=
  match text.toList with
  | '\uFEFF' :: rest => Scanner.run? document rest
  | cs => Scanner.run? document cs

end DraftSchema.Toml
