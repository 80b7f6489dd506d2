import DraftSchema.Scanner
import DraftSchema.Regex.Expr
import DraftSchema.Unicode.Property

/-!
# `DraftSchema.Regex.Parser`: reading a regular expression

Groups and brackets are kept on explicit stacks, so that one step reads one
item. In verbose mode, blanks and comments are skipped between any two
characters. `Expr.parse?` refuses texts that are no expression and expressions
that are nested too deeply.
-/

set_option autoImplicit false

namespace DraftSchema.Regex

open Unicode

/-- Drops blanks and comments. A comment runs from `#` to the end of its line. -/
def dropBlanks (inComment : Bool) : List Char → List Char
  | [] => []
  | c :: rest =>
    if inComment then dropBlanks (c ≠ '\n') rest
    else if Property.isSpace c then dropBlanks false rest
    else if c = '#' then dropBlanks true rest
    else c :: rest

theorem length_dropBlanks_le (inComment : Bool) (cs : List Char) :
    (dropBlanks inComment cs).length ≤ cs.length := by
  fun_induction dropBlanks inComment cs with
  | case1 => simp
  | case2 => simp only [List.length_cons]; omega
  | case3 => simp only [List.length_cons]; omega
  | case4 => simp only [List.length_cons]; omega
  | case5 => simp

/-- Skips blanks and comments in verbose mode. -/
def skipBlanks (verbose : Bool) : Scanner Unit :=
  if verbose then Scanner.dropBy (dropBlanks false) (length_dropBlanks_le false) else pure ()

/-- Takes the next character and, in verbose mode, the blanks behind it. -/
def nextThenBlanks (verbose : Bool) : Scanner Char := do
  let c ← Scanner.next
  skipBlanks verbose
  return c

/-! ### Escapes -/

/-- The characters with a meaning of their own. -/
def metaChars : List Char :=
  ['\\', '.', '+', '*', '?', '(', ')', '|', '[', ']', '\x7b', '\x7d', '^', '$', '#', '&', '-', '~']

/-- The characters that may stand behind a backslash for themselves: those of
ASCII that are no letters, digits or angle brackets. -/
def isEscapable (c : Char) : Bool :=
  metaChars.contains c || (c.toNat < 128 && !c.isAlphanum && c ≠ '<' && c ≠ '>')

/-- The character of a code point, which must not be half of a surrogate
pair. -/
def charOfCodePoint? (n : Nat) : Option Char :=
  if n.isValidChar then some (Char.ofNat n) else none

/-- The code point that hexadecimal digits spell. -/
def codePoint (digits : List Nat) : Nat := digits.foldl (fun n d => n * 16 + d) 0

/-- Takes a hexadecimal digit. -/
def hexDigitValue (verbose : Bool) : Scanner Nat := do
  Scanner.ofOption (Json.hexValue? (← nextThenBlanks verbose))

/-- Takes a fixed number of hexadecimal digits. -/
def hexDigits (verbose : Bool) : Nat → Scanner (List Nat)
  | 0 => pure []
  | n + 1 => do
    let d ← hexDigitValue verbose
    let ds ← hexDigits verbose n
    return d :: ds

/-- The closing brace. -/
def closeBrace : Char := '\x7d'

/-- The opening brace. -/
def openBrace : Char := '\x7b'

/-- Takes the characters up to a closing brace, and the brace. -/
def untilCloseBrace (verbose : Bool) : Scanner (List Char) :=
  Scanner.iterate (fun (taken : List Char) => do
    let c ← nextThenBlanks verbose
    if c = closeBrace then return .inr taken.reverse else return .inl (c :: taken)) []

/-- Takes what follows the letter of a hexadecimal escape. -/
def hexEscape (verbose : Bool) (letter : Char) : Scanner Literal := do
  if (← Scanner.peek) = some openBrace then
    let _ ← nextThenBlanks verbose
    let digits ← Scanner.ofOption ((← untilCloseBrace verbose).mapM Json.hexValue?)
    skipBlanks verbose
    Scanner.guard (!digits.isEmpty)
    return ⟨← Scanner.ofOption (charOfCodePoint? (codePoint digits)), false⟩
  else
    let count := if letter = 'x' then 2 else if letter = 'u' then 4 else 8
    let digits ← hexDigits verbose count
    return ⟨← Scanner.ofOption (charOfCodePoint? (codePoint digits)), letter = 'x'⟩

/-- Cuts a text at the first place where a mark stands. -/
def cutAt? (mark : List Char) : List Char → Option (List Char × List Char)
  | [] => none
  | c :: rest =>
    if mark.isPrefixOf (c :: rest) then some ([], (c :: rest).drop mark.length)
    else (cutAt? mark rest).map fun (before, after) => (c :: before, after)

/-- The property that a name in braces asks for. -/
def PropertyQuery.ofText (text : List Char) : PropertyQuery :=
  match cutAt? ['!', '='] text with
  | some (name, value) => .valued (String.ofList name) (String.ofList value)
  | none =>
    match cutAt? [':'] text with
    | some (name, value) => .valued (String.ofList name) (String.ofList value)
    | none =>
      match cutAt? ['='] text with
      | some (name, value) => .valued (String.ofList name) (String.ofList value)
      | none => .named (String.ofList text)

/-- Takes what follows `\p`. -/
def propertyEscape (verbose : Bool) : Scanner PropertyQuery := do
  let c ← nextThenBlanks verbose
  if c = openBrace then
    return .ofText (← untilCloseBrace verbose)
  else
    Scanner.guard (c ≠ '\\')
    return .named (String.singleton c)

/-- The assertion that a name in braces behind `\b` asks for. -/
def Assertion.ofName? : List Char → Option Assertion
  | ['s', 't', 'a', 'r', 't'] => some .wordStart
  | ['e', 'n', 'd'] => some .wordEnd
  | ['s', 't', 'a', 'r', 't', '-', 'h', 'a', 'l', 'f'] => some .wordStartHalf
  | ['e', 'n', 'd', '-', 'h', 'a', 'l', 'f'] => some .wordEndHalf
  | _ => none

/-- A character of the names behind `\b`. -/
def isBoundaryNameChar (c : Char) : Bool := c.isAlpha || c = '-'

/-- Takes the name in braces that may follow `\b`. Braces that start with
anything but a letter or a hyphen are left for a repetition. -/
def boundaryName (verbose : Bool) : Scanner Assertion := do
  match ← Scanner.lookAhead with
  | brace :: rest =>
    let inside := if verbose then dropBlanks false rest else rest
    if brace ≠ openBrace then return .wordBoundary
    else
      match inside with
      | [] => Scanner.fail
      | c :: _ =>
        -- From here on the braces must hold a name.
        if isBoundaryNameChar c then
          let _ ← nextThenBlanks verbose
          let name ← Scanner.iterate (fun (taken : List Char) => do
            let c ← Scanner.next
            if c = closeBrace then return .inr taken.reverse
            else
              Scanner.guard (isBoundaryNameChar c)
              skipBlanks verbose
              return .inl (c :: taken)) []
          Scanner.ofOption (Assertion.ofName? name)
        else return .wordBoundary
  | [] => return .wordBoundary

/-- What one item outside or inside brackets may be. -/
inductive Primitive where
  | literal (l : Literal)
  | assertion (a : Assertion)
  | dot
  | property (negated : Bool) (query : PropertyQuery)
  | letter (negated : Bool) (kind : LetterClass)

/-- The item as an expression. -/
def Primitive.toExpr : Primitive → Expr
  | .literal l => .literal l
  | .assertion a => .assertion a
  | .dot => .dot
  | .property negated query => .property negated query
  | .letter negated kind => .letter negated kind

/-- The item inside brackets, where assertions have no place. -/
def Primitive.toClass? : Primitive → Option ClassExpr
  | .literal l => some (.literal l)
  | .property negated query => some (.property negated query)
  | .letter negated kind => some (.letter negated kind)
  | .assertion _ | .dot => none

/-- The item as an end of a range. -/
def Primitive.toLiteral? : Primitive → Option Literal
  | .literal l => some l
  | _ => none

/-- Takes what follows a backslash. -/
def escape (verbose : Bool) : Scanner Primitive := do
  let c ← Scanner.next
  match c with
  | 'x' | 'u' | 'U' => do
    skipBlanks verbose
    return .literal (← hexEscape verbose c)
  | 'p' | 'P' => do
    skipBlanks verbose
    return .property (c = 'P') (← propertyEscape verbose)
  | 'd' => return .letter false .digit
  | 'D' => return .letter true .digit
  | 's' => return .letter false .space
  | 'S' => return .letter true .space
  | 'w' => return .letter false .word
  | 'W' => return .letter true .word
  | 'a' => return .literal ⟨'\x07', false⟩
  | 'f' => return .literal ⟨'\x0c', false⟩
  | 't' => return .literal ⟨'\t', false⟩
  | 'n' => return .literal ⟨'\n', false⟩
  | 'r' => return .literal ⟨'\r', false⟩
  | 'v' => return .literal ⟨'\x0b', false⟩
  | 'A' => return .assertion .startText
  | 'z' => return .assertion .endText
  | 'b' => return .assertion (← boundaryName verbose)
  | 'B' => return .assertion .notWordBoundary
  | '<' => return .assertion .wordStart
  | '>' => return .assertion .wordEnd
  | _ => do
    Scanner.guard (isEscapable c)
    return .literal ⟨c, false⟩

/-! ### Bracketed classes -/

/-- The names of the ASCII classes. -/
def asciiClassNames : List String :=
  ["alnum", "alpha", "ascii", "blank", "cntrl", "digit", "graph", "lower", "print", "punct",
   "space", "upper", "word", "xdigit"]

/-- The ASCII class that a text starts with, such as `[:alpha:]`: whether it is
negated, its name and how many characters it takes. -/
def asciiClass? (text : List Char) : Option (Bool × String × Nat) :=
  match text with
  | '[' :: ':' :: rest =>
    let negated := rest.head? = some '^'
    let rest := if negated then rest.drop 1 else rest
    let name := rest.takeWhile (· ≠ ':')
    match rest.dropWhile (· ≠ ':') with
    | ':' :: ']' :: _ =>
      let name := String.ofList name
      if asciiClassNames.contains name then
        some (negated, name, name.length + (if negated then 5 else 4))
      else none
    | _ => none
  | _ => none

/-- An open bracket: what was read behind it and since the last operation. -/
structure Bracket where
  negated : Bool
  /-- The left operand of the operation that waits for its right one. -/
  pending : Option (ClassOp × ClassExpr)
  /-- The items of the current operand, last first. -/
  items : List ClassExpr

/-- The bracket with a further item. -/
def Bracket.push (b : Bracket) (item : ClassExpr) : Bracket :=
  { b with items := item :: b.items }

/-- What an open bracket holds. -/
def Bracket.body (b : Bracket) : ClassExpr :=
  let last := ClassExpr.ofItems b.items.reverse
  match b.pending with
  | none => last
  | some (kind, left) => .op kind left last

/-- The bracket after an operation. -/
def Bracket.operate (b : Bracket) (kind : ClassOp) : Bracket :=
  ⟨b.negated, some (kind, b.body), []⟩

/-- Takes the hyphens with which a class may start. -/
def leadingHyphens (verbose : Bool) : Scanner (List ClassExpr) :=
  Scanner.iterate (fun (items : List ClassExpr) => do
    if (← Scanner.peek) = some '-' then
      let _ ← nextThenBlanks verbose
      return .inl (.literal ⟨'-', false⟩ :: items)
    else return .inr items) []

/-- Takes an opening bracket with what belongs to it: a caret, hyphens, and a
closing bracket that comes first. -/
def openBracket (verbose : Bool) : Scanner Bracket := do
  let _ ← nextThenBlanks verbose
  let negated := (← Scanner.peek) = some '^'
  if negated then
    let _ ← nextThenBlanks verbose
  let items ← leadingHyphens verbose
  if items.isEmpty && (← Scanner.peek) = some ']' then
    let _ ← nextThenBlanks verbose
    return ⟨negated, none, [.literal ⟨']', false⟩]⟩
  else
    Scanner.guard (← Scanner.peek).isSome
    return ⟨negated, none, items⟩

/-- The character that follows the next one. In verbose mode blanks are passed
over; a comment is passed over up to its first character that is not blank. -/
def peekBehind (verbose : Bool) (text : List Char) : Option Char :=
  match text with
  | [] => none
  | _ :: rest =>
    if verbose then
      let shown := match rest.dropWhile Property.isSpace with
        | '#' :: tail => tail.dropWhile Property.isSpace
        | tail => tail
      match shown with
      | [] => rest.head?
      | c :: _ => some c
    else rest.head?

/-- Takes one end of a range, or an item that is no range. -/
def classPrimitive (verbose : Bool) : Scanner Primitive := do
  let c ← Scanner.next
  if c = '\\' then escape verbose else return .literal ⟨c, false⟩

/-- Takes an item of a class: a range, or an item that stands alone. -/
def classItem (verbose : Bool) : Scanner ClassExpr := do
  let first ← classPrimitive verbose
  skipBlanks verbose
  let text ← Scanner.lookAhead
  let behind := peekBehind verbose text
  match text.head? with
  | none => Scanner.fail
  | some c =>
    -- A hyphen in front of the end or of another hyphen makes no range.
    if c ≠ '-' ∨ behind = some ']' ∨ behind = some '-' then
      Scanner.ofOption first.toClass?
    else
      let _ ← nextThenBlanks verbose
      let last ← classPrimitive verbose
      let l ← Scanner.ofOption first.toLiteral?
      let r ← Scanner.ofOption last.toLiteral?
      Scanner.guard (l.char.toNat ≤ r.char.toNat)
      return .range l r

/-- One step of reading a class, with the brackets that are open around the
innermost one. -/
def classStep (verbose : Bool) :
    Bracket × List Bracket → Scanner ((Bracket × List Bracket) ⊕ (Bool × ClassExpr))
  | (b, outer) => do
    skipBlanks verbose
    let text ← Scanner.lookAhead
    match text with
    | [] => Scanner.fail
    | '[' :: _ =>
      match asciiClass? text with
      | some (negated, name, length) =>
        Scanner.skip length
        return .inl (b.push (.ascii negated name), outer)
      -- What only looks like the class of a name is a bracket inside this one.
      | none => return .inl (← openBracket verbose, b :: outer)
    | ']' :: _ =>
      Scanner.skip 1
      match outer with
      | [] => return .inr (b.negated, b.body)
      | parent :: rest => return .inl (parent.push (.bracketed b.negated b.body), rest)
    | '&' :: '&' :: _ => Scanner.skip 2; return .inl (b.operate .inter, outer)
    | '-' :: '-' :: _ => Scanner.skip 2; return .inl (b.operate .diff, outer)
    | '~' :: '~' :: _ => Scanner.skip 2; return .inl (b.operate .symmDiff, outer)
    | _ => return .inl (b.push (← classItem verbose), outer)

/-- Takes a bracketed class. -/
def bracketedClass (verbose : Bool) : Scanner Expr := do
  let first ← openBracket verbose
  let (negated, body) ← Scanner.iterate (classStep verbose) (first, [])
  return .bracketed negated body

/-! ### Groups and flags -/

/-- Sets a flag that has not been set before. -/
def FlagChange.set? (change : FlagChange) (letter : Char) (value : Bool) : Option FlagChange :=
  match letter with
  | 'i' => if change.ignoreCase.isNone then some { change with ignoreCase := value } else none
  | 'm' => if change.multiLine.isNone then some { change with multiLine := value } else none
  | 's' => if change.dotAll.isNone then some { change with dotAll := value } else none
  | 'U' => if change.swapGreed.isNone then some { change with swapGreed := value } else none
  | 'u' => if change.unicode.isNone then some { change with unicode := value } else none
  | 'R' => if change.crlf.isNone then some { change with crlf := value } else none
  | 'x' => if change.verbose.isNone then some { change with verbose := value } else none
  | _ => none

/-- No change of any flag. -/
def FlagChange.none : FlagChange :=
  ⟨Option.none, Option.none, Option.none, Option.none, Option.none, Option.none, Option.none⟩

/-- What was read of a group of flags. -/
structure FlagsSoFar where
  change : FlagChange
  /-- A hyphen was read: the flags behind it are switched off. -/
  negated : Bool
  /-- The last character was a hyphen. -/
  dangling : Bool

/-- Takes flags up to a colon or a closing parenthesis. -/
def flagGroup : Scanner FlagChange :=
  Scanner.iterate (fun (s : FlagsSoFar) => do
    match ← Scanner.peek with
    | Option.none => Scanner.fail
    | some c =>
      if c = ':' ∨ c = ')' then
        Scanner.guard (!s.dangling)
        return .inr s.change
      else
        let _ ← Scanner.next
        if c = '-' then
          Scanner.guard (!s.negated)
          return .inl ⟨s.change, true, true⟩
        else
          let change ← Scanner.ofOption (s.change.set? c (!s.negated))
          return .inl ⟨change, s.negated, false⟩) ⟨.none, false, false⟩

/-- A character that a group's name may hold; it may start with a letter or an
underscore only. -/
def isNameChar (first : Bool) (c : Char) : Bool :=
  c = '_' || Property.alphabetic.has c.toNat
    || (!first && (c = '.' || c = '[' || c = ']'
      || (Category.get "n").has c.toNat))

/-- Takes a group's name and the angle bracket behind it. -/
def groupName : Scanner String :=
  Scanner.iterate (fun (taken : List Char) => do
    let c ← Scanner.next
    if c = '>' then
      Scanner.guard (!taken.isEmpty)
      return .inr (String.ofList taken.reverse)
    else
      Scanner.guard (isNameChar taken.isEmpty c)
      return .inl (c :: taken)) []

/-- What an opening parenthesis may open. -/
inductive Opening where
  /-- Flags that hold from here on. -/
  | flags (change : FlagChange)
  /-- A group; a named one has a name that no group before it has. -/
  | group (capturing : Bool) (change : Option FlagChange) (name : Option String)

/-- Takes what follows an opening parenthesis. Look-around is refused. -/
def groupOpening (verbose : Bool) : Scanner Opening := do
  skipBlanks verbose
  match ← Scanner.lookAhead with
  | '?' :: '=' :: _ | '?' :: '!' :: _ | '?' :: '<' :: '=' :: _ | '?' :: '<' :: '!' :: _ =>
    Scanner.fail
  | '?' :: 'P' :: '<' :: _ =>
    Scanner.skip 3
    return .group true Option.none (some (← groupName))
  | '?' :: '<' :: _ =>
    Scanner.skip 2
    return .group true Option.none (some (← groupName))
  | '?' :: _ =>
    Scanner.skip 1
    let change ← flagGroup
    let c ← Scanner.next
    if c = ')' then
      Scanner.guard (change ≠ .none)
      return .flags change
    else return .group false (some change) Option.none
  | _ => return .group true Option.none Option.none

/-! ### Repetitions -/

/-- The greatest count of a repetition. -/
def countLimit : Nat := Nat.pow 2 32 - 1

/-- Takes a count, with blanks on either side. -/
def count (verbose : Bool) : Scanner Nat := do
  let _ ← Scanner.takeWhile Property.isSpace
  let digits ← Scanner.iterate (fun (ds : List Digit) => do
    match (← Scanner.peek).bind Digit.ofChar? with
    | some d =>
      let _ ← nextThenBlanks verbose
      return .inl (d :: ds)
    | Option.none => return .inr ds.reverse) []
  skipBlanks (verbose && !digits.isEmpty)
  let _ ← Scanner.takeWhile Property.isSpace
  skipBlanks (verbose && !digits.isEmpty)
  Scanner.guard (!digits.isEmpty && Digit.value digits ≤ countLimit)
  return Digit.value digits

/-- Takes a question mark that makes a repetition lazy. -/
def lazyMark : Scanner Unit := do
  let _ ← Scanner.accept ['?']

/-- Takes the counts of a repetition, braces included. -/
def counts (verbose : Bool) : Scanner (Nat × Option Nat) := do
  let _ ← nextThenBlanks verbose
  let min ← count verbose
  let c ← nextThenBlanks verbose
  if c = closeBrace then
    lazyMark
    return (min, some min)
  else
    Scanner.guard (c = ',')
    if (← Scanner.peek) = some closeBrace then
      let _ ← nextThenBlanks verbose
      lazyMark
      return (min, Option.none)
    else
      let max ← count verbose
      Scanner.guard ((← nextThenBlanks verbose) = closeBrace)
      lazyMark
      Scanner.guard (min ≤ max)
      return (min, some max)

/-! ### Expressions -/

/-- What was read inside the innermost open group. -/
structure Level where
  /-- The branches before the current one, last first. -/
  branches : List Expr
  /-- The items of the current branch, last first. -/
  items : List Expr

/-- The level with a further item. -/
def Level.push (l : Level) (item : Expr) : Level := ⟨l.branches, item :: l.items⟩

/-- The expression that a level holds. -/
def Level.toExpr (l : Level) : Expr :=
  .ofBranches (Expr.ofItems l.items.reverse :: l.branches).reverse

/-- The level after a bar. -/
def Level.branch (l : Level) : Level := ⟨Expr.ofItems l.items.reverse :: l.branches, []⟩

/-- The level with its last item repeated. Flags cannot be repeated, nor can
nothing. -/
def Level.repeat? (l : Level) (min : Nat) (max : Option Nat) : Option Level :=
  match l.items with
  | [] => Option.none
  | .flags _ :: _ => Option.none
  | item :: rest => some ⟨l.branches, .repetition item min max :: rest⟩

/-- An open group, with the level around it. -/
structure Group where
  outer : Level
  capturing : Bool
  change : Option FlagChange
  /-- Verbose mode around the group. -/
  verbose : Bool

/-- What was read of an expression. -/
structure Progress where
  level : Level
  groups : List Group
  names : List String
  verbose : Bool

/-- The progress with a further item. -/
def Progress.push (s : Progress) (item : Expr) : Progress := { s with level := s.level.push item }

/-- The progress after an opening parenthesis. -/
def Progress.open? (s : Progress) : Opening → Option Progress
  | .flags change =>
    some { s with level := s.level.push (.flags change)
                  verbose := change.verbose.getD s.verbose }
  | .group capturing change name =>
    if name.any s.names.contains then Option.none
    else
      some { level := ⟨[], []⟩
             groups := ⟨s.level, capturing, change, s.verbose⟩ :: s.groups
             names := name.toList ++ s.names
             verbose := (change.bind (·.verbose)).getD s.verbose }

/-- The progress after a closing parenthesis. -/
def Progress.close? (s : Progress) : Option Progress :=
  match s.groups with
  | [] => Option.none
  | g :: rest =>
    some { s with level := g.outer.push (.group g.capturing g.change s.level.toExpr)
                  groups := rest
                  verbose := g.verbose }

/-- The progress with its last item repeated. -/
def Progress.repeat? (s : Progress) (min : Nat) (max : Option Nat) : Option Progress :=
  (s.level.repeat? min max).map fun l => { s with level := l }

/-- One step of reading an expression. -/
def exprStep (s : Progress) : Scanner (Progress ⊕ Expr) := do
  skipBlanks s.verbose
  match ← Scanner.peek with
  | Option.none =>
    -- Every group must be closed at the end.
    Scanner.guard s.groups.isEmpty
    return .inr s.level.toExpr
  | some '(' =>
    Scanner.skip 1
    return .inl (← Scanner.ofOption (s.open? (← groupOpening s.verbose)))
  | some ')' =>
    Scanner.skip 1
    return .inl (← Scanner.ofOption s.close?)
  | some '|' =>
    Scanner.skip 1
    return .inl { s with level := s.level.branch }
  | some '[' => return .inl (s.push (← bracketedClass s.verbose))
  | some '?' =>
    Scanner.skip 1
    lazyMark
    return .inl (← Scanner.ofOption (s.repeat? 0 (some 1)))
  | some '*' =>
    Scanner.skip 1
    lazyMark
    return .inl (← Scanner.ofOption (s.repeat? 0 Option.none))
  | some '+' =>
    Scanner.skip 1
    lazyMark
    return .inl (← Scanner.ofOption (s.repeat? 1 Option.none))
  | some '\\' =>
    Scanner.skip 1
    return .inl (s.push (← escape s.verbose).toExpr)
  | some '.' => Scanner.skip 1; return .inl (s.push .dot)
  | some '^' => Scanner.skip 1; return .inl (s.push (.assertion .startLine))
  | some '$' => Scanner.skip 1; return .inl (s.push (.assertion .endLine))
  | some c =>
    if c = openBrace then
      let (min, max) ← counts s.verbose
      return .inl (← Scanner.ofOption (s.repeat? min max))
    else
      Scanner.skip 1
      return .inl (s.push (.literal ⟨c, false⟩))

/-- The greatest nesting of an expression. -/
def nestingLimit : Nat := 250

/-- Reads a regular expression. -/
def Expr.parse? (text : String) : Option Expr := do
  let e ← Scanner.run? (Scanner.iterate exprStep ⟨⟨[], []⟩, [], [], false⟩) text.toList
  if e.depth ≤ nestingLimit then some e else Option.none

end DraftSchema.Regex
