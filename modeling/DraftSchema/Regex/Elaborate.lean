import DraftSchema.Regex
import DraftSchema.Regex.Expr
import DraftSchema.Unicode.CaseFolding
import DraftSchema.Unicode.Script

/-!
# `DraftSchema.Regex.Elaborate`: from the written form to the core

Flags and classes are resolved: `Expr.elaborate?` turns an expression into a
`Regex`. A change of flags holds to the end of its group, across the branches of
an alternation. Where matching by characters is switched off, everything that
could match half a character is refused.
-/

set_option autoImplicit false

namespace DraftSchema.Regex

open Unicode

/-- The flags that hold at one place of an expression. -/
structure Flags where
  ignoreCase : Bool
  multiLine : Bool
  dotAll : Bool
  unicode : Bool
  crlf : Bool

/-- The flags at the start of an expression. -/
def Flags.initial : Flags := ⟨false, false, false, true, false⟩

/-- The flags after a change. -/
def Flags.after (flags : Flags) (change : FlagChange) : Flags where
  ignoreCase := change.ignoreCase.getD flags.ignoreCase
  multiLine := change.multiLine.getD flags.multiLine
  dotAll := change.dotAll.getD flags.dotAll
  unicode := change.unicode.getD flags.unicode
  crlf := change.crlf.getD flags.crlf

/-! ### Sets of characters -/

/-- The letters of ASCII that differ from one of the set in case alone, with the
set. -/
def asciiFolded (s : CodePoints) : CodePoints :=
  let shifted (first last : Nat) (by' : Nat → Nat) : CodePoints :=
    (CodePoints.inter s [⟨first, last⟩]).map fun r => ⟨by' r.first, by' r.last⟩
  .canonical (s ++ shifted 65 90 (· + 32) ++ shifted 97 122 (· - 32))

/-- The set with both cases of its letters, where case is ignored. -/
def foldedWhere (flags : Flags) (s : CodePoints) : CodePoints :=
  if flags.ignoreCase then (if flags.unicode then s.folded else asciiFolded s) else s

/-- The complement of a set, or the set. -/
def negatedWhere (negated : Bool) (s : CodePoints) : CodePoints :=
  if negated then .complement s else s

/-- Refuses a set beyond ASCII where matching by characters is switched off. -/
def admitted? (flags : Flags) (s : CodePoints) : Option CodePoints :=
  if flags.unicode || s.isAscii then some s else none

/-- The character of a literal. A byte beyond ASCII is no character. -/
def Literal.char? (flags : Flags) (l : Literal) : Option Char :=
  if !flags.unicode && l.isByte && 128 ≤ l.char.toNat then none else some l.char

/-- The character of a literal in a class, which must be of ASCII where matching
by characters is switched off. -/
def Literal.classChar? (flags : Flags) (l : Literal) : Option Char := do
  let c ← l.char? flags
  if flags.unicode || c.toNat < 128 then some c else none

/-- The characters of an ASCII class. -/
def asciiClass (name : String) : CodePoints :=
  .ofText <|
    match name with
    | "alnum" => "30-39 41-5A 61-7A"
    | "alpha" => "41-5A 61-7A"
    | "ascii" => "0-7F"
    | "blank" => "9 20"
    | "cntrl" => "0-1F 7F"
    | "digit" => "30-39"
    | "graph" => "21-7E"
    | "lower" => "61-7A"
    | "print" => "20-7E"
    | "punct" => "21-2F 3A-40 5B-60 7B-7E"
    | "space" => "9-D 20"
    | "upper" => "41-5A"
    | "word" => "30-39 41-5A 5F 61-7A"
    | _ => "30-39 41-46 61-66"

/-- The characters of a class with a letter of its own. -/
def letterClass (unicode : Bool) : LetterClass → CodePoints
  | .digit => if unicode then Property.decimalDigit else asciiClass "digit"
  | .space => if unicode then Property.whiteSpace else asciiClass "space"
  | .word => if unicode then Property.word else asciiClass "word"

/-- The name starts with `is`, in any case. -/
def startsWithIs : List Char → Bool
  | i :: s :: _ => (i = 'i' || i = 'I') && (s = 's' || s = 'S')
  | _ => false

/-- A name in loose form: lower case, ASCII alone, without blanks, hyphens,
underscores and a leading `is`. -/
def looseName (name : String) : String :=
  let cs := name.toList
  let named := startsWithIs cs
  let cs := if named then cs.drop 2 else cs
  let kept := (cs.filter fun c => c.toNat < 128 && c ≠ ' ' && c ≠ '_' && c ≠ '-').map Char.toLower
  if named && kept = ['c'] then "isc" else String.ofList kept

/-- The characters that a property query asks for. The general category and the
script may be asked for by value, also by the name of the property; the others
by name alone. -/
def PropertyQuery.set? : PropertyQuery → Option CodePoints
  | .named name =>
    let name := looseName name
    Property.find? name <|> Category.find? name <|> Script.find? name
  | .valued name value =>
    let name := looseName name
    let value := looseName value
    if name = "gc" ∨ name = "generalcategory" then Category.find? value
    else if name = "sc" ∨ name = "script" then Script.find? value
    else if name = "scx" ∨ name = "scriptextensions" then Script.findExtension? value
    else none

/-- The characters of a property. -/
def propertyClass? (flags : Flags) (negated : Bool) (query : PropertyQuery) :
    Option CodePoints := do
  if !flags.unicode then none
  let s ← query.set?
  return negatedWhere negated (foldedWhere flags s)

mutual

/-- The characters of a class. -/
def ClassExpr.set? (flags : Flags) : ClassExpr → Option CodePoints
  | .literal l => (l.classChar? flags).map .single
  | .range first last => do
    let f ← first.classChar? flags
    let l ← last.classChar? flags
    return [⟨f.toNat, l.toNat⟩]
  | .ascii negated name =>
    admitted? flags (negatedWhere negated (foldedWhere flags (asciiClass name)))
  | .property negated query => propertyClass? flags negated query
  | .letter negated kind => admitted? flags (negatedWhere negated (letterClass flags.unicode kind))
  | .bracketed negated body => do
    let s ← body.set? flags
    admitted? flags (negatedWhere negated (foldedWhere flags s))
  | .union items => ClassExpr.unionSet? flags items
  | .op kind left right => do
    let l ← left.set? flags
    let r ← right.set? flags
    let l := foldedWhere flags l
    let r := foldedWhere flags r
    return match kind with
      | .inter => .inter l r
      | .diff => .diff l r
      | .symmDiff => .symmDiff l r

/-- The characters of any of some classes. -/
def ClassExpr.unionSet? (flags : Flags) : List ClassExpr → Option CodePoints
  | [] => some []
  | item :: items => do
    let s ← item.set? flags
    let t ← ClassExpr.unionSet? flags items
    return .union s t

end

/-! ### Expressions -/

/-- What an assertion means. -/
def Assertion.look (flags : Flags) : Assertion → Look
  | .startLine =>
    if flags.multiLine then (if flags.crlf then .startOfLineCr else .startOfLine) else .start
  | .endLine =>
    if flags.multiLine then (if flags.crlf then .endOfLineCr else .endOfLine) else .stop
  | .startText => .start
  | .endText => .stop
  | .wordBoundary => .wordBoundary flags.unicode false
  | .notWordBoundary => .wordBoundary flags.unicode true
  | .wordStart => .wordStart flags.unicode
  | .wordEnd => .wordEnd flags.unicode
  | .wordStartHalf => .wordStartHalf flags.unicode
  | .wordEndHalf => .wordEndHalf flags.unicode

/-- The characters that a dot stands for. -/
def dotSet? (flags : Flags) : Option CodePoints :=
  if !flags.unicode then none
  else if flags.dotAll then some .all
  else if flags.crlf then some (.complement [⟨10, 10⟩, ⟨13, 13⟩])
  else some (.complement [⟨10, 10⟩])

mutual

/-- Resolves an expression; returns the flags that hold behind it as well. -/
def Expr.elaborate? (flags : Flags) : Expr → Option (Regex × Flags)
  | .empty => some (.empty, flags)
  | .flags change => some (.empty, flags.after change)
  | .literal l => do
    let c ← l.char? flags
    return (.chars (foldedWhere flags (.single c)), flags)
  | .dot => (dotSet? flags).map fun s => (.chars s, flags)
  | .assertion a => some (.look (a.look flags), flags)
  | .property negated query => (propertyClass? flags negated query).map fun s => (.chars s, flags)
  | .letter negated kind =>
    (admitted? flags (negatedWhere negated (letterClass flags.unicode kind))).map
      fun s => (.chars s, flags)
  | .bracketed negated body => do
    let s ← body.set? flags
    let s ← admitted? flags (negatedWhere negated (foldedWhere flags s))
    return (.chars (.canonical s), flags)
  | .repetition body min max => do
    let (r, flags) ← body.elaborate? flags
    return (.repetition r min max, flags)
  | .group capturing change body => do
    let inside := match change with
      | none => flags
      | some change => flags.after change
    -- Flags that change inside a group change back behind it.
    let (r, _) ← body.elaborate? inside
    return (if capturing then .group r else r, flags)
  | .concat items => do
    let (rs, flags) ← Expr.elaborateAll? flags items
    return (.ofItems rs, flags)
  | .alternation branches => do
    let (rs, flags) ← Expr.elaborateAll? flags branches
    return (.ofBranches rs, flags)

/-- Resolves expressions one after the other. -/
def Expr.elaborateAll? (flags : Flags) : List Expr → Option (List Regex × Flags)
  | [] => some ([], flags)
  | item :: items => do
    let (r, flags) ← item.elaborate? flags
    let (rs, flags) ← Expr.elaborateAll? flags items
    return (r :: rs, flags)

end

end DraftSchema.Regex
