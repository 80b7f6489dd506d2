/-!
# `DraftSchema.Regex.Expr`: regular expressions as they are written

An expression keeps what its text says: literals, classes, groups and the
places where flags change. What flags and classes mean is decided later
(`DraftSchema.Regex.Elaborate`). `Expr.depth` measures how deeply an expression
is nested.
-/

set_option autoImplicit false

namespace DraftSchema.Regex

/-- What a group of flags says: nothing about a flag, on, or off. -/
structure FlagChange where
  ignoreCase : Option Bool
  multiLine : Option Bool
  dotAll : Option Bool
  swapGreed : Option Bool
  unicode : Option Bool
  crlf : Option Bool
  verbose : Option Bool
deriving DecidableEq, Repr

/-- A literal character. One that is written as `\x` and two digits may also
stand for a byte. -/
structure Literal where
  char : Char
  isByte : Bool
deriving DecidableEq, Repr

/-- The zero-width assertions. -/
inductive Assertion where
  | startLine | endLine | startText | endText
  | wordBoundary | notWordBoundary
  | wordStart | wordEnd | wordStartHalf | wordEndHalf
deriving DecidableEq, Repr

/-- The classes that have a letter of their own. -/
inductive LetterClass where
  | digit | space | word
deriving DecidableEq, Repr

/-- The property that `\p` asks for. -/
inductive PropertyQuery where
  /-- A property, category or script by its own name. -/
  | named (name : String)
  /-- A property with a value. -/
  | valued (name value : String)
deriving DecidableEq, Repr

/-- The operations between the operands of a bracketed class. -/
inductive ClassOp where
  | inter | diff | symmDiff
deriving DecidableEq, Repr

/-- What stands in a bracketed class. -/
inductive ClassExpr where
  | literal (l : Literal)
  | range (first last : Literal)
  | ascii (negated : Bool) (name : String)
  | property (negated : Bool) (query : PropertyQuery)
  | letter (negated : Bool) (kind : LetterClass)
  | bracketed (negated : Bool) (body : ClassExpr)
  | union (items : List ClassExpr)
  | op (kind : ClassOp) (left right : ClassExpr)
deriving Inhabited

/-- The expression of some items in a row; one item stands for itself. -/
def ClassExpr.ofItems : List ClassExpr → ClassExpr
  | [item] => item
  | items => .union items

/-- A regular expression as it is written. -/
inductive Expr where
  | empty
  | flags (change : FlagChange)
  | literal (l : Literal)
  | dot
  | assertion (a : Assertion)
  | property (negated : Bool) (query : PropertyQuery)
  | letter (negated : Bool) (kind : LetterClass)
  | bracketed (negated : Bool) (body : ClassExpr)
  | repetition (body : Expr) (min : Nat) (max : Option Nat)
  | group (capturing : Bool) (change : Option FlagChange) (body : Expr)
  | concat (items : List Expr)
  | alternation (branches : List Expr)
deriving Inhabited

/-- The expression of some items in a row. -/
def Expr.ofItems : List Expr → Expr
  | [] => .empty
  | [item] => item
  | items => .concat items

/-- The expression of some branches. -/
def Expr.ofBranches : List Expr → Expr
  | [branch] => branch
  | branches => .alternation branches

/-! ### Nesting -/

mutual

/-- How deeply a class is nested. Brackets, rows of items and operations count. -/
def ClassExpr.depth : ClassExpr → Nat
  | .literal _ | .range _ _ | .ascii _ _ | .property _ _ | .letter _ _ => 0
  | .bracketed _ body => body.depth + 1
  | .union [] => 0
  | .union (item :: items) => max item.depth (ClassExpr.depthOfAll items) + 1
  | .op _ left right => max left.depth right.depth + 1

/-- How deeply the deepest of some classes is nested. -/
def ClassExpr.depthOfAll : List ClassExpr → Nat
  | [] => 0
  | item :: items => max item.depth (ClassExpr.depthOfAll items)

end

mutual

/-- How deeply an expression is nested. Classes, repetitions, groups, rows and
alternations count. -/
def Expr.depth : Expr → Nat
  | .empty | .flags _ | .literal _ | .dot | .assertion _ | .property _ _ | .letter _ _ => 0
  | .bracketed _ body => body.depth + 1
  | .repetition body _ _ => body.depth + 1
  | .group _ _ body => body.depth + 1
  | .concat items => Expr.depthOfAll items + 1
  | .alternation branches => Expr.depthOfAll branches + 1

/-- How deeply the deepest of some expressions is nested. -/
def Expr.depthOfAll : List Expr → Nat
  | [] => 0
  | item :: items => max item.depth (Expr.depthOfAll items)

end

end DraftSchema.Regex
