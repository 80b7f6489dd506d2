import DraftSchema.Unicode.Property

/-!
# `DraftSchema.Regex`: what a regular expression means

The core of regular expressions: sets of characters, zero-width assertions,
sequence, choice and repetition. `Regex.ends` runs an expression from a set of
positions of a text to the set of positions where a match may end. A repetition
goes on only from positions that it has not met before, so that it ends on every
text.
-/

set_option autoImplicit false

namespace DraftSchema

/-- The zero-width assertions. -/
inductive Regex.Look where
  | start | stop
  | startOfLine | endOfLine
  /-- Lines that may end with a carriage return. -/
  | startOfLineCr | endOfLineCr
  | wordBoundary (unicode negated : Bool)
  | wordStart (unicode : Bool)
  | wordEnd (unicode : Bool)
  | wordStartHalf (unicode : Bool)
  | wordEndHalf (unicode : Bool)
deriving DecidableEq, Repr

/-- A regular expression. -/
inductive Regex where
  /-- The empty text. -/
  | empty
  /-- One character of a set. -/
  | chars (set : Unicode.CodePoints)
  | look (assertion : Regex.Look)
  | concat (first second : Regex)
  | choice (first second : Regex)
  /-- At least `min` times, at most `max` times if there is a bound. -/
  | repetition (body : Regex) (min : Nat) (max : Option Nat)
  /-- A group whose text is remembered. -/
  | group (body : Regex)
deriving Inhabited

namespace Regex

/-- The expression of some expressions in a row. -/
def ofItems : List Regex → Regex
  | [] => .empty
  | [r] => r
  | r :: rest => .concat r (ofItems rest)

/-- The expression of some branches. -/
def ofBranches : List Regex → Regex
  | [] => .empty
  | [r] => r
  | r :: rest => .choice r (ofBranches rest)

/-! ### Assertions -/

/-- The characters of words, of every script or of ASCII. -/
def isWordChar (unicode : Bool) (c : Char) : Bool :=
  if c.toNat < 128 then c.isAlphanum || c = '_' else unicode && Unicode.Property.word.has c.toNat

/-- There is a character of a word at `i`. -/
def wordAt (unicode : Bool) (text : Array Char) (i : Nat) : Bool :=
  (text[i]?).any (isWordChar unicode)

/-- There is a character of a word in front of `i`. -/
def wordBefore (unicode : Bool) (text : Array Char) (i : Nat) : Bool :=
  0 < i && wordAt unicode text (i - 1)

/-- The assertion holds at the position `i`. -/
def Look.holds (text : Array Char) (i : Nat) : Look → Bool
  | .start => i == 0
  | .stop => i == text.size
  | .startOfLine => i == 0 || text[i - 1]? == some '\n'
  | .endOfLine => i == text.size || text[i]? == some '\n'
  | .startOfLineCr =>
    i == 0 || text[i - 1]? == some '\n' || (text[i - 1]? == some '\r' && text[i]? != some '\n')
  | .endOfLineCr =>
    i == text.size || text[i]? == some '\r'
      || (text[i]? == some '\n' && (i == 0 || text[i - 1]? != some '\r'))
  | .wordBoundary unicode negated =>
    (wordBefore unicode text i != wordAt unicode text i) != negated
  | .wordStart unicode => !wordBefore unicode text i && wordAt unicode text i
  | .wordEnd unicode => wordBefore unicode text i && !wordAt unicode text i
  | .wordStartHalf unicode => !wordBefore unicode text i
  | .wordEndHalf unicode => !wordAt unicode text i

/-! ### Sets of positions -/

/-- The positions of two descending lists, in one descending list. -/
def mergeDesc (s t : List Nat) : List Nat :=
  match s, t with
  | [], t => t
  | s, [] => s
  | i :: s, j :: t =>
    if j < i then i :: mergeDesc s (j :: t)
    else if i < j then j :: mergeDesc (i :: s) t
    else i :: mergeDesc s t
termination_by s.length + t.length

/-- The positions of a descending list that another one lacks. -/
def diffDesc (s t : List Nat) : List Nat :=
  match s, t with
  | [], _ => []
  | s, [] => s
  | i :: s, j :: t =>
    if j < i then i :: diffDesc s (j :: t)
    else if i < j then diffDesc (i :: s) t
    else diffDesc s t
termination_by s.length + t.length

/-! ### Matching -/

/-- The positions that steps of `next` reach from `frontier`, with those that
were `seen` before; `fuel` bounds the number of steps. -/
def closure (next : List Nat → List Nat) : (fuel : Nat) → (seen frontier : List Nat) → List Nat
  | 0, seen, _ => seen
  | fuel + 1, seen, frontier =>
    match diffDesc (next frontier) seen with
    | [] => seen
    | fresh => closure next fuel (mergeDesc fresh seen) fresh

/-- The positions that exactly `n` steps of `next` reach. -/
def power (next : List Nat → List Nat) : (n : Nat) → List Nat → List Nat
  | 0, s => s
  | n + 1, s => if s.isEmpty then [] else power next n (next s)

/-- The positions that at most `n` steps of `next` reach, with those that were
`seen` before. -/
def upTo (next : List Nat → List Nat) : (n : Nat) → (seen frontier : List Nat) → List Nat
  | 0, seen, _ => seen
  | n + 1, seen, frontier =>
    match diffDesc (next frontier) seen with
    | [] => seen
    | fresh => upTo next n (mergeDesc fresh seen) fresh

/-- The positions where a match that starts at one of the given positions may
end. Lists of positions are descending. -/
def ends (text : Array Char) : Regex → List Nat → List Nat
  | .empty, s => s
  | .chars set, s =>
    s.filterMap fun i => if (text[i]?).any (set.has ·.toNat) then some (i + 1) else none
  | .look a, s => s.filter fun i => a.holds text i
  | .concat a b, s => ends text b (ends text a s)
  | .choice a b, s => mergeDesc (ends text a s) (ends text b s)
  | .repetition a min max, s =>
    -- Up to the least number every step is made, even if it leads nowhere new.
    let start := power (ends text a) min s
    match max with
    | none => closure (ends text a) (text.size + 1) start start
    | some m => upTo (ends text a) (m - min) start start
  | .group a, s => ends text a s

/-- The positions from `n` down to the start. -/
def positionsFrom (n : Nat) : List Nat := (List.range (n + 1)).reverse

/-- The expression matches somewhere in the text. -/
def isMatch (r : Regex) (text : String) : Bool :=
  let chars := text.toList.toArray
  !(ends chars r (positionsFrom chars.size)).isEmpty

end Regex
end DraftSchema
