import DraftSchema.Json.Token

/-!
# `DraftSchema.Unicode.CodePoints`: sets of code points

A set of code points is a list of ranges. The operations return canonical sets:
ranges in ascending order, with a gap between any two. `CodePoints.ofText` reads
the notation of the tables of this folder, hexadecimal code points and ranges
parted by blanks, such as `"30-39 5F"`.
-/

set_option autoImplicit false

namespace DraftSchema.Unicode

/-- The code points from `first` to `last`. -/
structure Range where
  first : Nat
  last : Nat
deriving DecidableEq, Repr

/-- A set of code points. -/
abbrev CodePoints := List Range

/-- The last code point. -/
def lastCodePoint : Nat := 0x10FFFF

namespace Range

/-- The range has this code point. -/
def has (r : Range) (c : Nat) : Bool := r.first ≤ c && c ≤ r.last

end Range

namespace CodePoints

/-- The set has this code point. -/
def has (s : CodePoints) (c : Nat) : Bool := s.any (·.has c)

/-- The set of one character. -/
def single (c : Char) : CodePoints := [⟨c.toNat, c.toNat⟩]

/-- Every code point. -/
def all : CodePoints := [⟨0, lastCodePoint⟩]

/-- Joins ranges in ascending order of their first code points where they touch
or overlap. -/
def joined : List Range → CodePoints
  | [] => []
  | r :: rest =>
    match joined rest with
    | [] => [r]
    | t :: tail =>
      if t.first ≤ r.last + 1 then ⟨r.first, max r.last t.last⟩ :: tail else r :: t :: tail

/-- The canonical form of any list of ranges. -/
def canonical (ranges : List Range) : CodePoints :=
  joined (ranges.mergeSort fun r t => r.first ≤ t.first)

/-- The code points of either set. -/
def union (s t : CodePoints) : CodePoints := canonical (s ++ t)

/-- The code points from `start` on that a canonical set lacks. -/
def gapsFrom (start : Nat) : CodePoints → CodePoints
  | [] => if start ≤ lastCodePoint then [⟨start, lastCodePoint⟩] else []
  | r :: rest =>
    if start < r.first then ⟨start, r.first - 1⟩ :: gapsFrom (r.last + 1) rest
    else gapsFrom (r.last + 1) rest

/-- The code points that the set lacks. -/
def complement (s : CodePoints) : CodePoints := gapsFrom 0 (canonical s)

/-- The code points of both sets. -/
def inter (s t : CodePoints) : CodePoints :=
  complement (union (complement s) (complement t))

/-- The code points of the first set that the second lacks. -/
def diff (s t : CodePoints) : CodePoints := complement (union (complement s) t)

/-- The code points of exactly one of the two sets. -/
def symmDiff (s t : CodePoints) : CodePoints := union (diff s t) (diff t s)

/-- The set has no code point beyond ASCII. -/
def isAscii (s : CodePoints) : Bool := List.all s (·.last < 128)

/-- The number that hexadecimal digits spell after `acc`. -/
def hexNumber (acc : Nat) (cs : List Char) : Nat :=
  cs.foldl (fun n c => n * 16 + (Json.hexValue? c).getD 0) acc

/-- The range that one word of the table notation spells. -/
def rangeOfWord (word : List Char) : Range :=
  let first := hexNumber 0 (word.takeWhile (· ≠ '-'))
  match word.dropWhile (· ≠ '-') with
  | [] => ⟨first, first⟩
  | _ :: rest => ⟨first, hexNumber 0 rest⟩

/-- The words of a text: its longest runs without blanks. -/
def words (text : List Char) (word : List Char) : List (List Char) :=
  match text with
  | [] => if word.isEmpty then [] else [word.reverse]
  | c :: rest =>
    if c = ' ' then
      if word.isEmpty then words rest [] else word.reverse :: words rest []
    else words rest (c :: word)

/-- Reads a set in the table notation. -/
def ofText (text : String) : CodePoints := (words text.toList []).map rangeOfWord

/-- Reads a set whose notation takes several lines. -/
def ofLines (lines : List String) : CodePoints := lines.flatMap ofText

end CodePoints
end DraftSchema.Unicode
