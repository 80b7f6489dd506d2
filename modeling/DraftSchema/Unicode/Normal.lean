import DraftSchema.Unicode.Combining
import DraftSchema.Unicode.Decomposition
import DraftSchema.Unicode.Hangul

/-!
# `DraftSchema.Unicode.Normal`: one spelling for equivalent texts

`decomposed` replaces every character by the sequence that it stands for, with
the marks on one character in the order of their classes. `composed` puts a
decomposed text together again as far as that goes, so that texts which stand for
the same sequence get one spelling.
-/

set_option autoImplicit false

namespace DraftSchema.Unicode.Normal

/-! ### Taking characters apart -/

/-- The sequence that a character stands for. -/
def parts (c : Char) : List Char :=
  match Hangul.letters? c with
  | some letters => letters
  | none => ((Decomposition.table.find? (·.whole = c)).map (·.parts)).getD [c]

/-- Puts a character in front of a text in which the marks are in order. A mark
passes those of a lower class, but no character without a class. -/
def insertOrdered (c : Char) : List Char → List Char
  | [] => [c]
  | d :: rest =>
    if 0 < Combining.classOf d ∧ Combining.classOf d < Combining.classOf c then
      d :: insertOrdered c rest
    else c :: d :: rest

/-- The text without characters that stand for others, its marks in order. -/
def decomposed (cs : List Char) : List Char := (cs.flatMap parts).foldr insertOrdered []

/-! ### Putting characters together -/

/-- The character that stands for two. -/
def pair? (a b : Char) : Option Char :=
  match Hangul.compose? a b with
  | some c => some c
  | none =>
    let sequence := parts a ++ [b]
    (Decomposition.table.find? fun d => d.composes && d.parts == sequence).map (·.whole)

/-- Puts the character `first` together with what follows it. The `marks`, the
last one first, lie between and were not taken up; a mark of the same class
shields those behind it. -/
def composeOn (first : Char) (marks : List Char) : List Char → List Char
  | [] => first :: marks.reverse
  | c :: rest =>
    let shielded := marks.head?.any fun m => Combining.classOf c ≤ Combining.classOf m
    match if shielded then none else pair? first c with
    | some whole => composeOn whole marks rest
    | none =>
      -- A character without a class begins anew.
      if Combining.classOf c = 0 then first :: marks.reverse ++ composeOn c [] rest
      else composeOn first (c :: marks) rest

/-- Puts the characters of a decomposed text together. -/
def recomposed : List Char → List Char
  | [] => []
  | c :: rest => if Combining.classOf c = 0 then composeOn c [] rest else c :: recomposed rest

/-- The first character that stands for others. All marks come behind it. -/
def firstWhole : Char := 'À'

/-- The composed spelling of a text. A text of characters before `firstWhole` is
its own. -/
def composed (cs : List Char) : List Char :=
  if cs.all (· < firstWhole) then cs else recomposed (decomposed cs)

end DraftSchema.Unicode.Normal
