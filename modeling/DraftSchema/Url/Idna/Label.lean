import DraftSchema.Unicode.Category
import DraftSchema.Unicode.Combining
import DraftSchema.Unicode.Direction
import DraftSchema.Unicode.Joining
import DraftSchema.Url.Idna.Mapping

/-!
# `DraftSchema.Url.Idna.Label`: the parts of the name of a domain

A part starts with no mark. A joiner stands behind a virama, or, where it keeps
letters from joining, between two that would join. Where a name has letters that
run from right to left, each part runs in one direction: digits and signs do not
change it at either end.
-/

set_option autoImplicit false

namespace DraftSchema.Url.Idna

open Unicode

/-! ### Marks and joiners -/

/-- The marks. -/
def marks : CodePoints := Category.get "m"

/-- A virama comes last in a text written backwards. -/
def endsInVirama (before : List Char) : Bool :=
  before.head?.any fun c => Combining.classOf c = Combining.virama

/-- The characters on both sides would join, were it not for what is between
them. -/
def wouldJoin (before rest : List Char) : Bool :=
  (before.dropWhile Joining.isTransparent).head?.any Joining.joinsNext
    && (rest.dropWhile Joining.isTransparent).head?.any Joining.joinsPrevious

/-- Every joiner is where one may be, with `before` the text in front, written
backwards. -/
def joinersFit (before : List Char) : List Char → Bool
  | [] => true
  | c :: rest =>
    (!isJoiner c || endsInVirama before || (c = '\u200c' && wouldJoin before rest))
      && joinersFit (c :: before) rest

/-! ### Directions -/

/-- The last character that is no mark has one of the directions. -/
def endsIn (allowed ds : List Direction) : Bool :=
  (ds.reverse.dropWhile (· = .mark)).head?.any allowed.contains

/-- The part runs in one direction. -/
def runsOneWay (ds : List Direction) : Bool :=
  match ds with
  | [] => true
  | .left :: _ =>
    ds.all [.left, .europeanDigit, .neutral, .mark].contains
      && endsIn [.left, .europeanDigit] ds
  | .right :: _ =>
    ds.all [.right, .arabicDigit, .europeanDigit, .neutral, .mark].contains
      && endsIn [.right, .europeanDigit, .arabicDigit] ds
      && !(ds.contains .europeanDigit && ds.contains .arabicDigit)
  | _ => false

/-- A character runs from right to left. -/
def runsLeft (c : Char) : Bool :=
  match Direction.ofChar c with
  | .right | .arabicDigit => true
  | _ => false

/-- The part can stand in a name, apart from its direction. -/
def isLabel (label : List Char) : Bool :=
  !label.head?.any (fun c => marks.has c.toNat) && joinersFit [] label

end DraftSchema.Url.Idna
