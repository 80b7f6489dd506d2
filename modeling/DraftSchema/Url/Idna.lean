import DraftSchema.Unicode.Normal
import DraftSchema.Url.Address
import DraftSchema.Url.Idna.Label
import DraftSchema.Url.Punycode

/-!
# `DraftSchema.Url.Idna`: names of domains

`toAscii?` gives a name its form in lower case and ASCII. Characters are replaced
by those that stand for them, and the result is put in normal form. Each part of
the name with characters beyond ASCII is then written in punycode behind `xn--`.
A part that is given in this form must spell one that would be written so.
-/

set_option autoImplicit false

namespace DraftSchema.Url.Idna

/-- The characters of ASCII that a name cannot hold. -/
def isForbidden (c : Char) : Bool :=
  c.toNat ≤ 0x20 || c.toNat = 0x7F
    || ['%', '#', '/', ':', '<', '>', '?', '@', '[', '\\', ']', '^', '|'].contains c

/-- A name with its characters replaced, in normal form. -/
def normalized? (name : List Char) : Option (List Char) :=
  (name.mapM mapped?).map fun chars => Unicode.Normal.composed chars.flatten

/-- What stands in front of a part in punycode. -/
def mark : List Char := "xn--".toList

/-- The greatest number of characters of a part that is written in punycode. -/
def longestWritten : Nat := 1000

/-- The greatest number of characters of punycode that are read. -/
def longestRead : Nat := 2000

/-- The part that punycode spells. It has a character beyond ASCII, and nothing in
it is replaced. -/
def decoded? (code : List Char) : Option (List Char) := do
  if longestRead < code.length then none
  let label ← Punycode.decode? code
  if label.all Punycode.isBasic || label.contains '.' then none
  else if normalized? label = some label then some label
  else none

/-- The characters that a part spells. -/
def spelled? (label : List Char) : Option (List Char) :=
  if label.take mark.length = mark then decoded? (label.drop mark.length) else some label

/-- The form in ASCII of the characters of a part. -/
def written? (label : List Char) : Option (List Char) :=
  if label.all Punycode.isBasic then some label
  else if longestWritten < label.length then none
  else some (mark ++ Punycode.encode label)

/-- The parts of a name, each as its characters, if they can make a name. -/
def labels? (name : List Char) : Option (List (List Char)) := do
  let labels ← (splitOn '.' (← normalized? name)).mapM spelled?
  -- One part that runs from right to left puts a condition on all parts.
  let runsBothWays := labels.any fun label => label.any runsLeft
  if labels.all fun label => isLabel label && !label.any isForbidden
      && (!runsBothWays || runsOneWay (label.map Unicode.Direction.ofChar)) then
    some labels
  else none

/-- The form of a name that is made of ASCII. -/
def toAscii? (name : List Char) : Option (List Char) := do
  let labels ← (← labels? name).mapM written?
  return List.intercalate ['.'] labels

end DraftSchema.Url.Idna
