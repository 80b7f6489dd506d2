import DraftSchema.Regex.Elaborate
import DraftSchema.Regex.Parser
import DraftSchema.Regex.Size

/-!
# `DraftSchema.Pattern`: patterns that must match a whole string

A pattern is a regular expression that is matched against a whole string: its
source is put into a group between `^` and `$`. The source must be an expression
both on its own and in that place.
-/

set_option autoImplicit false

namespace DraftSchema

/-- Reads a regular expression whose automaton is small enough. -/
def Regex.parse? (source : String) : Option Regex := do
  let e ← Regex.Expr.parse? source
  let (r, _) ← e.elaborate? .initial
  if r.fits then some r else none

/-- A pattern with its source. -/
structure Pattern where
  source : String
  /-- The expression between the two ends of the text. -/
  anchored : Regex

namespace Pattern

/-- The source between the two ends of the text. -/
def anchoredSource (source : String) : String := "^(?:" ++ source ++ ")$"

/-- The pattern with a source. -/
def ofSource? (source : String) : Option Pattern := do
  let _ ← Regex.parse? source
  let r ← Regex.parse? (anchoredSource source)
  return ⟨source, r⟩

/-- The pattern matches the whole text. -/
def isFullMatch (p : Pattern) (text : String) : Bool := p.anchored.isMatch text

end Pattern
end DraftSchema
