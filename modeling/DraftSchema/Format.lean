import DraftSchema.Calendar.Text
import DraftSchema.Pattern
import DraftSchema.SimpleType
import DraftSchema.Url.Parser

/-!
# `DraftSchema.Format`: named formats of values

A format is a condition on the content of a value. All but one are about strings
and hold of no other value; a time in milliseconds is any number. A name that
stands for no format puts no condition on anything.
-/

set_option autoImplicit false

namespace DraftSchema

/-- A named format. -/
inductive Format where
  | dateTime
  | date
  | time
  | regex
  | uri
  | utcMillisec
deriving DecidableEq, Repr

namespace Format

/-- The name of a format. -/
def name : Format → String
  | .dateTime => "date-time"
  | .date => "date"
  | .time => "time"
  | .regex => "regex"
  | .uri => "uri"
  | .utcMillisec => "utc-millisec"

/-- All formats. -/
def all : List Format := [.dateTime, .date, .time, .regex, .uri, .utcMillisec]

/-- The format with a name. -/
def ofName? (s : String) : Option Format := all.find? fun f => f.name = s

/-- The format may be asked of values of a type. -/
def suits : Format → SimpleType → Bool
  | .utcMillisec, t => t.isNumeric
  | _, t => t = .string

/-! ### Locations -/

/-- The characters that stand nowhere in a location, absolute or relative: the
controls and ten marks. -/
def isIllegalInUri (c : Char) : Bool :=
  c.toNat < 0x20 || (0x7F ≤ c.toNat && c.toNat ≤ 0x9F)
    || [' ', '"', '<', '>', '\\', '^', '\x60', '\x7b', '|', '\x7d'].contains c

/-- A relative location has a colon only behind the end of its first segment. -/
def isRelativeUri (cs : List Char) : Bool :=
  match cs.dropWhile fun c => !(c = ':' || c = '/' || c = '?' || c = '#') with
  | ':' :: _ => false
  | _ => true

/-- The text is a location, absolute or relative. -/
def isUri (text : String) : Bool :=
  let cs := text.toList
  !cs.any isIllegalInUri && ((Url.parse text).toBool || isRelativeUri cs)

/-! ### Values -/

/-- The text is of the format. -/
def holdsOfText : Format → String → Bool
  | .dateTime, s => Calendar.isDateTime s
  | .date, s => Calendar.isDate s
  | .time, s => Calendar.isTime s
  | .regex, s => (Regex.parse? s).isSome
  | .uri, s => isUri s
  | .utcMillisec, _ => true

/-- The value is of the format. -/
def holds : Format → Json → Bool
  | .utcMillisec, _ => true
  | f, .string s => f.holdsOfText s
  | _, _ => false

theorem mem_all (f : Format) : f ∈ all := by cases f <;> decide

end Format
end DraftSchema
