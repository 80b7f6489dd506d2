import DraftSchema.Calendar
import DraftSchema.Digits
import DraftSchema.Scanner
import DraftSchema.Unicode.Property

/-!
# `DraftSchema.Calendar.Text`: reading dates and times

There are two ways to write a number. A loose number may have blanks in front
and fewer digits than its field is wide; a strict one has exactly as many.
`isDate` and `isTime` read loose numbers. `isDateTime` reads strict ones with
seconds, or loose ones without.
-/

set_option autoImplicit false

namespace DraftSchema.Calendar

/-- Takes up to `most` digits. -/
def digitsUpTo : (most : Nat) → Scanner (List Digit)
  | 0 => pure []
  | n + 1 => do
    match (← Scanner.peek).bind Digit.ofChar? with
    | none => return []
    | some d =>
      Scanner.skip 1
      return d :: (← digitsUpTo n)

/-- Takes a number of `least` to `most` digits. -/
def number (least most : Nat) : Scanner Nat := do
  let ds ← digitsUpTo most
  Scanner.guard (least ≤ ds.length)
  return Digit.value ds

/-- Takes all digits that come next, at least one, and their number. -/
def longNumber : Scanner Nat := fun cs =>
  number 1 cs.length cs

/-- Takes one given character. -/
def mark (c : Char) : Scanner Unit := do
  Scanner.guard ((← Scanner.next) = c)

/-- Skips blanks. -/
def spaces : Scanner Unit := do
  let _ ← Scanner.takeWhile Unicode.Property.isSpace

/-- Takes a loose number of at most two digits. -/
def looseField : Scanner Nat := do
  spaces
  number 1 2

/-- Takes a loose year: four digits at most, or any number behind a sign. -/
def looseYear : Scanner Int := do
  spaces
  match ← Scanner.peek with
  | some '-' => Scanner.skip 1; return -(← longNumber : Nat)
  | some '+' => Scanner.skip 1; return (← longNumber : Nat)
  | _ => return (← number 1 4 : Nat)

/-- Takes a loose date. -/
def looseDate : Scanner Date := do
  let year ← looseYear
  mark '-'
  let month ← looseField
  mark '-'
  let day ← looseField
  return ⟨year, month, day⟩

/-- Takes digits behind a point. -/
def fraction : Scanner Unit := do
  mark '.'
  let _ ← longNumber

/-- Takes digits behind a point if a point comes next. -/
def optionalFraction : Scanner Unit := do
  if (← Scanner.peek) = some '.' then fraction

/-- Takes loose hours and minutes. -/
def looseTime : Scanner Time := do
  let hour ← looseField
  mark ':'
  let minute ← looseField
  return ⟨hour, minute, 0⟩

/-- Takes loose hours, minutes and seconds, with a fraction if there is one. -/
def looseTimeWithSeconds : Scanner Time := do
  let t ← looseTime
  mark ':'
  let second ← looseField
  optionalFraction
  return { t with second := second }

/-- Takes the sign of an offset: true for minus, which may also be written as
the mathematical minus sign. -/
def offsetSign : Scanner Bool := do
  match ← Scanner.next with
  | '+' => return false
  | '-' | '\u2212' => return true
  | _ => Scanner.fail

/-- Takes an offset of two-digit hours and minutes with `between` in between, in
seconds. -/
def offset (between : Scanner Unit) : Scanner Int := do
  let negative ← offsetSign
  let hours ← number 2 2
  between
  let minutes ← number 2 2
  -- Hours are checked with the whole moment.
  Scanner.guard (minutes < 60)
  let seconds : Int := hours * 3600 + minutes * 60
  return if negative then -seconds else seconds

/-- Takes the letter Z or an offset with a colon. -/
def strictOffset : Scanner Int := do
  match ← Scanner.peek with
  | some 'Z' | some 'z' => Scanner.skip 1; return 0
  | _ => offset (mark ':')

/-- Takes an offset with blanks in front and any colons and blanks inside. -/
def looseOffset : Scanner Int := do
  spaces
  offset do
    let _ ← Scanner.takeWhile fun c => c = ':' || Unicode.Property.isSpace c

/-- A date, a time and an offset. -/
structure DateTime where
  date : Date
  time : Time
  offset : Int

/-- The parts name a moment of the calendar. -/
def DateTime.isValid (m : DateTime) : Bool :=
  m.date.isValid && m.time.isValid && -secondsPerDay < m.offset && m.offset < secondsPerDay
    && isWithinCalendar m.date m.time m.offset

/-- Takes a date and a time with seconds, all fields at full width. -/
def strictDateTime : Scanner DateTime := do
  let year ← number 4 4
  mark '-'
  let month ← number 2 2
  mark '-'
  let day ← number 2 2
  let c ← Scanner.next
  Scanner.guard (c = 'T' || c = 't' || c = ' ')
  let hour ← number 2 2
  mark ':'
  let minute ← number 2 2
  mark ':'
  let second ← number 2 2
  optionalFraction
  let offset ← strictOffset
  return ⟨⟨year, month, day⟩, ⟨hour, minute, second⟩, offset⟩

/-- Takes a date and a time without seconds. -/
def looseDateTime : Scanner DateTime := do
  let date ← looseDate
  mark 'T'
  let time ← looseTime
  let offset ← looseOffset
  return ⟨date, time, offset⟩

/-- The text with a last `Z` written as an offset. -/
def withOffset (cs : List Char) : List Char :=
  if cs.getLast? = some 'Z' then cs.dropLast ++ ['+', '0', '0', ':', '0', '0'] else cs

/-- The text names a date. -/
def isDate (text : String) : Bool :=
  (Scanner.run? looseDate text.toList).any Date.isValid

/-- The text names a time of day. -/
def isTime (text : String) : Bool :=
  (Scanner.run? looseTime text.toList).any Time.isValid
    || (Scanner.run? looseTimeWithSeconds text.toList).any Time.isValid

/-- The text names a moment. -/
def isDateTime (text : String) : Bool :=
  (Scanner.run? strictDateTime text.toList).any DateTime.isValid
    || (Scanner.run? looseDateTime (withOffset text.toList)).any DateTime.isValid

end DraftSchema.Calendar
