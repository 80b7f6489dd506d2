import DraftSchema.Decimal.Text
import DraftSchema.Format
import DraftSchema.Json.Equality
import DraftSchema.Violation

/-!
# `DraftSchema.SimpleSchema`: a simple type with conditions

A simple schema asks for one simple type and may put conditions on the values of
that type. `SimpleSchema.ofKeywords?` builds one from the keywords that are
given and refuses a keyword that its type cannot carry, whatever the keyword's
value. A value of another type violates nothing but the type.
-/

set_option autoImplicit false

namespace DraftSchema

/-- A simple type with conditions. A bound of zero on the length is no bound. -/
structure SimpleSchema where
  type : SimpleType
  pattern : Option Pattern
  format : Option String
  minLength : Nat
  maxLength : Nat
  minimum : Option Decimal
  maximum : Option Decimal
  exclusiveMinimum : Bool
  exclusiveMaximum : Bool
  enumeration : Option (List Json)

namespace SimpleSchema

/-- A simple type without conditions. -/
def ofType (type : SimpleType) : SimpleSchema :=
  ⟨type, none, none, 0, 0, none, none, false, false, none⟩

/-! ### Building -/

/-- The keywords that are given. -/
structure Keywords where
  pattern : Option Pattern := none
  format : Option String := none
  minLength : Option Nat := none
  maxLength : Option Nat := none
  minimum : Option Decimal := none
  maximum : Option Decimal := none
  exclusiveMinimum : Option Bool := none
  exclusiveMaximum : Option Bool := none
  enumeration : Option (List Json) := none

/-- Why a type cannot carry a keyword. -/
inductive Conflict where
  | patternOnOtherType
  | formatOnOtherType (format : Format) (type : SimpleType)
  | lengthOnOtherType (keyword : String)
  | rangeOnOtherType (keyword : String)
  | enumerationNotAllowed
  | enumeratedOtherType (type : SimpleType) (value : Json)
  /-- The literal of a bound spells no decimal. -/
  | boundOutOfRange (keyword : String) (literal : Json.Number)

/-- The text of a conflict. -/
def Conflict.message : Conflict → String
  | .patternOnOtherType => "Regex patterns are only legal for type string"
  | .formatOnOtherType format type =>
    s!"Format {format.name} is not valid for type {type.name}"
  | .lengthOnOtherType keyword => s!"{keyword} can only be used for type: string"
  | .rangeOnOtherType keyword => s!"{keyword} can only be used for integer or number types"
  | .enumerationNotAllowed => "enumeration not allowed for null or any types"
  | .enumeratedOtherType type value =>
    s!"values in enum must be of type {type.name}, found {value.compact}"
  | .boundOutOfRange keyword literal =>
    s!"{keyword} is not a valid decimal number: {literal.text}"

/-- The first keyword in a list that is given. -/
def firstGiven (keywords : List (String × Bool)) : Option String :=
  (keywords.find? (·.2)).map (·.1)

namespace Keywords

/-- A pattern is for strings. -/
def patternConflict? (k : Keywords) (type : SimpleType) : Option Conflict :=
  if k.pattern.isSome && type ≠ .string then some .patternOnOtherType else none

/-- A format is for the types that it suits; an unknown one is for all. -/
def formatConflict? (k : Keywords) (type : SimpleType) : Option Conflict :=
  match k.format.bind Format.ofName? with
  | some f => if f.suits type then none else some (.formatOnOtherType f type)
  | none => none

/-- Lengths are for strings. -/
def lengthConflict? (k : Keywords) (type : SimpleType) : Option Conflict :=
  if type = .string then none
  else
    (firstGiven [("minLength", k.minLength.isSome), ("maxLength", k.maxLength.isSome)]).map
      .lengthOnOtherType

/-- Bounds are for numbers. -/
def rangeConflict? (k : Keywords) (type : SimpleType) : Option Conflict :=
  if type.isNumeric then none
  else
    (firstGiven
      [("minimum", k.minimum.isSome), ("maximum", k.maximum.isSome),
        ("exclusiveMinimum", k.exclusiveMinimum.isSome),
        ("exclusiveMaximum", k.exclusiveMaximum.isSome)]).map .rangeOnOtherType

/-- An enumeration lists values of a type that has more than one value and is
not every type. -/
def enumerationConflict? (k : Keywords) (type : SimpleType) : Option Conflict :=
  match k.enumeration with
  | none => none
  | some values =>
    if type = .null || type = .any then some .enumerationNotAllowed
    else (values.find? (!type.accepts ·)).map (.enumeratedOtherType type)

/-- The first conflict of the keywords with a type. -/
def conflict? (k : Keywords) (type : SimpleType) : Option Conflict :=
  k.patternConflict? type
    <|> k.formatConflict? type
    <|> k.lengthConflict? type
    <|> k.rangeConflict? type
    <|> k.enumerationConflict? type

end Keywords

/-- The schema of a type with the keywords that are given. -/
def ofKeywords? (type : SimpleType) (k : Keywords) : Except Conflict SimpleSchema :=
  match k.conflict? type with
  | some c => .error c
  | none => .ok
    { type
      pattern := k.pattern
      format := k.format
      minLength := k.minLength.getD 0
      maxLength := k.maxLength.getD 0
      minimum := k.minimum
      maximum := k.maximum
      exclusiveMinimum := k.exclusiveMinimum.getD false
      exclusiveMaximum := k.exclusiveMaximum.getD false
      enumeration := k.enumeration }

/-! #### Keywords one after the other -/

/-- A keyword with a value that it is given. -/
inductive Setting where
  | pattern (p : Pattern)
  | format (name : String)
  | minLength (bound : Nat)
  | maxLength (bound : Nat)
  | minimum (bound : Decimal)
  | maximum (bound : Decimal)
  | exclusiveMinimum (exclusive : Bool)
  | exclusiveMaximum (exclusive : Bool)
  | enumeration (values : List Json)

namespace Keywords

/-- The keywords after one more is given. The value that it had before is gone. -/
def give (k : Keywords) : Setting → Keywords
  | .pattern p => { k with pattern := some p }
  | .format name => { k with format := some name }
  | .minLength bound => { k with minLength := some bound }
  | .maxLength bound => { k with maxLength := some bound }
  | .minimum bound => { k with minimum := some bound }
  | .maximum bound => { k with maximum := some bound }
  | .exclusiveMinimum exclusive => { k with exclusiveMinimum := some exclusive }
  | .exclusiveMaximum exclusive => { k with exclusiveMaximum := some exclusive }
  | .enumeration values => { k with enumeration := some values }

/-- The keywords that are given one after the other. -/
def ofSettings (settings : List Setting) : Keywords := settings.foldl give {}

end Keywords

/-- The schema of a type with keywords that are given one after the other. -/
def build? (type : SimpleType) (settings : List Setting) : Except Conflict SimpleSchema :=
  ofKeywords? type (.ofSettings settings)

/-! ### Violations -/

/-- A condition that a value of the right type does not meet. -/
inductive Fault where
  | pattern (text source : String)
  | format (value : Json) (name : String)
  | minimum (literal : Json.Number) (bound : Decimal) (exclusive : Bool)
  | maximum (literal : Json.Number) (bound : Decimal) (exclusive : Bool)
  | minLength (text : String) (bound : Nat)
  | maxLength (text : String) (bound : Nat)
  | enumeration (value : Json) (allowed : List Json)

/-- The text of a fault. -/
def Fault.message : Fault → String
  | .pattern text source => s!"String value '{text}' does not match regex '{source}'"
  | .format value name => s!"Value '{value.display}' is not a valid {name}"
  | .minimum literal bound true =>
    s!"Value '{literal.text}' must be greater than {bound.text} when exclusiveMinimum is true"
  | .minimum literal bound false =>
    s!"Value '{literal.text}' must be greater or equal to {bound.text}"
  | .maximum literal bound true =>
    s!"Value '{literal.text}' must be less than {bound.text} when exclusiveMaximum is true"
  | .maximum literal bound false =>
    s!"Value '{literal.text}' must be less than or equal to {bound.text}"
  | .minLength text bound => s!"Value '{text}' must be greater or equal to {bound} characters"
  | .maxLength text bound => s!"Value '{text}' must be less or equal to {bound} characters"
  | .enumeration value allowed =>
    let listed := String.intercalate ", " (allowed.map Json.compact)
    s!"Value {value.compact} must be one of: [{listed}]"

/-- The pattern is for strings. -/
def patternFault? (s : SimpleSchema) : Json → Option Fault
  | .string text =>
    match s.pattern with
    | some p => if p.isFullMatch text then none else some (.pattern text p.source)
    | none => none
  | _ => none

/-- A name that stands for no format puts no condition on the value. -/
def formatFault? (s : SimpleSchema) (value : Json) : Option Fault :=
  match s.format.bind Format.ofName? with
  | some f => if f.holds value then none else some (.format value f.name)
  | none => none

/-- The number is not below the minimum, and not at it if that is excluded. -/
def minimumFault? (s : SimpleSchema) (literal : Json.Number) (d : Decimal) : Option Fault :=
  match s.minimum with
  | none => none
  | some bound =>
    -- Where the bound is excluded, a number below it is reported as if it were at it.
    if s.exclusiveMinimum && d.le bound then some (.minimum literal bound true)
    else if d.lt bound then some (.minimum literal bound false)
    else none

/-- The number is not above the maximum, and not at it if that is excluded. -/
def maximumFault? (s : SimpleSchema) (literal : Json.Number) (d : Decimal) : Option Fault :=
  match s.maximum with
  | none => none
  | some bound =>
    if s.exclusiveMaximum && bound.le d then some (.maximum literal bound true)
    else if bound.lt d then some (.maximum literal bound false)
    else none

/-- The faults of a number; a literal that spells no decimal has none. -/
def rangeFaults (s : SimpleSchema) : Json → List Fault
  | .number literal =>
    match Decimal.ofNumber? literal with
    | some d => (s.minimumFault? literal d).toList ++ (s.maximumFault? literal d).toList
    | none => []
  | _ => []

/-- The faults of a string's length, in characters. -/
def lengthFaults (s : SimpleSchema) : Json → List Fault
  | .string text =>
    (if 0 < s.minLength ∧ text.length < s.minLength then [.minLength text s.minLength] else [])
      ++ (if 0 < s.maxLength ∧ s.maxLength < text.length then [.maxLength text s.maxLength] else [])
  | _ => []

/-- The value is one of those that are listed. -/
def enumerationFault? (s : SimpleSchema) (value : Json) : Option Fault :=
  match s.enumeration with
  | none => none
  | some allowed =>
    if allowed.any (·.sameValue value) then none else some (.enumeration value allowed)

/-- The conditions that a value of the right type does not meet. -/
def faults (s : SimpleSchema) (value : Json) : List Fault :=
  (s.patternFault? value).toList
    ++ (s.formatFault? value).toList
    ++ s.rangeFaults value
    ++ s.lengthFaults value
    ++ (s.enumerationFault? value).toList

/-- What a value violates. -/
def violations (s : SimpleSchema) (value : Json) : List Violation :=
  if s.type.accepts value then (s.faults value).map fun f => .atRoot f.message
  else [.atRoot s!"Invalid type: must be of type {s.type.name}"]

end SimpleSchema
end DraftSchema
