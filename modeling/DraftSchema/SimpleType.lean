import DraftSchema.Json

/-!
# `DraftSchema.SimpleType`: types without parts

Six names stand for the types of values that a schema does not look into. An
integer is a number whose literal has neither point nor exponent, so `1.0` is a
number and no integer.
-/

set_option autoImplicit false

namespace DraftSchema

/-- A type without parts. -/
inductive SimpleType where
  | string
  | number
  | integer
  | boolean
  | null
  | any
deriving DecidableEq, Repr

namespace SimpleType

/-- All types, in their usual order. -/
def all : List SimpleType := [.string, .number, .integer, .boolean, .null, .any]

/-- The name of a type. -/
def name : SimpleType → String
  | .string => "string"
  | .number => "number"
  | .integer => "integer"
  | .boolean => "boolean"
  | .null => "null"
  | .any => "any"

/-- The type with a name, written in any case of the letters of ASCII. -/
def ofName? (s : String) : Option SimpleType :=
  all.find? fun t => t.name.toList = s.toList.map Char.toLower

/-- The type is one of numbers. -/
def isNumeric (t : SimpleType) : Bool := t = .number || t = .integer

/-- The value is of the type. -/
def accepts : SimpleType → Json → Bool
  | .string, .string _ => true
  | .number, .number _ => true
  | .integer, .number n => n.isInteger
  | .boolean, .bool _ => true
  | .null, .null => true
  | .any, _ => true
  | _, _ => false

theorem mem_all (t : SimpleType) : t ∈ all := by cases t <;> decide

end SimpleType
end DraftSchema
