import DraftSchema.SimpleSchema
import DraftSchema.Url

/-!
# `DraftSchema.Node`: compiled schemas

A node is a schema in the form that documents are checked against. A reference
holds the location of another schema and nothing of what is found there, so that
schemas may refer to each other and to themselves.
-/

set_option autoImplicit false

namespace DraftSchema

/-- A declared property of an object. -/
structure Property (α : Type) where
  name : String
  required : Bool
  schema : α

/-- What holds for the members of an object that are not declared. -/
inductive Additional (α : Type) where
  | allowed
  | forbidden
  | schema (schema : α)

/-- A compiled schema. -/
inductive Node where
  | simple (schema : SimpleSchema)
  | object (properties : List (Property Node)) (additional : Additional Node)
  /-- All elements have one schema. A bound of zero on their number is none. -/
  | array (items : Node) (minItems maxItems : Nat)
  /-- A value need only have one of these schemas. -/
  | union (members : List Node)
  | reference (location : Url)

namespace Node

/-- The schema of every value. -/
def any : Node := .simple (.ofType .any)

instance : Inhabited Node := ⟨any⟩

/-- An object of which nothing is asked. -/
def anyObject : Node := .object [] .allowed

/-- An array of which nothing is asked. -/
def anyArray : Node := .array any 0 0

mutual

/-- The locations that decide, together with the node, which types of values it
accepts: those that the node or a member of a union refers to. -/
def gates : Node → List Url
  | .reference location => [location]
  | .union members => memberGates members
  | _ => []

/-- The locations that decide which types of values some nodes accept. -/
def memberGates : List Node → List Url
  | [] => []
  | n :: rest => n.gates ++ memberGates rest

end

end Node
end DraftSchema
