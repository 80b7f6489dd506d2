import DraftSchema.Compilation
import DraftSchema.Validation

/-!
# `DraftSchema.Session`: compiling and validating with one registry

A session has a registry that grows and a log of the locations that the source
was asked for. Schemas are compiled when they are needed: by `Session.get?`, and
by a reference that is met while a document is checked.
-/

set_option autoImplicit false

namespace DraftSchema

/-- The state of a session. -/
structure Session where
  registry : Registry
  /-- The locations that the source was asked for, in order. -/
  fetched : List Url

/-- A compiled schema that documents are checked against. -/
structure Validator where
  /-- The location as it was asked for. -/
  location : Url
  schema : Node

namespace Session

/-- A session that has just begun. -/
def start : Session := ⟨∅, []⟩

/-- Takes over what a compilation did. -/
def record (c : Compilation) : StateM Session (Except SchemaError Node) := do
  modify fun s => ⟨c.registry, s.fetched ++ c.fetched⟩
  return c.result

/-- The node at a location, compiled if there is none yet. -/
def get? (source : Source) (location : Url) : StateM Session (Except SchemaError Node) := do
  record (Compilation.get source (← get).registry location)

/-- Compiles a location. -/
def compile (source : Source) (location : Url) : StateM Session (Except SchemaError Node) := do
  record (Compilation.compile source (← get).registry location)

/-- Registers a node, and tells whether the location had none. -/
def register (location : Url) (node : Node) : StateM Session Bool := do
  let s ← get
  set { s with registry := s.registry.register location node }
  return !s.registry.has location

/-- Resolves references in the session that started with `registry`. -/
def resolver (source : Source) (registry : Registry) : Resolver (StateM Session) where
  resolve location := do
    match ← get? source location with
    | .ok node => return .ok node
    | .error e => return .error (.failed e)
  -- No schema is followed twice without a loop, and these are all schemas there can be.
  limit := registry.size + source.size + 1

/-- What a document violates. -/
def validate (source : Source) (node : Node) (document : Json) :
    StateM Session (List Violation) := do
  let r := resolver source (← get).registry
  r.validate r.limit node document

/-- The document is of a type that the node accepts. -/
def accepts (source : Source) (node : Node) (document : Json) : StateM Session Bool := do
  let r := resolver source (← get).registry
  r.accepts r.limit node document

/-- The name of the types that a node accepts. -/
def describe (source : Source) (node : Node) : StateM Session String := do
  let r := resolver source (← get).registry
  r.describe r.limit node

/-- The validator for the schema at a location. -/
def validator? (source : Source) (location : Url) :
    StateM Session (Except SchemaError Validator) := do
  match ← get? source location with
  | .error e => return .error e
  | .ok node => return .ok ⟨location, node⟩

/-- The schema at a location with what some documents violate in it. -/
def validateAll (source : Source) (location : Url) (documents : List Json) :
    StateM Session (Except SchemaError (Node × List (List Violation))) := do
  match ← get? source location with
  | .error e => return .error e
  | .ok node => return .ok (node, ← documents.mapM (validate source node))

end Session

/-- Resolves references after the registry is gone. -/
def Resolver.gone : Resolver Id where
  resolve _ := .error .registryGone
  limit := 1

end DraftSchema
