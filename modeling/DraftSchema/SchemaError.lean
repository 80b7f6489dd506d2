import DraftSchema.Reference
import DraftSchema.SimpleSchema

/-!
# `DraftSchema.SchemaError`: why a schema cannot be compiled

A schema fails because its text cannot be fetched, because the text is no schema,
or because it refers back to itself without asking for anything. Every error
names the location that it is about.

Readers only tell whether they can read a text. So two messages end where the
words of a reader would follow: that a text is not JSON (`SchemaError.message`)
and that a pattern is not an expression (`Defect.message`).
-/

set_option autoImplicit false

namespace DraftSchema

/-- Why the text at a location cannot be had. -/
inductive FetchError where
  | failed (reason : String)
  | notFound
  /-- A server could not be asked, or its answer could not be read. -/
  | transport (reason : String)
  /-- A server answered with a status that is no success. -/
  | status (code : Nat) (message : String)
  | unsupportedScheme (scheme : String)
deriving DecidableEq, Repr

/-- Why a value is no schema. -/
inductive Defect where
  | notAnObject
  | unknownType (name : String)
  | reference (text : String) (fault : Reference.Fault)
  | keyword (name expected : String)
  | pattern (source : String)
  | conflict (conflict : SimpleSchema.Conflict)

/-- Why a schema cannot be compiled. -/
inductive SchemaError.Cause where
  | fetch (error : FetchError)
  /-- The text is not JSON. -/
  | invalidText
  | defect (defect : Defect)
  /-- The schema refers back to itself by way of the locations in the chain. -/
  | loop (chain : List String)
  /-- More documents were found than the source is said to have. A source that
  states its size rightly does not come to this. -/
  | tooManyDocuments

/-- An error about the schema at a location. -/
structure SchemaError where
  location : String
  cause : SchemaError.Cause

namespace FetchError

/-- The text of an error about the schema at a location. -/
def message (location : String) : FetchError → String
  | .failed reason => s!"Could not retrieve schema from {location}: {reason}"
  | .notFound => s!"Schema not found: {location}"
  | .transport reason => s!"HTTP error while fetching {location}: {reason}"
  | .status code message => s!"HTTP status error: {code} for {location} - {message}"
  | .unsupportedScheme scheme => s!"Unsupported schema location scheme '{scheme}': {location}"

end FetchError

namespace Defect

/-- The text of a defect of the schema at a location. What is wrong in a pattern
is left out: its text ends with the colon in front of that. -/
def message (location : String) : Defect → String
  | .notAnObject => s!"A valid json schema must be an object: {location}"
  | .unknownType name => s!"Illegal schema type {name} in {location}"
  | .reference text fault =>
    s!"The schema reference '{text}' in {location} is malformed: {fault.message}"
  | .keyword name expected => s!"Keyword '{name}' in {location} must be {expected}"
  | .pattern source => s!"Invalid regex pattern '{source}' in {location}: "
  | .conflict c => s!"Invalid schema definition in {location}: {c.message}"

end Defect

namespace SchemaError

/-- The text of an error. What is wrong in a text that is not JSON is left out:
the text ends with the colon in front of that. -/
def message (e : SchemaError) : String :=
  match e.cause with
  | .fetch error => error.message e.location
  | .invalidText => s!"The schema at location {e.location} contains invalid JSON: "
  | .defect defect => defect.message e.location
  | .loop chain =>
    let path := String.intercalate " -> " chain
    s!"Schema {e.location} refers back to itself without constraining anything: {path}"
  | .tooManyDocuments => s!"Too many documents are needed for schema {e.location}"

/-- The schema at a location was not found. -/
def notFound (location : String) : SchemaError := ⟨location, .fetch .notFound⟩

end SchemaError
end DraftSchema
