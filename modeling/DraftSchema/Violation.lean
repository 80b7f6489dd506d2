import DraftSchema.Json.Printer
import DraftSchema.Json.Record

/-!
# `DraftSchema.Violation`: what is wrong with a document, and where

A violation is a message with the place that it is about. A place is a path of
names and indices such as `foo.bar[2]`; the empty path is the document itself.
`Violation.within` moves a violation of a part to the whole.
-/

set_option autoImplicit false

namespace DraftSchema

/-- A message about a place in a document. -/
structure Violation where
  location : String
  message : String
deriving DecidableEq, Repr

namespace Violation

/-- A message about the whole document. -/
def atRoot (message : String) : Violation := ⟨"", message⟩

/-- What parts the path of a part from the path of the whole: an index attaches
by itself, and so does the part as a whole. -/
def separator (location : String) : String :=
  match location.toList with
  | [] => ""
  | c :: _ => if c = '[' then "" else "."

/-- A violation of the part at `path`, seen from the whole. -/
def within (path : String) (v : Violation) : Violation :=
  ⟨path ++ separator v.location ++ v.location, v.message⟩

/-- The violation in a line of text. -/
def text (v : Violation) : String := v.location ++ ": " ++ v.message

/-- The violation as a value. -/
def toJson (v : Violation) : Json :=
  .object [("location", .string v.location), ("message", .string v.message)]

/-- The violation that a written record is. -/
def ofWritten? (w : Json.Written) : Option Violation := do
  let r ← Json.Record.ofWritten? ["location", "message"] w
  let location ← r.required? "location" Json.Written.string?
  let message ← r.required? "message" Json.Written.string?
  return ⟨location, message⟩

@[simp] theorem message_within (path : String) (v : Violation) :
    (v.within path).message = v.message := rfl

end Violation
end DraftSchema
