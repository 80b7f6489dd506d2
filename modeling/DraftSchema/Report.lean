import DraftSchema.Violation

/-!
# `DraftSchema.Report`: what is said about documents

A report says of one document that it is valid, what it violates, or why it could
not be read. Reports are written for people, in blocks of lines, or as JSON, one
report a line. A summary counts them.
-/

set_option autoImplicit false

namespace DraftSchema

/-- What was found out about one document. -/
structure Report where
  document : String
  valid : Bool
  violations : List Violation
  /-- Why the document could not be read. -/
  readError : Option String
deriving DecidableEq, Repr

namespace Report

/-- The report on a document that was checked. -/
def ofViolations (document : String) (violations : List Violation) : Report :=
  ⟨document, violations.isEmpty, violations, none⟩

/-- The report on a document that could not be read. -/
def unreadable (document reason : String) : Report := ⟨document, false, [], some reason⟩

/-! ### JSON -/

/-- The report as a value; a document that could be read has no read error. -/
def toJson (r : Report) : Json :=
  let readError := match r.readError with
    | none => []
    | some reason => [("read_error", .string reason)]
  .object <|
    [("document", .string r.document),
      ("valid", .bool r.valid),
      ("errors", .array (r.violations.map Violation.toJson))] ++ readError

/-- The report that a written record is. -/
def ofWritten? (w : Json.Written) : Option Report := do
  let r ← Json.Record.ofWritten? ["document", "valid", "errors", "read_error"] w
  let document ← r.required? "document" Json.Written.string?
  let valid ← r.required? "valid" Json.Written.bool?
  let violations ← r.required? "errors" (Json.Written.list? Violation.ofWritten?)
  let readError ← r.optional? "read_error" none (Json.Written.nullable? Json.Written.string?)
  return ⟨document, valid, violations, readError⟩

/-- The report that a text spells. -/
def parse? (text : String) : Option Report := do ofWritten? (← Json.Written.parse? text)

/-! ### Lines for people -/

/-- A violation in a line of a report; the document itself has a name. -/
def violationLine (v : Violation) : String :=
  if v.location = "" then "(root): " ++ v.message else v.text

/-- The report for people. -/
def text (r : Report) : String :=
  match r.readError with
  | some reason => s!"ERROR    {r.document} - {reason}"
  | none =>
    if r.valid then s!"VALID    {r.document}"
    else
      let count := r.violations.length
      let plural := if count = 1 then "" else "s"
      let lines := r.violations.map fun v => "\n    " ++ violationLine v
      s!"INVALID  {r.document} - {count} error{plural}" ++ String.join lines

end Report

/-! ### Summaries -/

/-- How many documents were reported on, by outcome. -/
structure Summary where
  total : Nat
  valid : Nat
  invalid : Nat
  unreadable : Nat
deriving DecidableEq, Repr

namespace Summary

/-- The counts of some reports. -/
def ofReports (reports : List Report) : Summary where
  total := reports.length
  valid := reports.countP fun r => r.readError.isNone && r.valid
  invalid := reports.countP fun r => r.readError.isNone && !r.valid
  unreadable := reports.countP fun r => r.readError.isSome

/-- Every document was read and found valid. -/
def allValid (s : Summary) : Bool := s.valid = s.total

/-- The counts as a value. -/
def toJson (s : Summary) : Json :=
  .object
    [("total_documents", .number (.ofNat s.total)),
      ("valid_documents", .number (.ofNat s.valid)),
      ("invalid_documents", .number (.ofNat s.invalid)),
      ("unreadable_documents", .number (.ofNat s.unreadable))]

/-- The counts for people; outcomes that may be missing are left out if they
are. -/
def text (s : Summary) : String :=
  s!"Validation Summary:\n  Total documents: {s.total}\n  Valid: {s.valid}\n"
    ++ (if 0 < s.invalid then s!"  Invalid: {s.invalid}\n" else "")
    ++ (if 0 < s.unreadable then s!"  Unreadable: {s.unreadable}\n" else "")

end Summary

/-! ### Output -/

/-- How reports are written. -/
inductive OutputFormat where
  | human
  | json
deriving DecidableEq, Repr

/-- The name of a way to write reports. -/
def OutputFormat.name : OutputFormat → String
  | .human => "human"
  | .json => "json"

/-- The way to write reports that has a name. -/
def OutputFormat.ofName? : String → Option OutputFormat
  | "human" => some .human
  | "json" => some .json
  | _ => none

/-- How much is written for people. -/
inductive Verbosity where
  /-- Only documents that are not valid. -/
  | quiet
  | normal
  /-- All documents, and a summary. -/
  | verbose
deriving DecidableEq, Repr

/-- Quiet comes before verbose. -/
def Verbosity.ofFlags (verbose quiet : Bool) : Verbosity :=
  if quiet then .quiet else if verbose then .verbose else .normal

namespace Report

/-- The reports as JSON, one a line. -/
def jsonLines (reports : List Report) : String :=
  String.join (reports.map fun r => r.toJson.compact ++ "\n")

/-- The reports for people. -/
def humanText (verbosity : Verbosity) (reports : List Report) : String :=
  -- Quiet output leaves out valid documents and nothing else.
  let shown := reports.filter fun r => !(r.valid && verbosity = .quiet)
  String.join (shown.map fun r => r.text ++ "\n")
    ++ (if verbosity = .verbose then (Summary.ofReports reports).text else "")

/-- The reports in the form that is asked for. -/
def render (format : OutputFormat) (verbosity : Verbosity) (reports : List Report) : String :=
  match format with
  | .human => humanText verbosity reports
  | .json => jsonLines reports

end Report
end DraftSchema
