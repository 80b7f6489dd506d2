import DraftSchema.CommandLine
import DraftSchema.Lookup
import DraftSchema.Session

/-!
# `DraftSchema.Program`: the program from arguments to exit status

The program reads arguments and settings, finds and compiles a schema, and
reports on documents. Its status is 0 if all documents are valid, 1 if one is
not, and 2 if it does not come to documents at all.
-/

set_option autoImplicit false

namespace DraftSchema

/-! ### Documents in files -/

namespace Document

/-- The value in the file that a path leads to, or why there is none. What is
wrong in a text that is not JSON is left out: the reason ends with the colon in
front of that. -/
def read (files : Files) (path : String) : Except String Json :=
  match files.read (Files.pathOf path) with
  | .error e => .error s!"Could not read document {path}: {e.message}"
  | .ok text =>
    match Json.parse? text with
    | some v => .ok v
    | none => .error s!"Document {path} is not valid JSON: "

/-- The report on the file that a path leads to. -/
def report (files : Files) (node : Node) (path : String) : StateM Session Report := do
  match read files path with
  | .error reason => return .unreadable path reason
  | .ok document => return .ofViolations path (← Session.validate files.source node document)

/-- The reports on files, after the schema at a location is compiled. -/
def reports (files : Files) (location : Url) (paths : List String) :
    StateM Session (Except SchemaError (List Report)) := do
  match ← Session.get? files.source location with
  | .error e => return .error e
  | .ok node => return .ok (← paths.mapM (report files node))

end Document

/-! ### Failures -/

namespace Program

/-- Why the program does not come to documents. -/
inductive Failure where
  | commandLine (problem : CommandLine.Problem)
  | config (error : Config.Error)
  | lookup (name : String) (error : SchemaError)
  | compile (location : Url) (error : SchemaError)

/-- The text of what is behind an error of settings, if it has a text of its
own. What is wrong in a text is left out, as it is in the error's message. -/
def configCause : Config.Error → List String
  | .file message => [message]
  | _ => []

/-- The text of what is behind an error about a schema, if it has a text of its
own. What is wrong in a text is left out, as it is in the error's message. -/
def schemaCause (e : SchemaError) : List String :=
  match e.cause with
  | .fetch (.failed reason) | .fetch (.transport reason) => [reason]
  | .defect (.conflict c) => [c.message]
  | _ => []

/-- The texts of a failure, from the outermost to what is behind it. -/
def Failure.chain : Failure → List String
  | .commandLine p => [p.message]
  | .config e => "Failed to load configuration" :: e.message :: configCause e
  | .lookup name e => s!"Could not locate schema {name}" :: e.message :: schemaCause e
  | .compile location e => s!"Could not compile schema {location}" :: e.message :: schemaCause e

/-- The text of a failure. -/
def Failure.message (f : Failure) : String := "Error: " ++ String.intercalate ": " f.chain

/-! ### Runs -/

/-- What the program finds around it. -/
structure Surroundings where
  files : Files
  env : Config.Environment
  /-- The directory with the user's own settings. -/
  userDirectory : Option String

/-- What the program has to say in the end. -/
structure Outcome where
  config : Config
  reports : List Report

/-- What the program does for what it is asked. The second part lists the
locations that the source was asked for. -/
def check (s : Surroundings) (c : CommandLine) : Except Failure Outcome × List Url :=
  match c.problem? s.files with
  | some p => (.error (.commandLine p), [])
  | none =>
    match c.settings s.files s.userDirectory s.env with
    | .error e => (.error (.config e), [])
    | .ok config =>
      match Lookup.resolve s.files config.schemaDirectory c.schema with
      | .error e => (.error (.lookup c.schema e), [])
      | .ok location =>
        let (result, session) := (Document.reports s.files location c.documents).run .start
        match result with
        | .error e => (.error (.compile location e), session.fetched)
        | .ok reports => (.ok ⟨config, reports⟩, session.fetched)

/-- What a run of the program leaves behind. -/
structure Result where
  status : Nat
  output : String
  /-- What is written for errors. -/
  errors : String
deriving DecidableEq, Repr

/-- The status of a run in which every document was valid. -/
def statusValid : Nat := 0

/-- The status of a run in which a document was not valid or not read. -/
def statusInvalid : Nat := 1

/-- The status of a run that did not come to documents. -/
def statusFailure : Nat := 2

/-- The result of an outcome. -/
def Outcome.result (o : Outcome) : Result where
  status := if (Summary.ofReports o.reports).allValid then statusValid else statusInvalid
  output := Report.render o.config.format o.config.verbosity o.reports
  errors := ""

/-- How the program is called. The list of options is left out. -/
def usage : String :=
  "Usage: json-schema-validate [OPTIONS] <SCHEMA> <DOCUMENTS>...\n"

/-- The name and number of the program. -/
def versionText : String := "json-schema-validate 0.2.0\n"

/-- The result of arguments that are not taken, or that ask for help. For arguments
that are not taken, the text tells what kind of problem there is and leaves out
which argument it is about. -/
def stopResult : CommandLine.Stop → Result
  | .help => ⟨statusValid, usage, ""⟩
  | .version => ⟨statusValid, versionText, ""⟩
  | .invalidValue => ⟨statusFailure, "", "error: a value is invalid or missing\n\n" ++ usage⟩
  | .notANumber => ⟨statusFailure, "", "error: a value is not a number\n\n" ++ usage⟩
  | .conflict => ⟨statusFailure, "", "error: arguments cannot be used together\n\n" ++ usage⟩
  | .missingArgument => ⟨statusFailure, "", "error: required arguments were not given\n\n" ++ usage⟩
  | .unknownArgument => ⟨statusFailure, "", "error: unexpected argument found\n\n" ++ usage⟩
  | .needlessValue => ⟨statusFailure, "", "error: unexpected value for an option\n\n" ++ usage⟩

/-- Runs the program. -/
def run (s : Surroundings) (args : List String) : Result :=
  match CommandLine.parse args with
  | .error stop => stopResult stop
  | .ok c =>
    match (check s c).1 with
    | .error f => ⟨statusFailure, "", f.message ++ "\n"⟩
    | .ok outcome => outcome.result

end Program
end DraftSchema
