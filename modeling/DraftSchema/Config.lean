import DraftSchema.Report
import DraftSchema.Unicode.Property

/-!
# `DraftSchema.Config`: settings

Settings come from a file, from the environment and from the command line, and
the later source wins. Whatever their source, they are checked at the end
(`Config.problem?`).
-/

set_option autoImplicit false

namespace DraftSchema

/-- Settings. -/
structure Config where
  /-- The seconds that a server has to answer. -/
  timeout : Nat
  /-- The name that servers are given. -/
  userAgent : String
  /-- The directory of schemas that are called by name. -/
  schemaDirectory : Option String
  format : OutputFormat
  verbose : Bool
  quiet : Bool
deriving DecidableEq, Repr

namespace Config

/-- The settings where nothing is said. -/
def default : Config := ⟨30, "json-schema-validator/0.2.0", none, .human, false, false⟩

/-- How much is written with these settings. -/
def verbosity (c : Config) : Verbosity := .ofFlags c.verbose c.quiet

/-- The settings as a value. -/
def toJson (c : Config) : Json :=
  .object
    [("network", .object
        [("timeout_seconds", .number (.ofNat c.timeout)), ("user_agent", .string c.userAgent)]),
      ("lookup", .object
        [("schema_dir", (c.schemaDirectory.map Json.string).getD .null)]),
      ("output", .object
        [("format", .string c.format.name), ("verbose", .bool c.verbose),
          ("quiet", .bool c.quiet)])]

/-- Puts settings over others; a directory that is not given leaves the other
one. -/
def override (base next : Config) : Config :=
  { next with schemaDirectory := next.schemaDirectory <|> base.schemaDirectory }

/-! ### Checking -/

/-- What is wrong with settings. -/
inductive Problem where
  | noTimeout
  | noUserAgent
  | verboseAndQuiet
deriving DecidableEq, Repr

/-- The text of a problem. -/
def Problem.message : Problem → String
  | .noTimeout => "Timeout must be greater than 0"
  | .noUserAgent => "User agent must not be empty"
  | .verboseAndQuiet => "Cannot enable both verbose and quiet modes"

/-- The first problem of the settings. -/
def problem? (c : Config) : Option Problem :=
  if c.timeout = 0 then some .noTimeout
  else if c.userAgent.toList.all Unicode.Property.isSpace then some .noUserAgent
  else if c.verbose && c.quiet then some .verboseAndQuiet
  else none

/-! ### Errors -/

/-- Why there are no settings. -/
inductive Error where
  | file (message : String)
  | toml
  | json
  | problem (problem : Problem)
  | environment (name value : String)
  | unsupportedFormat (ending : String)
deriving DecidableEq, Repr

/-- The text of an error. What is wrong in a text that is no TOML or no JSON is
left out: the text ends with the colon in front of that. -/
def Error.message : Error → String
  | .file message => s!"IO error: {message}"
  | .toml => "TOML parsing error: "
  | .json => "JSON parsing error: "
  | .problem p => s!"Configuration validation error: {p.message}"
  | .environment name value => s!"Environment variable error: Invalid {name} value: {value}"
  | .unsupportedFormat ending => s!"Unsupported configuration file format: {ending}"

/-! ### The environment -/

/-- The number of 64-bit words: a timeout is below it. -/
def timeoutLimit : Nat := Nat.pow 2 64

/-- The timeout that a text spells: digits, with a plus sign in front if one is
written. -/
def timeout? (text : String) : Option Nat :=
  let digits := match text.toList with
    | '+' :: rest => rest
    | cs => cs
  match digits.mapM Digit.ofChar? with
  | none | some [] => none
  | some ds => some (Digit.value ds) |>.filter (· < timeoutLimit)

/-- The truth value that a text spells. -/
def flag? : String → Option Bool
  | "true" => some true
  | "false" => some false
  | _ => none

/-- The way to write reports that has a name, in any case of the letters of
ASCII. -/
def format? (text : String) : Option OutputFormat :=
  OutputFormat.ofName? (String.ofList (text.toList.map Char.toLower))

/-- Variables with their values. -/
abbrev Environment := List (String × String)

/-- Takes over a variable if it is set. -/
def withVariable {α : Type} (env : Environment) (name : String) (read : String → Option α)
    (set : α → Config) (c : Config) : Except Error Config :=
  match env.lookup name with
  | none => .ok c
  | some value =>
    match read value with
    | some a => .ok (set a)
    | none => .error (.environment name value)

/-- Puts the environment over settings. The first variable that cannot be read
is the one that is complained about. -/
def withEnvironment (c : Config) (env : Environment) : Except Error Config := do
  -- The order decides which variable is complained about.
  let c ← withVariable env "JSON_SCHEMA_TIMEOUT" timeout? (fun n => { c with timeout := n }) c
  let c ← withVariable env "JSON_SCHEMA_USER_AGENT" some (fun s => { c with userAgent := s }) c
  let c ← withVariable env "JSON_SCHEMA_DIR" some (fun s => { c with schemaDirectory := some s }) c
  let c ← withVariable env "JSON_SCHEMA_VERBOSE" flag? (fun b => { c with verbose := b }) c
  let c ← withVariable env "JSON_SCHEMA_QUIET" flag? (fun b => { c with quiet := b }) c
  withVariable env "JSON_SCHEMA_FORMAT" format? (fun f => { c with format := f }) c

end Config
end DraftSchema
