import DraftSchema.Config
import DraftSchema.Files
import DraftSchema.Json.Record
import DraftSchema.Toml.Reader

/-!
# `DraftSchema.Config.Text`: settings in files

A file of settings is a document of tables or JSON; the ending of its name tells
which, and a file without an ending may be either. All settings have a value
where nothing is said, and what is said besides is passed over.
-/

set_option autoImplicit false

namespace DraftSchema.Config

/-! ### JSON -/

/-- The way to write reports that a written value names: the name, or an object
with null under the name. -/
def formatOfWritten? : Json.Written → Option OutputFormat
  | .object [(units, .null)] => do
    OutputFormat.ofName? (String.ofList (← Json.TextUnit.decode? units))
  | w => w.string?.bind OutputFormat.ofName?

/-- Reads the settings of the network over others. -/
def networkOfWritten? (c : Config) (w : Json.Written) : Option Config := do
  let r ← Json.Record.ofWritten? ["timeout_seconds", "user_agent"] w
  let timeout ← r.optional? "timeout_seconds" c.timeout (Json.Written.below? timeoutLimit)
  let userAgent ← r.optional? "user_agent" c.userAgent Json.Written.string?
  return { c with timeout, userAgent }

/-- Reads where schemas are looked up over other settings. -/
def lookupOfWritten? (c : Config) (w : Json.Written) : Option Config := do
  let r ← Json.Record.ofWritten? ["schema_dir"] w
  let schemaDirectory ←
    r.optional? "schema_dir" c.schemaDirectory (Json.Written.nullable? Json.Written.string?)
  return { c with schemaDirectory }

/-- Reads the settings of the output over others. -/
def outputOfWritten? (c : Config) (w : Json.Written) : Option Config := do
  let r ← Json.Record.ofWritten? ["format", "verbose", "quiet"] w
  let format ← r.optional? "format" c.format formatOfWritten?
  let verbose ← r.optional? "verbose" c.verbose Json.Written.bool?
  let quiet ← r.optional? "quiet" c.quiet Json.Written.bool?
  return { c with format, verbose, quiet }

/-- The settings that a written record is. -/
def ofWritten? (w : Json.Written) : Option Config := do
  let r ← Json.Record.ofWritten? ["network", "lookup", "output"] w
  let c := Config.default
  let c ← r.optional? "network" c (networkOfWritten? c)
  let c ← r.optional? "lookup" c (lookupOfWritten? c)
  r.optional? "output" c (outputOfWritten? c)

/-- The settings that a text of JSON spells. -/
def parseJson? (text : String) : Option Config := do ofWritten? (← Json.Written.parse? text)

/-! ### Tables -/

/-- The fields of a table, or of an array of their values in order. A moment has
none of them. -/
def fieldsOfToml? (names : List String) : Toml.Value → Option Toml.Entries
  | .table _ entries => some entries
  | .array elements => some (names.zip elements)
  | .tables all => some (names.zip (all.reverse.map (.table .header)))
  | .datetime => some []
  | _ => none

/-- The text that a value is. -/
def textOfToml? : Toml.Value → Option String
  | .string s => some s
  | _ => none

/-- The truth value that a value is. -/
def flagOfToml? : Toml.Value → Option Bool
  | .boolean b => some b
  | _ => none

/-- The timeout that a value is. -/
def timeoutOfToml? : Toml.Value → Option Nat
  | .integer n => if 0 ≤ n ∧ n < timeoutLimit then some n.toNat else none
  | _ => none

/-- The way to write reports that a value names: the name, or a table with
nothing under the name. -/
def formatOfToml? : Toml.Value → Option OutputFormat
  | .string s => OutputFormat.ofName? s
  | .table _ [(name, .table _ [])] | .table _ [(name, .array [])] => OutputFormat.ofName? name
  | _ => none

/-- A field that has a value even if it is not given. -/
def tomlField? {α : Type} (entries : Toml.Entries) (name : String) (default : α)
    (read : Toml.Value → Option α) : Option α :=
  match entries.get? name with
  | none => some default
  | some v => read v

/-- Reads the settings of the network over others. -/
def networkOfToml? (c : Config) (v : Toml.Value) : Option Config := do
  let t ← fieldsOfToml? ["timeout_seconds", "user_agent"] v
  let timeout ← tomlField? t "timeout_seconds" c.timeout timeoutOfToml?
  let userAgent ← tomlField? t "user_agent" c.userAgent textOfToml?
  return { c with timeout, userAgent }

/-- Reads where schemas are looked up over other settings. -/
def lookupOfToml? (c : Config) (v : Toml.Value) : Option Config := do
  let t ← fieldsOfToml? ["schema_dir"] v
  let schemaDirectory ←
    tomlField? t "schema_dir" c.schemaDirectory fun v => (textOfToml? v).map some
  return { c with schemaDirectory }

/-- Reads the settings of the output over others. -/
def outputOfToml? (c : Config) (v : Toml.Value) : Option Config := do
  let t ← fieldsOfToml? ["format", "verbose", "quiet"] v
  let format ← tomlField? t "format" c.format formatOfToml?
  let verbose ← tomlField? t "verbose" c.verbose flagOfToml?
  let quiet ← tomlField? t "quiet" c.quiet flagOfToml?
  return { c with format, verbose, quiet }

/-- The settings in a document of tables. -/
def parseToml? (text : String) : Option Config := do
  let t ← Toml.parse? text
  let c := Config.default
  let c ← tomlField? t "network" c (networkOfToml? c)
  let c ← tomlField? t "lookup" c (lookupOfToml? c)
  tomlField? t "output" c (outputOfToml? c)

/-! ### Files -/

/-- The ending of the name of the file that a path leads to. A name that starts
with its only point has none. -/
def ending? (path : String) : Option String :=
  let name := (path.toList.reverse.takeWhile (· ≠ '/')).reverse
  let ending := (name.reverse.takeWhile (· ≠ '.')).reverse
  if ending.length + 1 < name.length then some (String.ofList ending) else none

/-- The settings in a text, by the ending of the name of its file. -/
def parse (ending : Option String) (text : String) : Except Error Config :=
  let json := (parseJson? text).elim (.error .json) .ok
  match ending with
  | some "toml" => (parseToml? text).elim (.error .toml) .ok
  | some "json" => json
  | some ending => .error (.unsupportedFormat ending)
  | none => (parseToml? text).elim json .ok

/-- The settings in the file that a path leads to. -/
def load (files : Files) (path : String) : Except Error Config :=
  match files.read (Files.pathOf path) with
  | .error e => .error (.file e.message)
  | .ok text => parse (ending? path) text

/-- The names of files of settings, in the order in which they are tried. -/
def fileNames : List String :=
  ["json-schema-validator.toml", "json-schema-validator.json",
    ".json-schema-validator.toml", ".json-schema-validator.json"]

/-- The paths on which settings are looked for: the working directory comes
before the user's own directory. -/
def candidates (userDirectory : Option String) : List String :=
  let directories := "." :: (userDirectory.map fun d => Files.join d "json-schema-validator").toList
  directories.flatMap fun d => fileNames.map (Files.join d)

/-- The settings in the first file that is found, if there is one. -/
def find (files : Files) (userDirectory : Option String) : Except Error (Option Config) :=
  match (candidates userDirectory).find? files.isFile with
  | none => .ok none
  | some path => (load files path).map some

end DraftSchema.Config
