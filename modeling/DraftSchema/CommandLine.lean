import DraftSchema.Config.Text

/-!
# `DraftSchema.CommandLine`: what the program is asked to do

Arguments are a schema, documents, and options. An option stands for itself or
takes a value, which follows its name behind an equals sign, directly behind its
letter, or as the next argument. Letters may share one dash. Behind two dashes
nothing is an option.

A value that follows as the next argument is looked into when the next option or
a positional argument of another kind comes, or at the end. Until then an option
that does not exist is complained about first.
-/

set_option autoImplicit false

namespace DraftSchema

/-- What the program is asked to do. -/
structure CommandLine where
  schema : String
  documents : List String
  config : Option String
  schemaDirectory : Option String
  format : Option OutputFormat
  timeout : Option Nat
  verbose : Bool
  quiet : Bool
deriving DecidableEq, Repr

namespace CommandLine

/-- Why arguments are not taken, or what they ask for instead. -/
inductive Stop where
  | invalidValue
  | notANumber
  | conflict
  | missingArgument
  | unknownArgument
  | needlessValue
  | help
  | version
deriving DecidableEq, Repr

/-- An option. -/
inductive Name where
  | config
  | schemaDirectory
  | format
  | timeout
  | verbose
  | quiet
  | help
  | version
deriving DecidableEq, Repr

namespace Name

/-- The option with a long name. -/
def ofLong? : String → Option Name
  | "config" => some .config
  | "schema-dir" => some .schemaDirectory
  | "format" => some .format
  | "timeout" => some .timeout
  | "verbose" => some .verbose
  | "quiet" => some .quiet
  | "help" => some .help
  | "version" => some .version
  | _ => none

/-- The option with a letter. -/
def ofLetter? : Char → Option Name
  | 'c' => some .config
  | 'f' => some .format
  | 'v' => some .verbose
  | 'q' => some .quiet
  | 'h' => some .help
  | 'V' => some .version
  | _ => none

/-- The option takes a value. -/
def takesValue : Name → Bool
  | .config | .schemaDirectory | .format | .timeout => true
  | _ => false

end Name

/-- What was given so far. -/
structure Given where
  schema : Option String := none
  documents : List String := []
  config : Option String := none
  schemaDirectory : Option String := none
  format : Option OutputFormat := none
  timeout : Option Nat := none
  verbose : Bool := false
  quiet : Bool := false

namespace Given

/-- Sets something that was not given before. -/
def once {α : Type} (before : Option α) (value : Except Stop α) (set : α → Given) :
    Except Stop Given :=
  match before with
  | some _ => .error .conflict
  | none => value.map set

/-- A path, which is not empty. -/
def path (text : String) : Except Stop String :=
  if text = "" then .error .invalidValue else .ok text

/-- Gives an option with its value. -/
def option (g : Given) (name : Name) (value : String) : Except Stop Given :=
  match name with
  | .config => once g.config (path value) fun s => { g with config := some s }
  | .schemaDirectory =>
    once g.schemaDirectory (path value) fun s => { g with schemaDirectory := some s }
  | .format =>
    once g.format ((OutputFormat.ofName? value).elim (.error .invalidValue) .ok) fun f =>
      { g with format := some f }
  | .timeout =>
    once g.timeout ((Config.timeout? value).elim (.error .notANumber) .ok) fun n =>
      { g with timeout := some n }
  | _ => .ok g

/-- Gives an option that has no value. -/
def flag (g : Given) : Name → Except Stop Given
  | .verbose => if g.verbose then .error .conflict else .ok { g with verbose := true }
  | .quiet => if g.quiet then .error .conflict else .ok { g with quiet := true }
  | .help => .error .help
  | .version => .error .version
  | _ => .ok g

end Given

/-- What waits for the next argument. -/
inductive Pending where
  | nothing
  /-- An option that has no value yet. -/
  | option (name : Name)
  /-- An option with its value. -/
  | value (name : Name) (value : String)
  /-- The schema. -/
  | schema (value : String)
  /-- Documents, last first. -/
  | documents (values : List String)

/-- Arguments that are being read. -/
structure Reading where
  given : Given
  pending : Pending
  /-- The schema was met, so that further positional arguments are documents. -/
  schemaMet : Bool
  /-- Two dashes were met. -/
  onlyPositional : Bool

namespace Reading

/-- Takes in what waits. -/
def settle (r : Reading) : Except Stop Given :=
  match r.pending with
  | .nothing => .ok r.given
  | .option _ => .error .invalidValue
  | .value name value => r.given.option name value
  | .schema value => .ok { r.given with schema := some value }
  | .documents values => do
    let paths ← values.reverse.mapM Given.path
    return { r.given with documents := r.given.documents ++ paths }

/-- Takes in what waits, and then what `f` does. -/
def settleThen (r : Reading) (f : Given → Except Stop Given) : Except Stop Reading := do
  return { r with given := ← f (← r.settle), pending := .nothing }

/-- Takes in what waits, and lets something else wait. -/
def settleAndWait (r : Reading) (pending : Pending) : Except Stop Reading := do
  return { r with given := ← r.settle, pending := pending }

/-- Takes a positional argument. -/
def positional (r : Reading) (arg : String) : Except Stop Reading :=
  if !r.schemaMet then do
    return { ← r.settleAndWait (.schema arg) with schemaMet := true }
  else
    match r.pending with
    | .documents values => .ok { r with pending := .documents (arg :: values) }
    | _ => r.settleAndWait (.documents [arg])

/-- Takes an option by its long name. -/
def long (r : Reading) (body : List Char) : Except Stop Reading :=
  let name := String.ofList (body.takeWhile (· ≠ '='))
  match Name.ofLong? name, body.dropWhile (· ≠ '=') with
  | none, _ => .error .unknownArgument
  | some name, [] =>
    if name.takesValue then r.settleAndWait (.option name) else r.settleThen (·.flag name)
  | some name, _ :: value =>
    if name.takesValue then r.settleThen (·.option name (String.ofList value))
    else .error .needlessValue

/-- Takes options by their letters. -/
def letters (r : Reading) : List Char → Except Stop Reading
  | [] => .ok r
  | c :: rest =>
    match Name.ofLetter? c with
    | none => .error .unknownArgument
    | some name =>
      if name.takesValue then
        match rest with
        | [] => r.settleAndWait (.option name)
        -- The rest of the argument is the value, an equals sign apart.
        | '=' :: value => r.settleThen (·.option name (String.ofList value))
        | value => r.settleThen (·.option name (String.ofList value))
      else
        match r.settleThen (·.flag name) with
        | .ok r => r.letters rest
        | .error e => .error e

/-- Takes an argument that is no option by its form. -/
def plain (r : Reading) (arg : String) : Except Stop Reading :=
  match r.pending with
  -- The value is looked into only when something else comes.
  | .option name => .ok { r with pending := .value name arg }
  | _ => r.positional arg

/-- Takes an argument. -/
def argument (r : Reading) (arg : String) : Except Stop Reading :=
  if r.onlyPositional then r.positional arg
  else
    match arg.toList with
    | ['-', '-'] => .ok { r with onlyPositional := true }
    | '-' :: '-' :: body => r.long body
    | '-' :: c :: rest => r.letters (c :: rest)
    | _ => r.plain arg

end Reading

/-- What is asked for by all that was given. -/
def ofGiven (g : Given) : Except Stop CommandLine :=
  -- Options that exclude each other are complained about before what is missing.
  if g.verbose && g.quiet then .error .conflict
  else
    match g.schema, g.documents with
    | some schema, d :: ds =>
      .ok ⟨schema, d :: ds, g.config, g.schemaDirectory, g.format, g.timeout, g.verbose, g.quiet⟩
    | _, _ => .error .missingArgument

/-- Reads arguments. -/
def parse (args : List String) : Except Stop CommandLine := do
  let r ← args.foldlM Reading.argument ⟨{}, .nothing, false, false⟩
  ofGiven (← r.settle)

/-! ### Checking -/

/-- What is wrong with what is asked for. -/
inductive Problem where
  | noTimeout
  | noSchemaDirectory (path : String)
deriving DecidableEq, Repr

/-- The text of a problem. -/
def Problem.message : Problem → String
  | .noTimeout => "Timeout must be greater than 0"
  | .noSchemaDirectory path => s!"Schema directory does not exist: {path}"

/-- The first problem of what is asked for. -/
def problem? (c : CommandLine) (files : Files) : Option Problem :=
  if c.timeout = some 0 then some .noTimeout
  else
    match c.schemaDirectory with
    | some path => if files.isDirectory path then none else some (.noSchemaDirectory path)
    | none => none

/-! ### Settings -/

/-- Puts what is asked for over settings. Verbose and quiet exclude each other. -/
def applyTo (c : CommandLine) (config : Config) : Config :=
  { timeout := c.timeout.getD config.timeout
    userAgent := config.userAgent
    schemaDirectory := c.schemaDirectory <|> config.schemaDirectory
    format := c.format.getD config.format
    verbose := !c.quiet && (c.verbose || config.verbose)
    quiet := c.quiet || (!c.verbose && config.quiet) }

/-- The settings of a file that is asked for, or else of one that is found. -/
def fileConfig (c : CommandLine) (files : Files) (userDirectory : Option String) :
    Except Config.Error Config :=
  match c.config with
  | some path => (Config.load files path).map (Config.default.override ·)
  | none =>
    (Config.find files userDirectory).map fun found =>
      (found.map (Config.default.override ·)).getD .default

/-- The settings by file, environment and arguments, checked at the end. -/
def settings (c : CommandLine) (files : Files) (userDirectory : Option String)
    (env : Config.Environment) : Except Config.Error Config := do
  let config ← c.fileConfig files userDirectory
  let config := c.applyTo (← config.withEnvironment env)
  match config.problem? with
  | some p => .error (.problem p)
  | none => return config

end CommandLine
end DraftSchema
