import DraftSchema.CommandLine

/-!
# `DraftSchema.Proofs.Config.Layers`: settings that are said in part

A file, the environment and the command line each say some of the settings and are silent on
others. `Config.Layer` keeps these apart, and a layer over settings (`Layer.onto`) replaces
those that it says. Each source is read as a change to the settings below it, a file with the
defaults in the place of what it does not say; here is what each says by itself. For files,
`Config.FileFormat` tells it once for both formats. The theorems:

* `json_reads` and `toml_reads`: the settings in a text are what it says over the defaults.
* `load_eq_ok_iff`: so they are for the file that a path leads to.
* `withEnvironment_eq_ok_iff`: the environment is put over settings if all of its variables
  can be read.
* `applyTo_eq`: what is asked for on the command line is put over settings.
-/

set_option autoImplicit false

namespace DraftSchema.Config

/-- Some of the settings. -/
structure Layer where
  timeout : Option Nat := none
  userAgent : Option String := none
  schemaDirectory : Option String := none
  format : Option OutputFormat := none
  verbose : Option Bool := none
  quiet : Option Bool := none

namespace Layer

/-- Settings with those replaced that a layer says. -/
def onto (l : Layer) (c : Config) : Config where
  timeout := l.timeout.getD c.timeout
  userAgent := l.userAgent.getD c.userAgent
  schemaDirectory := l.schemaDirectory <|> c.schemaDirectory
  format := l.format.getD c.format
  verbose := l.verbose.getD c.verbose
  quiet := l.quiet.getD c.quiet

/-- What two layers say; where both say something, it is the first one that counts. -/
def join (upper lower : Layer) : Layer where
  timeout := upper.timeout <|> lower.timeout
  userAgent := upper.userAgent <|> lower.userAgent
  schemaDirectory := upper.schemaDirectory <|> lower.schemaDirectory
  format := upper.format <|> lower.format
  verbose := upper.verbose <|> lower.verbose
  quiet := upper.quiet <|> lower.quiet

/-- Two layers are put over settings one after the other, the lower one first. -/
theorem onto_join (upper lower : Layer) (c : Config) :
    (upper.join lower).onto c = upper.onto (lower.onto c) := by
  simp only [onto, join, Option.orElse_eq_orElse, Option.orElse_eq_or, Option.getD_or,
    Option.or_assoc]

end Layer

/-! ### Files -/

/-- What is said by something that may be given: nothing if it is not. What is given and
cannot be read is an error. -/
def said? {α β : Type} (given : Option β) (read : β → Option α) : Option (Option α) :=
  match given with
  | none => some none
  | some w => (read w).map some

/-- What is said by something that may be given, with a default if it is not. -/
def saidOr? {α β : Type} (given : Option β) (default : α) (read : β → Option α) : Option α :=
  match given with
  | none => some default
  | some w => read w

/-- A default takes the place of what is not said. -/
theorem saidOr?_eq {α β : Type} (given : Option β) (default : α) (read : β → Option α) :
    saidOr? given default read = (said? given read).map (·.getD default) := by
  rcases given with _ | w
  · rfl
  · show read w = ((read w).map some).map (·.getD default)
    rw [Option.map_map]
    exact (Option.map_id' (x := read w)).symm

/-- A format of files of settings: how the fields of its records are found, and what is read
from their values. -/
structure FileFormat (β : Type) where
  fields? : List String → β → Option (String → Option β)
  timeout? : β → Option Nat
  text? : β → Option String
  /-- A directory may be given as none. -/
  directory? : β → Option (Option String)
  format? : β → Option OutputFormat
  flag? : β → Option Bool

namespace FileFormat

variable {β : Type} (f : FileFormat β)

/-! #### What is said -/

/-- What is said on the network. -/
def network? (v : β) : Option Layer := do
  let get ← f.fields? ["timeout_seconds", "user_agent"] v
  return {
    timeout := ← said? (get "timeout_seconds") f.timeout?
    userAgent := ← said? (get "user_agent") f.text? }

/-- What is said on where schemas are looked up. -/
def lookup? (v : β) : Option Layer := do
  let get ← f.fields? ["schema_dir"] v
  return { schemaDirectory := (← said? (get "schema_dir") f.directory?).join }

/-- What is said on the output. -/
def output? (v : β) : Option Layer := do
  let get ← f.fields? ["format", "verbose", "quiet"] v
  return {
    format := ← said? (get "format") f.format?
    verbose := ← said? (get "verbose") f.flag?
    quiet := ← said? (get "quiet") f.flag? }

/-- What a file says: the settings in each of the sections that it has. -/
def layer? (v : β) : Option Layer := do
  let get ← f.fields? ["network", "lookup", "output"] v
  let network ← saidOr? (get "network") {} f.network?
  let lookup ← saidOr? (get "lookup") {} f.lookup?
  let output ← saidOr? (get "output") {} f.output?
  return output.join (lookup.join network)

/-! #### What is read over other settings -/

/-- Reads the settings of the network over others. -/
def networkOver? (c : Config) (v : β) : Option Config := do
  let get ← f.fields? ["timeout_seconds", "user_agent"] v
  let timeout ← saidOr? (get "timeout_seconds") c.timeout f.timeout?
  let userAgent ← saidOr? (get "user_agent") c.userAgent f.text?
  return { c with timeout, userAgent }

/-- Reads where schemas are looked up over other settings. -/
def lookupOver? (c : Config) (v : β) : Option Config := do
  let get ← f.fields? ["schema_dir"] v
  let schemaDirectory ← saidOr? (get "schema_dir") c.schemaDirectory f.directory?
  return { c with schemaDirectory }

/-- Reads the settings of the output over others. -/
def outputOver? (c : Config) (v : β) : Option Config := do
  let get ← f.fields? ["format", "verbose", "quiet"] v
  let format ← saidOr? (get "format") c.format f.format?
  let verbose ← saidOr? (get "verbose") c.verbose f.flag?
  let quiet ← saidOr? (get "quiet") c.quiet f.flag?
  return { c with format, verbose, quiet }

/-- Reads the sections one after the other over the defaults. -/
def config? (v : β) : Option Config := do
  let get ← f.fields? ["network", "lookup", "output"] v
  let c := Config.default
  let c ← saidOr? (get "network") c (f.networkOver? c)
  let c ← saidOr? (get "lookup") c (f.lookupOver? c)
  saidOr? (get "output") c (f.outputOver? c)

theorem networkOver?_eq (c : Config) (v : β) :
    f.networkOver? c v = (f.network? v).map (·.onto c) := by
  unfold networkOver? network?
  rcases f.fields? ["timeout_seconds", "user_agent"] v with _ | get
  · rfl
  · simp only [Option.bind_eq_bind, Option.bind_some, saidOr?_eq]
    rcases said? (get "timeout_seconds") f.timeout? with _ | timeout
    · rfl
    · rcases said? (get "user_agent") f.text? with _ | userAgent
      · rfl
      · rfl

/-- A directory that is given as none leaves no directory, so it is as if none were said where
there is none before. -/
theorem lookupOver?_eq {c : Config} (hc : c.schemaDirectory = none) (v : β) :
    f.lookupOver? c v = (f.lookup? v).map (·.onto c) := by
  unfold lookupOver? lookup?
  rcases f.fields? ["schema_dir"] v with _ | get
  · rfl
  · simp only [Option.bind_eq_bind, Option.bind_some, saidOr?_eq]
    rcases said? (get "schema_dir") f.directory? with _ | _ | _ | directory
    · rfl
    · rfl
    · simp [Layer.onto, hc]
    · rfl

theorem outputOver?_eq (c : Config) (v : β) :
    f.outputOver? c v = (f.output? v).map (·.onto c) := by
  unfold outputOver? output?
  rcases f.fields? ["format", "verbose", "quiet"] v with _ | get
  · rfl
  · simp only [Option.bind_eq_bind, Option.bind_some, saidOr?_eq]
    rcases said? (get "format") f.format? with _ | format
    · rfl
    · rcases said? (get "verbose") f.flag? with _ | verbose
      · rfl
      · rcases said? (get "quiet") f.flag? with _ | quiet
        · rfl
        · rfl

/-- What is said on the network names no directory. -/
theorem schemaDirectory_of_network? {given : Option β} {l : Layer}
    (h : saidOr? given {} f.network? = some l) : l.schemaDirectory = none := by
  rcases given with _ | v
  · cases h
    rfl
  · have hnetwork : f.network? v = some l := h
    simp only [network?, Option.bind_eq_bind, Option.bind_eq_some_iff] at hnetwork
    obtain ⟨get, -, timeout, -, userAgent, -, hl⟩ := hnetwork
    cases hl
    rfl

/-- A section that is not given says nothing. -/
theorem saidOr?_section {c : Config} {readOver : β → Option Config} {read : β → Option Layer}
    (h : ∀ v, readOver v = (read v).map (·.onto c)) (given : Option β) :
    saidOr? given c readOver = (saidOr? given {} read).map (·.onto c) := by
  rcases given with _ | v
  · rfl
  · exact h v

/-- The settings in a file are what it says over the defaults. -/
theorem config?_eq (v : β) : f.config? v = (f.layer? v).map (·.onto Config.default) := by
  unfold config? layer?
  rcases f.fields? ["network", "lookup", "output"] v with _ | get
  · rfl
  · simp only [Option.bind_eq_bind, Option.bind_some]
    rw [saidOr?_section (f.networkOver?_eq Config.default)]
    rcases hnetwork : saidOr? (get "network") ({} : Layer) f.network? with _ | network
    · rfl
    · -- The network says nothing on directories.
      have hdirectory : (network.onto Config.default).schemaDirectory = none := by
        rw [Layer.onto, f.schemaDirectory_of_network? hnetwork]
        rfl
      simp only [Option.map_some, Option.bind_some]
      rw [saidOr?_section (f.lookupOver?_eq hdirectory)]
      rcases saidOr? (get "lookup") ({} : Layer) f.lookup? with _ | lookup
      · rfl
      · simp only [Option.map_some, Option.bind_some]
        rw [saidOr?_section (f.outputOver?_eq _)]
        rcases saidOr? (get "output") ({} : Layer) f.output? with _ | output
        · rfl
        · simp [Layer.onto_join]

/-- Records of JSON. -/
def json : FileFormat Json.Written where
  fields? names w := (Json.Record.ofWritten? names w).map Json.Record.get?
  timeout? := Json.Written.below? timeoutLimit
  text? := Json.Written.string?
  directory? := Json.Written.nullable? Json.Written.string?
  format? := formatOfWritten?
  flag? := Json.Written.bool?

/-- Tables. -/
def toml : FileFormat Toml.Value where
  fields? names v := (fieldsOfToml? names v).map Toml.Entries.get?
  timeout? := timeoutOfToml?
  text? := textOfToml?
  directory? v := (textOfToml? v).map some
  format? := formatOfToml?
  flag? := flagOfToml?

end FileFormat

/-- A field of a record that has a value even if it is not given. -/
theorem optional?_eq {α : Type} (r : Json.Record) (name : String) (default : α)
    (read : Json.Written → Option α) :
    r.optional? name default read = saidOr? (r.get? name) default read := by
  unfold Json.Record.optional? saidOr?
  rcases r.get? name with _ | w
  · rfl
  · rfl

/-- What a text of JSON says. -/
def Layer.ofJson? (text : String) : Option Layer :=
  (Json.Written.parse? text).bind FileFormat.json.layer?

/-- The settings in a text of JSON are what it says over the defaults. -/
theorem json_reads (text : String) :
    parseJson? text = (Layer.ofJson? text).map (·.onto Config.default) := by
  have hnetwork : networkOfWritten? = FileFormat.json.networkOver? := by
    funext c v
    simp only [networkOfWritten?, FileFormat.networkOver?, FileFormat.json, optional?_eq,
      Option.bind_eq_bind, Option.bind_map, Function.comp_def]
  have hlookup : lookupOfWritten? = FileFormat.json.lookupOver? := by
    funext c v
    simp only [lookupOfWritten?, FileFormat.lookupOver?, FileFormat.json, optional?_eq,
      Option.bind_eq_bind, Option.bind_map, Function.comp_def]
  have houtput : outputOfWritten? = FileFormat.json.outputOver? := by
    funext c v
    simp only [outputOfWritten?, FileFormat.outputOver?, FileFormat.json, optional?_eq,
      Option.bind_eq_bind, Option.bind_map, Function.comp_def]
  have hrecord : ofWritten? = FileFormat.json.config? := by
    funext w
    simp only [ofWritten?, FileFormat.config?, hnetwork, hlookup, houtput, FileFormat.json,
      optional?_eq, Option.bind_eq_bind, Option.bind_map, Function.comp_def]
  show (Json.Written.parse? text).bind ofWritten? = _
  rw [hrecord, funext FileFormat.json.config?_eq, Layer.ofJson?, Option.map_bind]
  rfl

/-- A field of a table that has a value even if it is not given. -/
theorem tomlField?_eq {α : Type} (entries : Toml.Entries) (name : String) (default : α)
    (read : Toml.Value → Option α) :
    tomlField? entries name default read = saidOr? (entries.get? name) default read := by
  unfold tomlField? saidOr?
  rcases entries.get? name with _ | v
  · rfl
  · rfl

/-- What a document of tables says. -/
def Layer.ofToml? (text : String) : Option Layer :=
  (Toml.parse? text).bind fun entries => FileFormat.toml.layer? (.table .header entries)

/-- The settings in a document of tables are what it says over the defaults. -/
theorem toml_reads (text : String) :
    parseToml? text = (Layer.ofToml? text).map (·.onto Config.default) := by
  have hnetwork : networkOfToml? = FileFormat.toml.networkOver? := by
    funext c v
    simp only [networkOfToml?, FileFormat.networkOver?, FileFormat.toml, tomlField?_eq,
      Option.bind_eq_bind, Option.bind_map, Function.comp_def]
  have hlookup : lookupOfToml? = FileFormat.toml.lookupOver? := by
    funext c v
    simp only [lookupOfToml?, FileFormat.lookupOver?, FileFormat.toml, tomlField?_eq,
      Option.bind_eq_bind, Option.bind_map, Function.comp_def]
  have houtput : outputOfToml? = FileFormat.toml.outputOver? := by
    funext c v
    simp only [outputOfToml?, FileFormat.outputOver?, FileFormat.toml, tomlField?_eq,
      Option.bind_eq_bind, Option.bind_map, Function.comp_def]
  have hdocument : parseToml? text =
      (Toml.parse? text).bind fun entries => FileFormat.toml.config? (.table .header entries) := by
    simp only [parseToml?, FileFormat.config?, hnetwork, hlookup, houtput, FileFormat.toml,
      tomlField?_eq, Option.bind_eq_bind, Option.bind_map, Function.comp_def, fieldsOfToml?,
      Option.bind_some]
  rw [hdocument, funext FileFormat.toml.config?_eq, Layer.ofToml?, Option.map_bind]
  rfl

/-- What a text says, by the ending of the name of its file. A text without an ending is read
as JSON if it is no document of tables. -/
def Layer.ofText? (ending : Option String) (text : String) : Option Layer :=
  match ending with
  | some "toml" => ofToml? text
  | some "json" => ofJson? text
  | some _ => none
  | none => ofToml? text <|> ofJson? text

/-- The settings in a text are what it says over the defaults. -/
theorem parse_eq_ok_iff {ending : Option String} {text : String} {c : Config} :
    parse ending text = .ok c ↔
      ∃ l, Layer.ofText? ending text = some l ∧ c = l.onto Config.default := by
  have helim : ∀ (l : Option Layer) (e : Error),
      (l.map (·.onto Config.default)).elim (Except.error e) Except.ok = .ok c ↔
        ∃ l', l = some l' ∧ c = l'.onto Config.default := by
    intro l e
    rcases l with _ | l
    · simp
    · simp [eq_comm]
  unfold parse Layer.ofText?
  rw [toml_reads, json_reads]
  split
  · exact helim _ _
  · exact helim _ _
  · simp
  · rcases Layer.ofToml? text with _ | l
    · exact helim _ _
    · exact helim (some l) .toml

/-! ### Where files are -/

/-- A path leads to a file that says a layer. -/
def Loads (files : Files) (path : String) (l : Layer) : Prop :=
  ∃ canonical bytes text, files.find (Files.pathOf path) = .ok ⟨canonical, .file bytes⟩ ∧
    String.fromUTF8? bytes = some text ∧ Layer.ofText? (ending? path) text = some l

/-- The settings in the file that a path leads to are what it says over the defaults. -/
theorem load_eq_ok_iff {files : Files} {path : String} {c : Config} :
    load files path = .ok c ↔ ∃ l, Loads files path l ∧ c = l.onto Config.default := by
  unfold load Files.read Loads
  rcases files.find (Files.pathOf path) with e | ⟨canonical, bytes | _⟩
  · simp
  · rcases htext : String.fromUTF8? bytes with _ | text
    · simp [htext]
    · simp only [htext, parse_eq_ok_iff]
      constructor
      · rintro ⟨l, hl, hc⟩
        exact ⟨l, ⟨canonical, bytes, text, rfl, htext, hl⟩, hc⟩
      · rintro ⟨l, ⟨_, _, text', hfind, htext', hl⟩, hc⟩
        cases hfind
        obtain rfl : text' = text := Option.some.inj (htext'.symm.trans htext)
        exact ⟨l, hl, hc⟩
  · simp

/-! ### The environment -/

namespace Environment

/-- All variables that are set and not taken as they are can be read. -/
structure Reads (env : Environment) : Prop where
  timeout : ∀ value, env.lookup "JSON_SCHEMA_TIMEOUT" = some value → (timeout? value).isSome
  verbose : ∀ value, env.lookup "JSON_SCHEMA_VERBOSE" = some value → (flag? value).isSome
  quiet : ∀ value, env.lookup "JSON_SCHEMA_QUIET" = some value → (flag? value).isSome
  format : ∀ value, env.lookup "JSON_SCHEMA_FORMAT" = some value → (format? value).isSome

/-- What variables say. -/
def layer (env : Environment) : Layer where
  timeout := (env.lookup "JSON_SCHEMA_TIMEOUT").bind timeout?
  userAgent := env.lookup "JSON_SCHEMA_USER_AGENT"
  schemaDirectory := env.lookup "JSON_SCHEMA_DIR"
  format := (env.lookup "JSON_SCHEMA_FORMAT").bind format?
  verbose := (env.lookup "JSON_SCHEMA_VERBOSE").bind flag?
  quiet := (env.lookup "JSON_SCHEMA_QUIET").bind flag?

end Environment

/-- A variable says a layer that depends on its value: it is put over settings if the value
can be read. -/
theorem withVariable_eq_ok_iff {α : Type} (said : Option α → Layer) {env : Environment}
    {name : String} {read : String → Option α} {set : α → Config} {c c' : Config}
    (hnone : c = (said none).onto c) (hsome : ∀ a, set a = (said (some a)).onto c) :
    withVariable env name read set c = .ok c' ↔
      (∀ value, env.lookup name = some value → (read value).isSome) ∧
        c' = (said ((env.lookup name).bind read)).onto c := by
  unfold withVariable
  rcases env.lookup name with _ | value
  · simp [← hnone, eq_comm (a := c)]
  · rcases hread : read value with _ | a
    · simp [hread]
    · simp [hread, ← hsome, eq_comm (a := set a)]

/-- A result of two steps is one of the second step on a result of the first one. -/
theorem bind_eq_ok_iff {ε α β : Type} {x : Except ε α} {f : α → Except ε β} {b : β} :
    x >>= f = .ok b ↔ ∃ a, x = .ok a ∧ f a = .ok b := by
  rcases x with e | a
  · simp [Bind.bind, Except.bind]
  · simp [Bind.bind, Except.bind]

theorem withVariable_bind_eq_ok_iff {α : Type} (said : Option α → Layer) {env : Environment}
    {name : String} {read : String → Option α} {set : α → Config} {c c' : Config}
    {f : Config → Except Error Config}
    (hnone : c = (said none).onto c) (hsome : ∀ a, set a = (said (some a)).onto c) :
    withVariable env name read set c >>= f = .ok c' ↔
      (∀ value, env.lookup name = some value → (read value).isSome) ∧
        f ((said ((env.lookup name).bind read)).onto c) = .ok c' := by
  simp only [bind_eq_ok_iff, withVariable_eq_ok_iff said hnone hsome, and_assoc, exists_and_left,
    exists_eq_left]

/-- The environment is put over settings, if all of its variables can be read. -/
theorem withEnvironment_eq_ok_iff {env : Environment} {c c' : Config} :
    withEnvironment c env = .ok c' ↔ env.Reads ∧ c' = env.layer.onto c := by
  unfold withEnvironment
  rw [withVariable_bind_eq_ok_iff fun n => { timeout := n },
    withVariable_bind_eq_ok_iff fun s => { userAgent := s },
    withVariable_bind_eq_ok_iff fun s => { schemaDirectory := s },
    withVariable_bind_eq_ok_iff fun b => { verbose := b },
    withVariable_bind_eq_ok_iff fun b => { quiet := b },
    withVariable_eq_ok_iff fun f => { format := f }]
  · simp only [Option.isSome_some, implies_true, true_and, Option.bind_fun_some]
    constructor
    · rintro ⟨htimeout, hverbose, hquiet, hformat, hc⟩
      exact ⟨⟨htimeout, hverbose, hquiet, hformat⟩, hc⟩
    · rintro ⟨⟨htimeout, hverbose, hquiet, hformat⟩, hc⟩
      exact ⟨htimeout, hverbose, hquiet, hformat, hc⟩
  -- Every variable says one of the settings.
  all_goals
    intros
    rfl

end DraftSchema.Config

namespace DraftSchema.CommandLine

/-! ### The command line -/

/-- What is asked for. Each of the options on how much is written speaks for both flags. -/
def layer (c : CommandLine) : Config.Layer where
  timeout := c.timeout
  schemaDirectory := c.schemaDirectory
  format := c.format
  verbose := if c.quiet then some false else if c.verbose then some true else none
  quiet := if c.quiet then some true else if c.verbose then some false else none

/-- What is asked for is put over settings. -/
theorem applyTo_eq (c : CommandLine) (config : Config) :
    c.applyTo config = c.layer.onto config := by
  rcases c with ⟨_, _, _, _, _, _, _ | _, _ | _⟩ <;> rfl

end DraftSchema.CommandLine
