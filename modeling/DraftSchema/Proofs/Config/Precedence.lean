import DraftSchema.Files.Tree
import DraftSchema.Proofs.Config.Layers
import Mathlib

/-!
# `DraftSchema.Proofs.Config.Precedence`: whose settings count

The command line goes before the environment, the environment before a file, and a file before
the defaults; settings are checked when all of them are there. What is said in a lower layer
has to be readable even where a higher one replaces it, but it need not be sound.

`CommandLine.Layered` says for every setting whose word counts, without the order in which the
layers are put over each other. The theorems:

* `problem?_eq_none_iff`: the settings that pass the check at the end.
* `fileConfig_eq_ok_iff`: the file that is used is the one that is asked for, or else the first
  one that is found.
* `settings_eq_ok_iff`: there are settings exactly if the file and the environment can be read
  and the layered settings are sound, and then these are the settings.
-/

set_option autoImplicit false

namespace DraftSchema

namespace Config

/-- Settings that can be used. -/
structure Sound (c : Config) : Prop where
  timeout : 0 < c.timeout
  userAgent : ∃ ch ∈ c.userAgent.toList, Unicode.Property.isSpace ch = false
  verbosity : ¬ (c.verbose = true ∧ c.quiet = true)

/-- The check at the end finds nothing in settings that can be used. -/
theorem problem?_eq_none_iff {c : Config} : c.problem? = none ↔ c.Sound := by
  have hagent : ¬ c.userAgent.toList.all Unicode.Property.isSpace = true ↔
      ∃ ch ∈ c.userAgent.toList, Unicode.Property.isSpace ch = false := by
    rw [Bool.not_eq_true, List.all_eq_false]
    simp only [Bool.not_eq_true]
  have hflags : ¬ (c.verbose && c.quiet) = true ↔ ¬ (c.verbose = true ∧ c.quiet = true) := by
    rw [Bool.and_eq_true]
  unfold problem?
  constructor
  · intro h
    -- No problem is left only behind all three questions.
    split at h
    · cases h
    · next htimeout =>
      split at h
      · cases h
      · next hspace =>
        split at h
        · cases h
        · next hboth =>
          exact ⟨Nat.pos_of_ne_zero htimeout, hagent.mp hspace, hflags.mp hboth⟩
  · intro h
    rw [if_neg h.timeout.ne', if_neg (hagent.mpr h.userAgent), if_neg (hflags.mpr h.verbosity)]

end Config

namespace CommandLine

/-! ### The file -/

/-- The file that is used, by what it says. -/
inductive Uses (c : CommandLine) (files : Files) (userDirectory : Option String) :
    Config.Layer → Prop
  /-- The file that is asked for. -/
  | named {path : String} {file : Config.Layer} (hpath : c.config = some path)
      (hloads : Config.Loads files path file) : Uses c files userDirectory file
  /-- The first file of those that are looked for. -/
  | found {before after : List String} {path : String} {file : Config.Layer}
      (hnamed : c.config = none)
      (hpaths : Config.candidates userDirectory = before ++ path :: after)
      (hbefore : ∀ p ∈ before, files.isFile p = false) (hfile : files.isFile path = true)
      (hloads : Config.Loads files path file) : Uses c files userDirectory file
  /-- There is no file. -/
  | nothing (hnamed : c.config = none)
      (hnone : ∀ p ∈ Config.candidates userDirectory, files.isFile p = false) :
      Uses c files userDirectory {}

/-! The cases exclude each other, and in each of them there is at most one path to load. -/

section
variable {c : CommandLine} {files : Files} {userDirectory : Option String} {path : String}
  {file : Config.Layer}

theorem uses_iff_of_named (hpath : c.config = some path) :
    Uses c files userDirectory file ↔ Config.Loads files path file := by
  constructor
  · intro huses
    cases huses with
    | named hpath' hloads =>
      obtain rfl := Option.some.inj (hpath'.symm.trans hpath)
      exact hloads
    | found hnamed => cases hnamed.symm.trans hpath
    | nothing hnamed => cases hnamed.symm.trans hpath
  · exact .named hpath

theorem uses_iff_of_found (hnamed : c.config = none)
    (hfind : (Config.candidates userDirectory).find? files.isFile = some path) :
    Uses c files userDirectory file ↔ Config.Loads files path file := by
  constructor
  · intro huses
    cases huses with
    | named hpath => cases hnamed.symm.trans hpath
    | @found before after path' _ _ hpaths hbefore hfile hloads =>
      -- Only the first file has none before it.
      have hfind' : (Config.candidates userDirectory).find? files.isFile = some path' := by
        refine List.find?_eq_some_iff_append.mpr ⟨hfile, before, after, hpaths, ?_⟩
        intro p hp
        rw [hbefore p hp]
        rfl
      obtain rfl := Option.some.inj (hfind'.symm.trans hfind)
      exact hloads
    | nothing _ hnone =>
      have hfile := hnone path (List.mem_of_find?_eq_some hfind)
      rw [List.find?_some hfind] at hfile
      cases hfile
  · obtain ⟨hfile, before, after, hpaths, hbefore⟩ := List.find?_eq_some_iff_append.mp hfind
    exact .found hnamed hpaths (fun p hp => by simpa using hbefore p hp) hfile

theorem uses_iff_of_not_found (hnamed : c.config = none)
    (hfind : (Config.candidates userDirectory).find? files.isFile = none) :
    Uses c files userDirectory file ↔ file = {} := by
  have hnone : ∀ p ∈ Config.candidates userDirectory, files.isFile p = false := fun p hp =>
    Bool.eq_false_iff.mpr (List.find?_eq_none.mp hfind p hp)
  constructor
  · intro huses
    cases huses with
    | named hpath => cases hnamed.symm.trans hpath
    | @found _ _ path _ _ hpaths _ hfile =>
      have hpath : path ∈ Config.candidates userDirectory := by
        rw [hpaths]
        exact List.mem_append_cons_self
      rw [hnone path hpath] at hfile
      cases hfile
    | nothing => rfl
  · rintro rfl
    exact .nothing hnamed hnone

end

/-- The defaults name no directory. -/
theorem orElse_default (directory : Option String) :
    (directory <|> Config.default.schemaDirectory) = directory := by
  cases directory <;> rfl

/-- The settings of the file that is used are what it says over the defaults. -/
theorem fileConfig_eq_ok_iff {c : CommandLine} {files : Files} {userDirectory : Option String}
    {config : Config} :
    c.fileConfig files userDirectory = .ok config ↔
      ∃ file, Uses c files userDirectory file ∧ config = file.onto Config.default := by
  have hoverride : Config.default.override = id := by
    funext next
    unfold Config.override
    rw [orElse_default]
    rfl
  unfold fileConfig Config.find
  rcases hnamed : c.config with _ | path
  · rcases hfind : (Config.candidates userDirectory).find? files.isFile with _ | path
    · simp only [uses_iff_of_not_found hnamed hfind, exists_eq_left]
      show Except.ok Config.default = Except.ok config ↔ config = Config.default
      rw [Except.ok.injEq, eq_comm]
    · simp only [uses_iff_of_found hnamed hfind, ← Config.load_eq_ok_iff, hoverride]
      rcases Config.load files path with e | config' <;> rfl
  · simp only [uses_iff_of_named hnamed, ← Config.load_eq_ok_iff, hoverride]
    rcases Config.load files path with e | config' <;> rfl

/-! ### All layers -/

/-- Settings in which every one is that of the highest layer that says it: the command line,
the environment, a file, and the default. Each of the options on how much is written speaks
for both flags. -/
structure Layered (c : CommandLine) (env : Config.Environment) (file : Config.Layer)
    (config : Config) : Prop where
  timeout : config.timeout =
    (c.timeout <|> (env.lookup "JSON_SCHEMA_TIMEOUT").bind Config.timeout?
      <|> file.timeout).getD 30
  userAgent : config.userAgent =
    (env.lookup "JSON_SCHEMA_USER_AGENT" <|> file.userAgent).getD "json-schema-validator/0.2.0"
  schemaDirectory : config.schemaDirectory =
    (c.schemaDirectory <|> env.lookup "JSON_SCHEMA_DIR" <|> file.schemaDirectory)
  format : config.format =
    (c.format <|> (env.lookup "JSON_SCHEMA_FORMAT").bind Config.format?
      <|> file.format).getD .human
  verbose : config.verbose =
    if c.verbose then true else if c.quiet then false
    else ((env.lookup "JSON_SCHEMA_VERBOSE").bind Config.flag? <|> file.verbose).getD false
  quiet : config.quiet =
    if c.quiet then true else if c.verbose then false
    else ((env.lookup "JSON_SCHEMA_QUIET").bind Config.flag? <|> file.quiet).getD false

/-- Arguments that are taken do not ask for more and for less to be written. -/
theorem not_verbose_and_quiet {args : List String} {c : CommandLine} (hc : parse args = .ok c) :
    ¬ (c.verbose = true ∧ c.quiet = true) := by
  obtain ⟨r, -, hr⟩ := Config.bind_eq_ok_iff.mp hc
  obtain ⟨g, -, hg⟩ := Config.bind_eq_ok_iff.mp hr
  unfold ofGiven at hg
  split at hg
  · cases hg
  · next hflags =>
    split at hg
    · cases hg
      exact fun hboth => hflags (Bool.and_eq_true_iff.mpr hboth)
    · cases hg

/-- The layers put over each other, from the defaults up. -/
theorem layered_onto {c : CommandLine} (hflags : ¬ (c.verbose = true ∧ c.quiet = true))
    (env : Config.Environment) (file : Config.Layer) :
    Layered c env file (c.layer.onto (env.layer.onto (file.onto Config.default))) := by
  rw [← Config.Layer.onto_join env.layer, ← Config.Layer.onto_join c.layer]
  refine ⟨rfl, rfl, orElse_default _, rfl, ?_, ?_⟩
  -- The layer asks for less before it asks for more, which is the same as long as both are
  -- not asked for.
  · show ((if c.quiet then some false else if c.verbose then some true else none) <|>
      env.layer.verbose <|> file.verbose).getD false = _
    rcases hverbose : c.verbose with _ | _
    · rcases c.quiet with _ | _ <;> rfl
    · rw [if_neg fun hquiet => hflags ⟨hverbose, hquiet⟩]
      rfl
  · show ((if c.quiet then some true else if c.verbose then some false else none) <|>
      env.layer.quiet <|> file.quiet).getD false = _
    rcases c.quiet with _ | _ <;> rcases c.verbose with _ | _ <;> rfl

/-- The layers leave no choice. -/
theorem Layered.unique {c : CommandLine} {env : Config.Environment} {file : Config.Layer}
    {config config' : Config} (h : Layered c env file config) (h' : Layered c env file config') :
    config = config' := by
  rcases config with ⟨timeout, userAgent, schemaDirectory, format, verbose, quiet⟩
  rw [Config.mk.injEq]
  exact ⟨h.timeout.trans h'.timeout.symm, h.userAgent.trans h'.userAgent.symm,
    h.schemaDirectory.trans h'.schemaDirectory.symm, h.format.trans h'.format.symm,
    h.verbose.trans h'.verbose.symm, h.quiet.trans h'.quiet.symm⟩

/-- Settings are put over each other if each of them can be read, and checked at the end. -/
theorem settings_eq_ok_iff_onto {c : CommandLine} {files : Files}
    {userDirectory : Option String} {env : Config.Environment} {config : Config} :
    c.settings files userDirectory env = .ok config ↔
      ∃ file, Uses c files userDirectory file ∧ env.Reads ∧
        config = c.layer.onto (env.layer.onto (file.onto Config.default)) ∧ config.Sound := by
  unfold settings
  rw [Config.bind_eq_ok_iff]
  constructor
  · rintro ⟨base, hbase, hrest⟩
    obtain ⟨merged, hmerged, hchecked⟩ := Config.bind_eq_ok_iff.mp hrest
    obtain ⟨file, huses, rfl⟩ := fileConfig_eq_ok_iff.mp hbase
    obtain ⟨hreads, rfl⟩ := Config.withEnvironment_eq_ok_iff.mp hmerged
    simp only [applyTo_eq] at hchecked
    split at hchecked
    · cases hchecked
    · next hproblem =>
      cases hchecked
      exact ⟨file, huses, hreads, rfl, Config.problem?_eq_none_iff.mp hproblem⟩
  · rintro ⟨file, huses, hreads, rfl, hsound⟩
    refine ⟨_, fileConfig_eq_ok_iff.mpr ⟨file, huses, rfl⟩, ?_⟩
    refine Config.bind_eq_ok_iff.mpr ⟨_, Config.withEnvironment_eq_ok_iff.mpr ⟨hreads, rfl⟩, ?_⟩
    rw [applyTo_eq]
    simp only [Config.problem?_eq_none_iff.mpr hsound]
    rfl

/-- There are settings exactly if the file that is used and the environment can be read, and
what the layers say together is sound. -/
theorem settings_eq_ok_iff {args : List String} {c : CommandLine} (hc : parse args = .ok c)
    (files : Files) (userDirectory : Option String) (env : Config.Environment)
    (config : Config) :
    (c.settings files userDirectory env = .ok config ↔
      ∃ file, Uses c files userDirectory file ∧ env.Reads ∧ Layered c env file config ∧
        config.Sound) ∧
    (c.settings files userDirectory env = .ok config →
      (c.verbose = true → config.verbose = true ∧ config.quiet = false) ∧
      (c.quiet = true → config.verbose = false ∧ config.quiet = true)) := by
  have hflags := not_verbose_and_quiet hc
  have hiff : c.settings files userDirectory env = .ok config ↔
      ∃ file, Uses c files userDirectory file ∧ env.Reads ∧ Layered c env file config ∧
        config.Sound := by
    rw [settings_eq_ok_iff_onto]
    constructor
    · rintro ⟨file, huses, hreads, rfl, hsound⟩
      exact ⟨file, huses, hreads, layered_onto hflags env file, hsound⟩
    · rintro ⟨file, huses, hreads, hlayered, hsound⟩
      exact ⟨file, huses, hreads, hlayered.unique (layered_onto hflags env file), hsound⟩
  refine ⟨hiff, ?_⟩
  intro hok
  obtain ⟨file, -, -, hlayered, -⟩ := hiff.mp hok
  constructor
  · intro hverbose
    have hquiet : ¬ c.quiet = true := fun hquiet => hflags ⟨hverbose, hquiet⟩
    refine ⟨hlayered.verbose.trans (if_pos hverbose), ?_⟩
    rw [hlayered.quiet, if_neg hquiet, if_pos hverbose]
  · intro hquiet
    have hverbose : ¬ c.verbose = true := fun hverbose => hflags ⟨hverbose, hquiet⟩
    refine ⟨?_, hlayered.quiet.trans (if_pos hquiet)⟩
    rw [hlayered.verbose, if_neg hverbose, if_pos hquiet]

/-! ### An example: a file that asks for what cannot be -/

namespace Desk

/-- A text of settings: no time for servers, and nothing to be written on what is valid. -/
def text : String := "[network]\ntimeout_seconds = 0\n[output]\nquiet = true\n"

/-- A directory with a file of settings. -/
def tree : Files.Tree where
  workingDirectory := [Files.pathOf "desk"]
  entries :=
    [([Files.pathOf "desk", Files.pathOf ".json-schema-validator.toml"], .file text.toUTF8)]

/-- What is set around the program. -/
def env : Config.Environment := [("JSON_SCHEMA_TIMEOUT", "5"), ("JSON_SCHEMA_FORMAT", "JSON")]

/-- What the file says. -/
def file : Config.Layer := { timeout := some 0, quiet := some true }

/-- What is asked for: as much as there is to write. -/
def commandLine : CommandLine := ⟨"s.json", ["d.json"], none, none, none, none, true, false⟩

/-- What comes of it. -/
def config : Config := ⟨5, "json-schema-validator/0.2.0", none, .json, true, false⟩

theorem ofText?_text : Config.Layer.ofText? (some "toml") text = some file := by
  have hparse : Toml.parse? text = some
      [("network", .table .header [("timeout_seconds", .integer 0)]),
        ("output", .table .header [("quiet", .boolean true)])] := by cbv
  show (Toml.parse? text).bind _ = some file
  rw [hparse]
  rfl

/-- The third of the names is the first one that is there. -/
theorem uses_file : Uses commandLine tree.files none file := by
  have hfind : tree.files.find (Files.pathOf "./.json-schema-validator.toml")
      = .ok ⟨Files.pathOf "/desk/.json-schema-validator.toml", .file text.toUTF8⟩ := by cbv
  have hfirst : (Config.candidates none).find? tree.files.isFile
      = some "./.json-schema-validator.toml" := by cbv
  have htext : String.fromUTF8? text.toUTF8 = some text := dif_pos text.isValidUTF8
  have hending : Config.ending? "./.json-schema-validator.toml" = some "toml" := by cbv
  exact (uses_iff_of_found rfl hfirst).mpr
    ⟨_, _, _, hfind, htext, hending ▸ ofText?_text⟩

/-- The timeout in the file is not sound and its quiet output is not asked for, and neither
counts. -/
theorem settings_of_desk :
    parse ["-v", "s.json", "d.json"] = .ok commandLine ∧
      commandLine.settings tree.files none env = .ok config ∧
      config.verbose = true ∧ config.quiet = false := by
  have hparse : parse ["-v", "s.json", "d.json"] = .ok commandLine := by cbv
  have htimeout : Config.timeout? "5" = some 5 := rfl
  have hformat : Config.format? "JSON" = some .json := by cbv
  have hreads : env.Reads := by
    constructor
    · rintro _ ⟨⟩
      rw [htimeout]
      rfl
    · rintro _ ⟨⟩
    · rintro _ ⟨⟩
    · rintro _ ⟨⟩
      rw [hformat]
      rfl
  have hlayered : Layered commandLine env file config := by
    refine ⟨?_, rfl, rfl, ?_, rfl, rfl⟩
    · show 5 = (none <|> Config.timeout? "5" <|> some 0).getD 30
      rw [htimeout]
      rfl
    · show .json = (none <|> Config.format? "JSON" <|> none).getD .human
      rw [hformat]
      rfl
  have hsound : config.Sound := ⟨by decide, ⟨'j', by decide, by decide⟩, by decide⟩
  obtain ⟨hiff, hflags⟩ := settings_eq_ok_iff hparse tree.files none env config
  have hok := hiff.mpr ⟨file, uses_file, hreads, hlayered, hsound⟩
  exact ⟨hparse, hok, (hflags hok).1 rfl⟩

end Desk

end CommandLine
end DraftSchema
