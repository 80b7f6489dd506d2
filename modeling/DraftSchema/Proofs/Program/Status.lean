import DraftSchema.Program
import DraftSchema.Proofs.Session.Checks
import Mathlib

/-!
# `DraftSchema.Proofs.Program.Status`: what a run of the program comes to

A run whose arguments are taken either fails before it comes to documents
(`Program.Fails`) or has settings, a schema and a session in which the schema was compiled
(`Program.Comes`). In the second case every document is reported on in that session, and
passes or not (`Document.Passes`). The theorems:

* `passes_iff`: what the report on a document says of it.
* `allValid_ofReports_iff`: when a summary counts valid documents only.
* `fails_or_comes`: a run fails, or it comes to documents.
* `run_of_fails` and `run_of_comes`: what the run comes to in the two cases.
* `run_status`: the status tells the two cases and the documents apart, and settings of the
  output have no part in it.
-/

set_option autoImplicit false

namespace DraftSchema

/-! ### Documents -/

namespace Document

variable {files : Files} {node : Node} {s : Session} {path : String}

/-- The path leads to a file with the text of a value that violates nothing. -/
def Passes (files : Files) (node : Node) (s : Session) (path : String) : Prop :=
  ∃ canonical bytes text document,
    files.find (Files.pathOf path) = .ok ⟨canonical, .file bytes⟩ ∧
    String.fromUTF8? bytes = some text ∧ Json.parse? text = some document ∧
    ((Session.validate files.source node document).run s).1 = []

/-- A value is read from a file with its text in UTF-8. -/
theorem read_eq_ok_iff {document : Json} : read files path = .ok document ↔
    ∃ canonical bytes text, files.find (Files.pathOf path) = .ok ⟨canonical, .file bytes⟩ ∧
      String.fromUTF8? bytes = some text ∧ Json.parse? text = some document := by
  unfold read Files.read
  rcases hfind : files.find (Files.pathOf path) with e | ⟨canonical, bytes | _⟩
  · simp
  · rcases htext : String.fromUTF8? bytes with _ | text
    · simp [htext]
    · rcases hparse : Json.parse? text with _ | v <;> simp [htext, hparse]
  · simp

/-- The report on a document that was read. -/
theorem run_report_of_read {document : Json} (h : read files path = .ok document) :
    (report files node path).run s
      = (.ofViolations path ((Session.validate files.source node document).run s).1,
          ((Session.validate files.source node document).run s).2) := by
  rw [report, h]
  rfl

/-- The report on a document that was not read. -/
theorem run_report_of_error {reason : String} (h : read files path = .error reason) :
    (report files node path).run s = (.unreadable path reason, s) := by
  rw [report, h]
  rfl

/-- The report on a document counts it as valid exactly if the document passes. -/
theorem passes_iff :
    ((((report files node path).run s).1.readError.isNone
      && ((report files node path).run s).1.valid) = true) ↔ Passes files node s path := by
  rcases hread : read files path with reason | document
  · rw [run_report_of_error hread]
    refine iff_of_false (by simp [Report.unreadable]) ?_
    rintro ⟨canonical, bytes, text, document, hfind, htext, hparse, -⟩
    rw [read_eq_ok_iff.mpr ⟨canonical, bytes, text, hfind, htext, hparse⟩] at hread
    cases hread
  · rw [run_report_of_read hread]
    obtain ⟨canonical, bytes, text, hfind, htext, hparse⟩ := read_eq_ok_iff.mp hread
    simp only [Report.ofViolations, Option.isNone_none, Bool.true_and, List.isEmpty_iff]
    refine ⟨fun hnil => ⟨canonical, bytes, text, document, hfind, htext, hparse, hnil⟩, ?_⟩
    rintro ⟨canonical', bytes', text', document', hfind', htext', hparse', hnil⟩
    -- A file has one text, and a text spells one value.
    have hread' := read_eq_ok_iff.mpr ⟨canonical', bytes', text', hfind', htext', hparse'⟩
    rw [hread] at hread'
    cases hread'
    exact hnil

/-- A report leaves a session as it was that has all that the schema refers to. -/
theorem session_report (hsound : s.registry.Sound) (hclosed : node.ClosedIn s.registry) :
    ((report files node path).run s).2 = s := by
  rcases hread : read files path with reason | document
  · rw [run_report_of_error hread]
  · rw [run_report_of_read hread, Session.run_validate hsound hclosed]

/-- The reports on some documents are those on each of them, in their order. -/
theorem run_mapM_report (hsound : s.registry.Sound) (hclosed : node.ClosedIn s.registry)
    (paths : List String) :
    (paths.mapM (report files node)).run s
      = (paths.map fun path => ((report files node path).run s).1, s) := by
  induction paths with
  | nil => rfl
  | cons path rest ih =>
    have hkept : ((report files node path).run s).2 = s := session_report hsound hclosed
    rw [List.mapM_cons, StateT.run_bind, List.map_cons]
    show (StateT.run (_ >>= _) ((report files node path).run s).2) = _
    rw [hkept, StateT.run_bind, ih]
    rfl

end Document

/-- A summary counts valid documents only exactly if all documents were read and found
valid. -/
theorem Summary.allValid_ofReports_iff (reports : List Report) :
    (Summary.ofReports reports).allValid = true ↔
      ∀ r ∈ reports, (r.readError.isNone && r.valid) = true := by
  show decide (reports.countP (fun r => r.readError.isNone && r.valid) = reports.length) = true ↔ _
  rw [decide_eq_true_iff, List.countP_eq_length]

/-! ### Runs -/

namespace Program

variable {s : Surroundings} {c : CommandLine}

/-- The run does not come to documents: what is asked for cannot be, there are no settings,
the schema is not found, or it is not compiled. -/
inductive Fails (s : Surroundings) (c : CommandLine) : Prop where
  | commandLine {p : CommandLine.Problem} (h : c.problem? s.files = some p)
  | settings {e : Config.Error} (h : c.settings s.files s.userDirectory s.env = .error e)
  | lookup {config : Config} {e : SchemaError}
      (hsettings : c.settings s.files s.userDirectory s.env = .ok config)
      (h : Lookup.resolve s.files config.schemaDirectory c.schema = .error e)
  | compile {config : Config} {location : Url} {e : SchemaError}
      (hsettings : c.settings s.files s.userDirectory s.env = .ok config)
      (hlookup : Lookup.resolve s.files config.schemaDirectory c.schema = .ok location)
      (h : ((Session.compile s.files.source location).run .start).1 = .error e)

/-- The run comes to documents, with the session in which their schema was compiled. -/
structure Comes (s : Surroundings) (c : CommandLine) (config : Config) (node : Node)
    (session : Session) : Prop where
  commandLine : c.problem? s.files = none
  settings : c.settings s.files s.userDirectory s.env = .ok config
  schema : ∃ location, Lookup.resolve s.files config.schemaDirectory c.schema = .ok location ∧
    (Session.compile s.files.source location).run .start = (.ok node, session)

variable {config : Config} {node : Node} {session : Session}

/-- A run that comes to documents does not fail. -/
theorem Comes.not_fails (h : Comes s c config node session) : ¬ Fails s c := by
  obtain ⟨location, hlocation, hcompile⟩ := h.schema
  intro hfails
  cases hfails with
  | commandLine hproblem => simp [h.commandLine] at hproblem
  | settings herror => simp [h.settings] at herror
  | lookup hsettings herror =>
    rw [h.settings] at hsettings
    cases hsettings
    simp [hlocation] at herror
  | compile hsettings hlookup herror =>
    rw [h.settings] at hsettings
    cases hsettings
    rw [hlocation] at hlookup
    cases hlookup
    simp [hcompile] at herror

/-- The documents are reported on in the order of the arguments. -/
theorem run_reports {files : Files} {location : Url}
    (h : (Session.compile files.source location).run .start = (.ok node, session))
    (paths : List String) :
    ((Document.reports files location paths).run .start).1
      = .ok (paths.map fun path => ((Document.report files node path).run session).1) := by
  have hget : (Session.get? files.source location).run .start = (.ok node, session) := by
    rw [Session.run_get?, h]
  rw [Session.run_compile] at h
  obtain ⟨hresult, rfl⟩ := Prod.mk.inj h
  -- What was compiled is registered with all that it refers to.
  have hsound : (Compilation.compile files.source Session.start.registry location).registry.Sound :=
    Compilation.sound_compile Registry.sound_empty location
  have hclosed := hsound.closed location node (Compilation.get?_of_compile hresult)
  rw [Document.reports, StateT.run_bind, hget]
  show ((do
    let reports ← paths.mapM (Document.report files node)
    return Except.ok reports : StateM Session (Except SchemaError (List Report))).run _).1 = _
  rw [StateT.run_bind, Document.run_mapM_report hsound hclosed]
  rfl

/-- Nothing is reported where the schema is not compiled. -/
theorem run_reports_of_error {files : Files} {location : Url} {e : SchemaError}
    (h : ((Session.compile files.source location).run .start).1 = .error e)
    (paths : List String) : ((Document.reports files location paths).run .start).1 = .error e := by
  rcases hcompile : (Session.compile files.source location).run .start with ⟨result, session⟩
  rw [hcompile] at h
  cases h
  rw [Document.reports, StateT.run_bind, Session.run_get?, hcompile]
  rfl

/-- Where the schema is found, the rest is what the reports come to. -/
theorem check_of_location {location : Url} (hproblem : c.problem? s.files = none)
    (hsettings : c.settings s.files s.userDirectory s.env = .ok config)
    (hlookup : Lookup.resolve s.files config.schemaDirectory c.schema = .ok location) :
    (check s c).1 = match ((Document.reports s.files location c.documents).run .start).1 with
      | .error e => .error (.compile location e)
      | .ok reports => .ok ⟨config, reports⟩ := by
  simp only [check, hproblem, hsettings, hlookup]
  rcases (Document.reports s.files location c.documents).run .start with ⟨_ | _, _⟩ <;> rfl

/-- A run that comes to documents reports on all of them. -/
theorem Comes.check_eq (h : Comes s c config node session) :
    (check s c).1 = .ok ⟨config,
      c.documents.map fun path => ((Document.report s.files node path).run session).1⟩ := by
  obtain ⟨location, hlookup, hcompile⟩ := h.schema
  rw [check_of_location h.commandLine h.settings hlookup, run_reports hcompile]

/-- A run fails, or it comes to documents. -/
theorem fails_or_comes (s : Surroundings) (c : CommandLine) :
    (Fails s c ∧ ∃ f, (check s c).1 = .error f) ∨
      ∃ config node session, Comes s c config node session := by
  rcases hproblem : c.problem? s.files with _ | p
  · rcases hsettings : c.settings s.files s.userDirectory s.env with e | config
    · exact .inl ⟨.settings hsettings, .config e, by simp only [check, hproblem, hsettings]⟩
    · rcases hlookup : Lookup.resolve s.files config.schemaDirectory c.schema with e | location
      · exact .inl ⟨.lookup hsettings hlookup, .lookup c.schema e, by
          simp only [check, hproblem, hsettings, hlookup]⟩
      · rcases hcompile : (Session.compile s.files.source location).run .start with
          ⟨e | node, session⟩
        · have hfailed := congrArg Prod.fst hcompile
          refine .inl ⟨.compile hsettings hlookup hfailed, .compile location e, ?_⟩
          rw [check_of_location hproblem hsettings hlookup, run_reports_of_error hfailed]
        · exact .inr ⟨config, node, session,
            ⟨hproblem, hsettings, location, hlookup, hcompile⟩⟩
  · exact .inl ⟨.commandLine hproblem, .commandLine p, by simp only [check, hproblem]⟩

/-- Runs that come to documents with one set of files, one name for the schema and one
directory of schemas come to them with the same node and session. -/
theorem Comes.unique (h : Comes s c config node session) {s' : Surroundings} {c' : CommandLine}
    {config' : Config} {node' : Node} {session' : Session}
    (h' : Comes s' c' config' node' session') (hfiles : s'.files = s.files)
    (hschema : c'.schema = c.schema)
    (hdirectory : config'.schemaDirectory = config.schemaDirectory) :
    node' = node ∧ session' = session := by
  obtain ⟨location, hlookup, hcompile⟩ := h.schema
  obtain ⟨location', hlookup', hcompile'⟩ := h'.schema
  rw [hfiles, hschema, hdirectory, hlookup] at hlookup'
  cases hlookup'
  rw [hfiles, hcompile] at hcompile'
  cases hcompile'
  exact ⟨rfl, rfl⟩

section

variable {args : List String} (hargs : CommandLine.parse args = .ok c)

include hargs

/-- A run that fails has status 2 and writes nothing. -/
theorem run_of_fails (h : Fails s c) : (run s args).status = 2 ∧ (run s args).output = "" := by
  rcases fails_or_comes s c with ⟨-, f, hcheck⟩ | ⟨config, node, session, hcomes⟩
  · have hrun : run s args = ⟨statusFailure, "", f.message ++ "\n"⟩ := by
      simp only [run, hargs, hcheck]
    rw [hrun]
    exact ⟨rfl, rfl⟩
  · exact absurd h hcomes.not_fails

/-- A run that comes to documents writes the reports on them, and its status tells whether
all of them pass. -/
theorem run_of_comes (h : Comes s c config node session) :
    (run s args).output = Report.render config.format config.verbosity
      (c.documents.map fun path => ((Document.report s.files node path).run session).1) ∧
    ((∀ path ∈ c.documents, Document.Passes s.files node session path) →
      (run s args).status = 0) ∧
    ((¬ ∀ path ∈ c.documents, Document.Passes s.files node session path) →
      (run s args).status = 1) := by
  have hrun : run s args = Outcome.result ⟨config,
      c.documents.map fun path => ((Document.report s.files node path).run session).1⟩ := by
    simp only [run, hargs, h.check_eq]
  have hall : (Summary.ofReports (c.documents.map fun path =>
      ((Document.report s.files node path).run session).1)).allValid = true ↔
        ∀ path ∈ c.documents, Document.Passes s.files node session path := by
    rw [Summary.allValid_ofReports_iff, List.forall_mem_map]
    exact forall₂_congr fun path _ => Document.passes_iff
  rw [hrun]
  refine ⟨rfl, fun hpass => ?_, fun hpass => ?_⟩
  · exact if_pos (hall.mpr hpass)
  · exact if_neg fun hvalid => hpass (hall.mp hvalid)

/-- A run with arguments that are taken has status 2 and writes nothing exactly if it fails
before it comes to documents. Otherwise it writes the reports on the documents, in the order
of the arguments, and its status is 0 if every document is in a file, is JSON in UTF-8 and
violates nothing, else 1. It is the same for every run that comes to documents with the same
files, schema, documents and directory of schemas, however the output is set. -/
theorem run_status :
    ((run s args).status = 2 ∧ (run s args).output = "" ↔ Fails s c) ∧
    (¬ Fails s c → ∃ config node session, Comes s c config node session) ∧
    ∀ config node session, Comes s c config node session →
      (run s args).output = Report.render config.format config.verbosity
        (c.documents.map fun path => ((Document.report s.files node path).run session).1) ∧
      ((∀ path ∈ c.documents, Document.Passes s.files node session path) →
        (run s args).status = 0) ∧
      ((¬ ∀ path ∈ c.documents, Document.Passes s.files node session path) →
        (run s args).status = 1) ∧
      ∀ (s' : Surroundings) (args' : List String) (c' : CommandLine) (config' : Config)
        (node' : Node) (session' : Session), CommandLine.parse args' = .ok c' →
        Comes s' c' config' node' session' → s'.files = s.files → c'.schema = c.schema →
        c'.documents = c.documents → config'.schemaDirectory = config.schemaDirectory →
          (run s' args').status = (run s args).status := by
  refine ⟨⟨fun hstatus => ?_, run_of_fails hargs⟩, fun hfails => ?_, ?_⟩
  · rcases fails_or_comes s c with ⟨hfails, -⟩ | ⟨config, node, session, hcomes⟩
    · exact hfails
    · -- A run that comes to documents has one of the other two.
      obtain ⟨-, hzero, hone⟩ := run_of_comes hargs hcomes
      by_cases hpass : ∀ path ∈ c.documents, Document.Passes s.files node session path
      · simp [hzero hpass] at hstatus
      · simp [hone hpass] at hstatus
  · rcases fails_or_comes s c with ⟨h, -⟩ | hcomes
    · exact absurd h hfails
    · exact hcomes
  · intro config node session hcomes
    obtain ⟨houtput, hzero, hone⟩ := run_of_comes hargs hcomes
    refine ⟨houtput, hzero, hone, ?_⟩
    intro s' args' c' config' node' session' hargs' hcomes' hfiles hschema hdocuments hdirectory
    obtain ⟨rfl, rfl⟩ := hcomes.unique hcomes' hfiles hschema hdirectory
    obtain ⟨-, hzero', hone'⟩ := run_of_comes hargs' hcomes'
    rw [hfiles, hdocuments] at hzero' hone'
    by_cases hpass : ∀ path ∈ c.documents, Document.Passes s.files node' session' path
    · rw [hzero hpass, hzero' hpass]
    · rw [hone hpass, hone' hpass]

end

end Program

/-! ### An example: one file -/

namespace OneFile

/-- Files of which there is one: an object without members. -/
def files : Files where
  find path :=
    if path = Files.pathOf "/any" then .ok ⟨path, .file (Json.object []).compact.toUTF8⟩
    else .error .notFound

/-- Where the file is. -/
def location : Url := ⟨"file", some ⟨"", "", none, none⟩, "/any", none, none⟩

/-- What is around the program besides the file: nothing. -/
def surroundings : Program.Surroundings := ⟨files, [], none⟩

/-- The file is the schema and the first document, and the second document is in no file. -/
def commandLine : CommandLine :=
  ⟨"/any", ["/any", "/gone"], none, none, none, none, false, false⟩

/-- No file has settings. -/
theorem settings_commandLine : commandLine.settings files none [] = .ok .default := by
  have hfind : Config.find files none = .ok none := by
    have hcandidates : (Config.candidates none).find? files.isFile = none := by cbv
    rw [Config.find, hcandidates]
  have hfile : commandLine.fileConfig files none = .ok .default := by
    show (Config.find files none).map _ = _
    rw [hfind]
    rfl
  have hproblem : Config.default.problem? = none := by
    have hagent : Config.default.userAgent.toList.all Unicode.Property.isSpace = false := by
      decide
    rw [Config.problem?, hagent]
    rfl
  have henv : Config.default.withEnvironment [] = .ok .default := rfl
  have happly : commandLine.applyTo .default = .default := rfl
  simp only [CommandLine.settings, hfile, henv, happly, hproblem, bind, Except.bind]
  rfl

theorem find_any : files.find (Files.pathOf "/any")
    = .ok ⟨Files.pathOf "/any", .file (Json.object []).compact.toUTF8⟩ := if_pos rfl

theorem read_source : Compilation.Worklist.read files.source location = .ok (.object []) := by
  have hscheme : location.scheme = "file" := rfl
  have hpath : location.filePath? = some (Files.pathOf "/any") := by cbv
  have hread : files.read (Files.pathOf "/any") = .ok (Json.object []).compact := by
    have htext : String.fromUTF8? (Json.object []).compact.toUTF8
        = some (Json.object []).compact := dif_pos (Json.object []).compact.isValidUTF8
    simp only [Files.read, find_any, htext]
  have hparse : Json.parse? (Json.object []).compact = some (.object []) := by cbv
  have hfetch : files.source.fetch location = .ok (Json.object []).compact := by
    show files.fetch location = _
    rw [Files.fetch, if_pos hscheme, hpath]
    simp only [hread]
  simp only [Compilation.Worklist.read, hfetch, hparse]

/-- A schema without keywords is that of every value. -/
theorem compile_source : Compilation.compile files.source ∅ location
    = ⟨[location], ⟨[(location, .any)]⟩, .ok .any⟩ := by
  have helaborate : Node.elaborate location (.object []) = .ofExcept (.ok .any) := by
    rw [Node.elaborate.eq_def]
    rfl
  have hloop : Compilation.findLoop? ∅ [(location, .any)] = none := by cbv
  have hplain : location.withoutFragment = location := rfl
  have hcompile := Compilation.compile_single hplain rfl (by decide) read_source
    (by rw [helaborate]; rfl) (by simp [helaborate]) hloop
  rw [hcompile, Registry.register, Registry.has_empty, hplain]
  rfl

theorem comes : Program.Comes surroundings commandLine .default .any
    ⟨⟨[(location, .any)]⟩, [location]⟩ where
  commandLine := rfl
  settings := settings_commandLine
  schema := by
    have hlookup : Lookup.resolve files none "/any" = .ok location := by
      have hurl : (Url.parse "/any").toOption = none := by cbv
      have hlocation : Url.ofFilePath (Files.pathOf "/any") = location := by cbv
      have hfile : Lookup.fileLocation? files "/any" = some location := by
        rw [Lookup.fileLocation?, find_any]
        exact congrArg some hlocation
      unfold Lookup.resolve
      rw [hurl, hfile]
      rfl
    refine ⟨location, hlookup, ?_⟩
    show (Session.compile files.source location).run .start = _
    have hstart : Session.start.registry = ∅ := rfl
    rw [Session.run_compile, hstart, compile_source]
    rfl

/-- One document that is in no file is enough for the status of documents that do not
pass. -/
theorem status_missing_document :
    (Program.run surroundings ["/any", "/any", "/gone"]).status = 1 := by
  have hargs : CommandLine.parse ["/any", "/any", "/gone"] = .ok commandLine := rfl
  obtain ⟨-, -, hcomes⟩ := Program.run_status (s := surroundings) hargs
  obtain ⟨-, -, hone, -⟩ := hcomes _ _ _ comes
  refine hone fun hpass => ?_
  obtain ⟨canonical, bytes, text, document, hfind, -⟩ := hpass "/gone" (by simp [commandLine])
  have hnone : files.find (Files.pathOf "/gone") = .error .notFound := by cbv
  rw [show surroundings.files = files from rfl, hnone] at hfind
  cases hfind

end OneFile

end DraftSchema
