import DraftSchema.Program

/-!
# `DraftSchema.Program.Paths`: which files a run looks at

The files that a run looks at are known only as the run goes on: settings tell
where schemas are, and schemas refer to schemas. `Program.paths` lists what a run
looks at with the files that are known so far. Once all of them are known, the
run has seen everything that it looks at.
-/

set_option autoImplicit false

namespace DraftSchema

/-- What is known of some paths. -/
abbrev Files.Known := List (Files.Path × Except Files.Error Files.Found)

/-- The files that are known; others do not exist. -/
def Files.ofKnown (known : Files.Known) : Files where
  find path := (known.lookup path).getD (.error .notFound)

namespace Program

/-- The paths on which settings are looked for. -/
def settingsPaths (s : Surroundings) (c : CommandLine) : List String :=
  match c.config with
  | some path => [path]
  | none => Config.candidates s.userDirectory

/-- The paths on which the schema is looked for. -/
def schemaPaths (s : Surroundings) (c : CommandLine) : List String :=
  match c.settings s.files s.userDirectory s.env with
  | .error _ => []
  | .ok config =>
    let named := config.schemaDirectory.map fun d =>
      [Files.join d c.schema, Files.join d (c.schema ++ ".json")]
    c.schema :: named.getD []

/-- The paths that a run looks at. -/
def paths (s : Surroundings) (c : CommandLine) : List Files.Path :=
  let texts := c.schemaDirectory.toList ++ settingsPaths s c ++ schemaPaths s c ++ c.documents
  texts.map Files.pathOf ++ (check s c).2.filterMap Url.filePath?

end Program
end DraftSchema
