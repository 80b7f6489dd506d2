import DraftSchema.Program.Paths

/-!
# `DraftSchema.Main`: the command line

Looks up what a run asks for, until the run asks for nothing new, and writes what
it has to say.
-/

set_option autoImplicit false

namespace DraftSchema.Main

/-- What a path leads to. -/
def look (path : Files.Path) : IO (Except Files.Error Files.Found) := do
  if path.contains 0 then return .error .nulInName
  match String.fromUTF8? ⟨path.toArray⟩ with
  | none => return .error .notFound
  | some text =>
    try
      let real ← IO.FS.realPath text
      let canonical := Files.pathOf real.toString
      if ← real.isDir then return .ok ⟨canonical, .directory⟩
      else return .ok ⟨canonical, .file (← IO.FS.readBinFile real)⟩
    catch e =>
      match e with
      | .noFileOrDirectory .. => return .error .notFound
      | _ => return .error (.other (toString e))

/-- The variables of the environment that settings are taken from. -/
def variableNames : List String :=
  ["JSON_SCHEMA_TIMEOUT", "JSON_SCHEMA_USER_AGENT", "JSON_SCHEMA_DIR", "JSON_SCHEMA_VERBOSE",
    "JSON_SCHEMA_QUIET", "JSON_SCHEMA_FORMAT"]

/-- The variables that are set. -/
def environment : IO Config.Environment := do
  let values ← variableNames.mapM fun name => do
    return (← IO.getEnv name).map fun value => (name, value)
  return values.filterMap id

/-- The directory with the user's own settings. -/
def userDirectory : IO (Option String) := do
  match (← IO.getEnv "XDG_CONFIG_HOME").filter (·.startsWith "/") with
  | some directory => return some directory
  | none => return (← IO.getEnv "HOME").map fun home => Files.join home ".config"

/-- Looks up paths until a run asks for no others. -/
partial def explore (c : CommandLine) (s : Program.Surroundings) (known : Files.Known) :
    IO Program.Surroundings := do
  let s := { s with files := Files.ofKnown known }
  match (Program.paths s c).find? fun p => (known.lookup p).isNone with
  | none => return s
  | some path => explore c s ((path, ← look path) :: known)

end DraftSchema.Main

open DraftSchema

/-- Runs the program. -/
def main (args : List String) : IO UInt32 := do
  let start : Program.Surroundings :=
    ⟨Files.ofKnown [], ← Main.environment, ← Main.userDirectory⟩
  let s ← match CommandLine.parse args with
    | .ok c => Main.explore c start []
    | .error _ => pure start
  let result := Program.run s args
  IO.print result.output
  IO.eprint result.errors
  return UInt32.ofNat result.status
