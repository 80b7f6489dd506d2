import DraftSchema.Url.File

/-!
# `DraftSchema.Lookup`: from what a user calls a schema to its location

A user names a schema by its location, by the path of its file, or by its name
in a directory of schemas, where the ending `.json` may be left out. These are
tried in this order. The location of a file is that of its canonical path.
-/

set_option autoImplicit false

namespace DraftSchema.Lookup

/-- The location of the file that a path leads to. -/
def fileLocation? (files : Files) (path : String) : Option Url :=
  match files.find (Files.pathOf path) with
  | .ok ⟨canonical, .file _⟩ => some (Url.ofFilePath canonical)
  | _ => none

/-- The location of a schema that is named in a directory. -/
def inDirectory (files : Files) (directory name : String) : Except SchemaError Url :=
  let path := Files.join directory name
  let withExtension := Files.join directory (name ++ ".json")
  match fileLocation? files path <|> fileLocation? files withExtension with
  | some u => .ok u
  | none => .error (.notFound path)

/-- The location of the schema that a user names. -/
def resolve (files : Files) (directory : Option String) (name : String) :
    Except SchemaError Url :=
  let asUrl : Option Url := (Url.parse name).toOption.filter Url.isFetchable
  match asUrl.map Url.withoutFragment <|> fileLocation? files name with
  | some u => .ok u
  | none =>
    match directory with
    | some directory => inDirectory files directory name
    | none => .error (.notFound name)

end DraftSchema.Lookup
