import DraftSchema.Files
import DraftSchema.Source

/-!
# `DraftSchema.Url.File`: locations of files

The path of a file's location has the same components as the path of the file,
each percent-encoded. A location with a host is no location of a file here.
-/

set_option autoImplicit false

namespace DraftSchema

namespace Url

/-- A letter and the mark of a drive at the end of a path, which needs a slash
behind it. -/
def endsInDrive (path : Files.Path) : Bool :=
  match path.reverse with
  | mark :: letter :: _ :: _ =>
    (mark = 58 || mark = 124) && (Char.ofNat letter.toNat).isAlpha
  | _ => false

/-- The path of the file at a location. -/
def filePath? (u : Url) : Option Files.Path :=
  match u.authority with
  | none => none
  | some a =>
    if a.host.isSome then none
    else
      let path := Percent.decode u.path.toList
      some (if endsInDrive path then path ++ [Files.slash] else path)

/-- One byte of the name of a file inside a location. -/
def fileNameByte (b : UInt8) : List Char :=
  let c := Char.ofNat b.toNat
  if b.toNat < 128 ∧ (b = Files.slash ∨ !Percent.inSegment c) then [c] else Percent.byteChars b

/-- The location of the file with a path from the root. -/
def ofFilePath (path : Files.Path) : Url :=
  ⟨"file", some ⟨"", "", none, none⟩, String.ofList (path.flatMap fileNameByte), none, none⟩

end Url

namespace Files

/-- A bound on the documents that one compilation takes from files. It is there
for the recursion over the source alone: no program holds so many documents at a
time. If no more files than that can be read, the source states its size rightly
(`Source.Sized`), and no compilation comes to the bound. -/
def documentLimit : Nat := Nat.pow 2 32

/-- The text of the file at a location. Only files are read: no server is asked for
a schema, as if none could be reached. -/
def fetch (files : Files) (u : Url) : Except FetchError String :=
  if u.scheme = "file" then
    match u.filePath? with
    | none => .error .notFound
    | some path =>
      match files.read path with
      | .ok text => .ok text
      | .error .notFound => .error .notFound
      | .error e => .error (.failed e.message)
  else if u.isFetchable then .error (.transport "remote schemas are not available")
  else .error (.unsupportedScheme u.scheme)

/-- The source of the schemas in files. -/
def source (files : Files) : Source := ⟨files.fetch, documentLimit⟩

end Files
end DraftSchema
