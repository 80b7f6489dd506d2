/-!
# `DraftSchema.Files`: reading files by path

A path is a run of bytes. `Files` tells what a path leads to; everything that is
done with files is said in terms of that. Texts must be encoded in UTF-8.
-/

set_option autoImplicit false

namespace DraftSchema

namespace Files

/-- A path, as the bytes of its text. -/
abbrev Path := List UInt8

/-- The path with a text. -/
def pathOf (text : String) : Path := text.toUTF8.toList

/-- The byte of the slash, which parts the components of a path. -/
def slash : UInt8 := 47

/-- The path starts at the root. -/
def isAbsolute (path : Path) : Bool := path.head? = some slash

/-- The text of the path to `name` in the directory `base`. -/
def join (base name : String) : String :=
  if isAbsolute (pathOf name) then name
  else
    match base.toList.getLast? with
    | none => name
    | some c => if c = '/' then base ++ name else base ++ "/" ++ name

/-- Why a file cannot be read. -/
inductive Error where
  | notFound
  /-- A component that is not the last one is no directory. -/
  | notADirectory
  | isADirectory
  | nameTooLong
  | nulInName
  /-- The bytes of the file are no text. -/
  | notText
  | other (message : String)
deriving DecidableEq, Repr

/-- The text of an error. -/
def Error.message : Error → String
  | .notFound => "No such file or directory (os error 2)"
  | .notADirectory => "Not a directory (os error 20)"
  | .isADirectory => "Is a directory (os error 21)"
  | .nameTooLong => "File name too long (os error 36)"
  | .nulInName => "file name contained an unexpected NUL byte"
  | .notText => "stream did not contain valid UTF-8"
  | .other message => message

/-- What a path leads to. -/
inductive Content where
  | file (bytes : ByteArray)
  | directory

/-- What was found, with the shortest path that leads there from the root. -/
structure Found where
  canonical : Path
  content : Content

end Files

/-- What paths lead to. -/
structure Files where
  find : Files.Path → Except Files.Error Files.Found

namespace Files

/-- The path leads to a file. -/
def isFile (files : Files) (path : String) : Bool :=
  match files.find (pathOf path) with
  | .ok ⟨_, .file _⟩ => true
  | _ => false

/-- The path leads to a directory. -/
def isDirectory (files : Files) (path : String) : Bool :=
  match files.find (pathOf path) with
  | .ok ⟨_, .directory⟩ => true
  | _ => false

/-- The text of the file that the path leads to. -/
def read (files : Files) (path : Path) : Except Error String :=
  match files.find path with
  | .error e => .error e
  | .ok ⟨_, .directory⟩ => .error .isADirectory
  | .ok ⟨_, .file bytes⟩ =>
    match String.fromUTF8? bytes with
    | some text => .ok text
    | none => .error .notText

end Files
end DraftSchema
