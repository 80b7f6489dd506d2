import DraftSchema.Files

/-!
# `DraftSchema.Files.Tree`: files that are known

A tree lists files and directories by their place under the root; the
directories on the way to a place exist with it. A path is followed component by
component: every component but the last one must be a directory, a component `.`
leads nowhere else and `..` one directory up.
-/

set_option autoImplicit false

namespace DraftSchema.Files

/-- The name of a file or directory. -/
abbrev Name := List UInt8

/-- Files and directories by their place under the root. -/
structure Tree where
  /-- The directory in which relative paths start. -/
  workingDirectory : List Name
  entries : List (List Name × Content)

/-- The most bytes that a name has. -/
def nameLimit : Nat := 255

/-- Every path has fewer bytes than this. -/
def pathLimit : Nat := 4096

/-- The components of a path; two slashes have an empty one in between. -/
def components : Path → List Name
  | [] => [[]]
  | b :: rest =>
    match components rest with
    | [] => [[]]
    | name :: more => if b = slash then [] :: name :: more else (b :: name) :: more

/-- The component that leads nowhere else. -/
def here : Name := [46]

/-- The component that leads one directory up. -/
def up : Name := [46, 46]

namespace Tree

/-- What is at a place. -/
def content? (tree : Tree) (place : List Name) : Option Content :=
  match tree.entries.find? fun e => e.1 = place with
  | some e => some e.2
  | none =>
    if place.isEmpty || tree.entries.any (fun e => place.isPrefixOf e.1)
        || place.isPrefixOf tree.workingDirectory then
      some .directory
    else none

/-- There is a directory at a place. -/
def isDirectoryAt (tree : Tree) (place : List Name) : Bool :=
  match tree.content? place with
  | some .directory => true
  | _ => false

/-- The place that components lead to. -/
def walk (tree : Tree) (place : List Name) : List Name → Except Error (List Name)
  | [] => .ok place
  | name :: rest =>
    if !tree.isDirectoryAt place then .error .notADirectory
    -- An empty component asks for a directory, and so do the two kinds of points.
    else if name = [] ∨ name = here then tree.walk place rest
    else if name = up then tree.walk place.dropLast rest
    else if nameLimit < name.length then .error .nameTooLong
    else if (tree.content? (place ++ [name])).isNone then .error .notFound
    else tree.walk (place ++ [name]) rest

/-- The path from the root to a place. -/
def pathTo (place : List Name) : Path :=
  match place with
  | [] => [slash]
  | _ => place.flatMap (slash :: ·)

/-- What a path leads to. -/
def find (tree : Tree) (path : Path) : Except Error Found :=
  if path.contains 0 then .error .nulInName
  else if path.isEmpty then .error .notFound
  else if pathLimit ≤ path.length then .error .nameTooLong
  else do
    let place ← tree.walk (if isAbsolute path then [] else tree.workingDirectory) (components path)
    match tree.content? place with
    | some content => return ⟨pathTo place, content⟩
    | none => .error .notFound

/-- The files of a tree. -/
def files (tree : Tree) : Files := ⟨tree.find⟩

end Tree
end DraftSchema.Files
