import DraftSchema.Lookup
import DraftSchema.Proofs.Files.Walks
import Mathlib

/-!
# `DraftSchema.Proofs.Lookup.Containment`: schemas that are named in a directory

A name stands for the file at its path behind that of the directory, or if there is none, at
this path with the ending `.json` (`NamesFile`). Nothing keeps a name from leading out of the
directory: a path from the root is taken as it is, and `..` leads up. Names of neither kind are
those that stay below the directory (`StaysBelow`). The theorems:

* `decode_path_ofFilePath`: the location of a file spells its canonical path.
* `inDirectory_eq_ok_iff`: a name has a location exactly if it stands for a file.
* `inDirectory_stays_below`: the file is inside the directory if the name stays below it.
* `climbing_names_leave`: other names lead to files elsewhere.
-/

set_option autoImplicit false

namespace DraftSchema

open Files

/-! ### Locations of files -/

namespace Url

theorem hexValue?_hexDigit {n : Nat} (h : n < 16) :
    Json.hexValue? (Percent.hexDigit n) = some n := by
  have hall : ∀ k : Fin 16, Json.hexValue? (Percent.hexDigit k) = some k.val := by decide
  exact hall ⟨n, h⟩

/-- A byte that is written with a percent sign is read back. -/
theorem decode_byteChars (b : UInt8) (rest : List Char) :
    Percent.decode (Percent.byteChars b ++ rest) = b :: Percent.decode rest := by
  have hlt : b.toNat < 256 := b.toNat_lt
  have hbyte : UInt8.ofNat (b.toNat / 16 * 16 + b.toNat % 16) = b := by
    rw [Nat.div_add_mod']
    exact UInt8.ofNat_toNat
  show Percent.decode ('%' :: Percent.hexDigit (b.toNat / 16)
    :: Percent.hexDigit (b.toNat % 16) :: rest) = _
  rw [Percent.decode]
  simp only [hexValue?_hexDigit (show b.toNat / 16 < 16 by omega),
    hexValue?_hexDigit (show b.toNat % 16 < 16 by omega), hbyte]

/-- A character of ASCII other than the percent sign is read as its byte. -/
theorem decode_ascii_cons {b : UInt8} (h : b.toNat < 128) (hpercent : Char.ofNat b.toNat ≠ '%')
    (rest : List Char) :
    Percent.decode (Char.ofNat b.toNat :: rest) = b :: Percent.decode rest := by
  have hall : ∀ k : Fin 128, String.utf8EncodeChar (Char.ofNat k) = [UInt8.ofNat k] := by decide
  have hbyte : String.utf8EncodeChar (Char.ofNat b.toNat) = [b] := by
    rw [hall ⟨b.toNat, h⟩, UInt8.ofNat_toNat]
  rw [Percent.decode, hbyte]
  · rfl
  · intro a c more heq
    exact absurd heq hpercent

/-- The location of a file spells its path. -/
theorem decode_path_ofFilePath (path : Files.Path) :
    Percent.decode (ofFilePath path).path.toList = path := by
  show Percent.decode (String.ofList (path.flatMap fileNameByte)).toList = path
  rw [String.toList_ofList]
  induction path with
  | nil => rfl
  | cons b rest ih =>
    rw [List.flatMap_cons, fileNameByte]
    split
    · rename_i hkept
      have hpercent : Char.ofNat b.toNat ≠ '%' := by
        intro heq
        rcases hkept.2 with hslash | hsegment
        · rw [hslash] at heq
          cases heq
        · rw [heq] at hsegment
          cases hsegment
      show Percent.decode (Char.ofNat b.toNat :: rest.flatMap fileNameByte) = _
      rw [decode_ascii_cons hkept.1 hpercent, ih]
    · rw [decode_byteChars, ih]

end Url

/-! ### Names -/

namespace Lookup

/-- A name stands for a file in a directory: for that at the path of the name, or for that with
the ending where the first one is not a file. -/
inductive NamesFile (files : Files) (base name : String) : Files.Path → Prop where
  | plain {file : Files.Path} {bytes : ByteArray}
      (h : files.find (pathOf (join base name)) = .ok ⟨file, .file bytes⟩) :
      NamesFile files base name file
  | withEnding {file : Files.Path} {bytes : ByteArray}
      (hnone : files.isFile (join base name) = false)
      (h : files.find (pathOf (join base (name ++ ".json"))) = .ok ⟨file, .file bytes⟩) :
      NamesFile files base name file

/-- The name is no path from the root, and on the way along its components it was never led
up more often than down. -/
def StaysBelow (name : String) : Prop :=
  isAbsolute (pathOf name) = false ∧ StaysWithin (components (pathOf name))

/-- A name that stays below a directory does so with the ending. -/
theorem StaysBelow.withEnding {name : String} (h : StaysBelow name) :
    StaysBelow (name ++ ".json") := by
  obtain ⟨hrelative, hstays⟩ := h
  have hending : pathOf ".json" = [46, 106, 115, 111, 110] := pathOf_eq ".json"
  have hslash : slash ∉ pathOf ".json" := by
    rw [hending]
    decide
  obtain ⟨front, last, hname, hboth⟩ := components_append_of_noSlash (pathOf name) hslash
  refine ⟨?_, ?_⟩
  · rw [pathOf_append, hending]
    rcases hpath : pathOf name with _ | ⟨b, rest⟩
    · decide
    · rw [hpath] at hrelative
      exact hrelative
  · rw [pathOf_append, hboth]
    rw [hname] at hstays
    have hlast : last ++ pathOf ".json" ≠ up := by
      intro heq
      have hlength := congrArg List.length heq
      rw [hending, List.length_append] at hlength
      exact absurd hlength (by simp [up])
    intro leading hleading
    rw [List.mem_inits, List.prefix_concat_iff] at hleading
    rcases hleading with rfl | hleading
    · -- The last component does not lead up, whatever it was before the ending.
      have hfront := hstays front ((List.mem_inits _ _).mpr (List.prefix_append front [last]))
      rw [List.count_append, List.countP_append, List.count_singleton, beq_false_of_ne hlast]
      simp only [Bool.false_eq_true, if_false]
      omega
    · refine hstays leading ((List.mem_inits _ _).mpr ?_)
      exact hleading.trans (List.prefix_append front [last])

/-- A file has a location, and what is no file has none. -/
theorem fileLocation?_eq_some_iff {files : Files} {path : String} {url : Url} :
    fileLocation? files path = some url ↔
      ∃ file bytes, files.find (pathOf path) = .ok ⟨file, .file bytes⟩ ∧
        url = Url.ofFilePath file := by
  unfold fileLocation?
  rcases files.find (pathOf path) with e | ⟨canonical, bytes | _⟩ <;> simp [eq_comm]

theorem fileLocation?_eq_none_iff {files : Files} {path : String} :
    fileLocation? files path = none ↔ files.isFile path = false := by
  unfold fileLocation? isFile
  rcases files.find (pathOf path) with e | ⟨canonical, bytes | _⟩ <;> simp

/-- A name has a location in a directory exactly if it stands for a file, and then that of the
file. -/
theorem inDirectory_eq_ok_iff {files : Files} {base name : String} {url : Url} :
    inDirectory files base name = .ok url ↔
      ∃ file, NamesFile files base name file ∧ url = Url.ofFilePath file := by
  have hfound : inDirectory files base name = .ok url ↔
      fileLocation? files (join base name) = some url ∨
        fileLocation? files (join base name) = none ∧
          fileLocation? files (join base (name ++ ".json")) = some url := by
    simp only [inDirectory]
    rcases fileLocation? files (join base name) with _ | u
    · rcases fileLocation? files (join base (name ++ ".json")) with _ | u <;> simp
    · simp
  rw [hfound, fileLocation?_eq_some_iff, fileLocation?_eq_none_iff, fileLocation?_eq_some_iff]
  constructor
  · rintro (⟨file, bytes, h, hurl⟩ | ⟨hnone, file, bytes, h, hurl⟩)
    · exact ⟨file, .plain h, hurl⟩
    · exact ⟨file, .withEnding hnone h, hurl⟩
  · rintro ⟨file, hnames, hurl⟩
    cases hnames with
    | plain h => exact .inl ⟨file, _, h, hurl⟩
    | withEnding hnone h => exact .inr ⟨hnone, file, _, h, hurl⟩

/-- A file that is named by a path behind that of a directory is inside this one, if the path
behind it stays below. -/
theorem inside_of_staysBelow {tree : Tree} {base name : String} {directory file : Files.Path}
    {bytes : ByteArray} (hbase : tree.find (pathOf base) = .ok ⟨directory, .directory⟩)
    (hfile : tree.find (pathOf (join base name)) = .ok ⟨file, .file bytes⟩)
    (hname : StaysBelow name) : Inside directory file := by
  obtain ⟨hne, -⟩ := Tree.exists_place_of_find hbase
  obtain ⟨front, hfront, hjoin⟩ := exists_pathOf_join hne hname.1
  exact inside_of_staysWithin hfront hjoin hbase hfile hname.2

/-- Let the base lead to a directory of a tree. A name has a location exactly if it stands for
a regular file: for that at the path of the base and the name or, only where this one is not a
file, for that with the ending `.json`. The location is the one of the scheme `file` that
spells the canonical path of the file. If the name stays below the base, this path is inside
the canonical path of the base, at any depth. -/
theorem inDirectory_stays_below (tree : Tree) {base : String} {directory : Files.Path}
    (hbase : tree.files.find (pathOf base) = .ok ⟨directory, .directory⟩) (name : String)
    (url : Url) :
    (inDirectory tree.files base name = .ok url ↔
      ∃ file, NamesFile tree.files base name file ∧ url = Url.ofFilePath file) ∧
    (inDirectory tree.files base name = .ok url →
      ∃ file, NamesFile tree.files base name file ∧
        url.scheme = "file" ∧ Url.Percent.decode url.path.toList = file ∧
        (StaysBelow name → Inside directory file)) := by
  refine ⟨inDirectory_eq_ok_iff, ?_⟩
  intro hok
  obtain ⟨file, hnames, rfl⟩ := inDirectory_eq_ok_iff.mp hok
  refine ⟨file, hnames, rfl, Url.decode_path_ofFilePath file, ?_⟩
  intro hname
  cases hnames with
  | plain h => exact inside_of_staysBelow hbase h hname
  | withEnding _ h => exact inside_of_staysBelow hbase h hname.withEnding

/-! ### An example: a shelf of schemas -/

namespace Shelf

/-- A directory with a schema and another directory in it, and a file beside them all. -/
def tree : Tree where
  workingDirectory := []
  entries :=
    [([pathOf "shelf", pathOf "box"], .directory),
      ([pathOf "shelf", pathOf "b.json"], .file .empty), ([pathOf "x"], .file .empty)]

theorem find_shelf :
    tree.files.find (pathOf "/shelf") = .ok ⟨pathOf "/shelf", .directory⟩ := by cbv

/-- A name that leads into a box and out of it again stays below the shelf. -/
theorem box_stays_below :
    inDirectory tree.files "/shelf" "box/../b"
        = .ok (Url.ofFilePath (pathOf "/shelf/b.json")) ∧
      Inside (pathOf "/shelf") (pathOf "/shelf/b.json") := by
  obtain ⟨hiff, hok⟩ := inDirectory_stays_below tree find_shelf "box/../b"
    (Url.ofFilePath (pathOf "/shelf/b.json"))
  have hnames : NamesFile tree.files "/shelf" "box/../b" (pathOf "/shelf/b.json") := by
    have hnone : tree.files.isFile (join "/shelf" "box/../b") = false := by cbv
    have hfind : tree.files.find (pathOf (join "/shelf" ("box/../b" ++ ".json")))
        = .ok ⟨pathOf "/shelf/b.json", .file .empty⟩ := by cbv
    exact .withEnding hnone hfind
  have hlocation := hiff.mpr ⟨_, hnames, rfl⟩
  obtain ⟨file, -, -, hfile, hinside⟩ := hok hlocation
  rw [Url.decode_path_ofFilePath] at hfile
  subst hfile
  have hpath : pathOf "box/../b" = [98, 111, 120, 47, 46, 46, 47, 98] := pathOf_eq "box/../b"
  have hbelow : StaysBelow "box/../b" := by
    rw [StaysBelow, hpath]
    decide
  exact ⟨hlocation, hinside hbelow⟩

/-- A name that leads up from the shelf and a name that is a path from the root stand for the
file beside it, which is not inside. -/
theorem climbing_names_leave :
    tree.files.find (pathOf "/shelf") = .ok ⟨pathOf "/shelf", .directory⟩ ∧
      inDirectory tree.files "/shelf" "../x" = .ok (Url.ofFilePath (pathOf "/x")) ∧
      inDirectory tree.files "/shelf" "/x" = .ok (Url.ofFilePath (pathOf "/x")) ∧
      ¬ Inside (pathOf "/shelf") (pathOf "/x") := by
  have hup : inDirectory tree.files "/shelf" "../x" = .ok (Url.ofFilePath (pathOf "/x")) := by
    have hfind : tree.files.find (pathOf (join "/shelf" "../x"))
        = .ok ⟨pathOf "/x", .file .empty⟩ := by cbv
    exact inDirectory_eq_ok_iff.mpr ⟨_, .plain hfind, rfl⟩
  have hroot : inDirectory tree.files "/shelf" "/x" = .ok (Url.ofFilePath (pathOf "/x")) := by
    have hfind : tree.files.find (pathOf (join "/shelf" "/x"))
        = .ok ⟨pathOf "/x", .file .empty⟩ := by cbv
    exact inDirectory_eq_ok_iff.mpr ⟨_, .plain hfind, rfl⟩
  refine ⟨find_shelf, hup, hroot, ?_⟩
  have hshelf : pathOf "/shelf" = [47, 115, 104, 101, 108, 102] := pathOf_eq "/shelf"
  have hx : pathOf "/x" = [47, 120] := pathOf_eq "/x"
  rw [hshelf, hx]
  rintro ⟨place, below, hplace, hfile, -, -⟩
  -- What is inside has the path of the directory at the start of its own.
  cases place with
  | nil => cases hplace
  | cons name rest =>
    have hlonger : Tree.pathTo (name :: rest ++ below)
        = Tree.pathTo (name :: rest) ++ below.flatMap (slash :: ·) := List.flatMap_append
    rw [hlonger, ← hplace] at hfile
    cases hfile

end Shelf

end Lookup
end DraftSchema
