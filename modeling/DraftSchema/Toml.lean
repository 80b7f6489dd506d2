import DraftSchema.Digits

/-!
# `DraftSchema.Toml`: tables of settings

A document of settings is a table whose values may be tables again. How a table
came about decides what may still be added to it: a table that was written in
braces is finished, one that was made by a key with points grows by such keys,
one that was only passed by a header may still get a header of its own.
-/

set_option autoImplicit false

namespace DraftSchema.Toml

/-- How a table came about. -/
inductive Origin where
  /-- By a header of its own. -/
  | header
  /-- On the way to the table of another header. -/
  | passed
  /-- On the way to the value of a key with points. -/
  | dotted
  /-- In braces. -/
  | braces
deriving DecidableEq, Repr

/-- A value. Of moments and numbers with a fraction nothing more is known. -/
inductive Value where
  | string (text : String)
  | integer (value : Int)
  | float
  | boolean (value : Bool)
  | datetime
  | array (elements : List Value)
  | table (origin : Origin) (entries : List (String × Value))
  /-- Tables with the same header, last first. -/
  | tables (all : List (List (String × Value)))
deriving Inhabited

/-- The entries of a table, in the order in which they were made. -/
abbrev Entries := List (String × Value)

namespace Entries

/-- The value of a key. -/
def get? (entries : Entries) (key : String) : Option Value := entries.lookup key

/-- Sets the value of a key to what `f` makes of the old one, if it makes any. -/
def alter? (entries : Entries) (key : String) (f : Option Value → Option Value) : Option Entries :=
  match entries with
  | [] => (f none).map fun v => [(key, v)]
  | (k, v) :: rest =>
    if k = key then (f (some v)).map fun v => (k, v) :: rest
    else (alter? rest key f).map ((k, v) :: ·)

/-- Sets a key that has no value. -/
def add? (entries : Entries) (key : String) (value : Value) : Option Entries :=
  entries.alter? key fun
    | none => some value
    | some _ => none

/-- Sets a key with points: `path` leads to the table that it is added to. A
table that has a header of its own, or was only passed by one, is not added to in
this way. -/
def addAt? : (path : List String) → (key : String) → Value → Entries → Option Entries
  | [], key, value, entries => entries.add? key value
  | p :: path, key, value, entries =>
    entries.alter? p fun
      | none => (addAt? path key value []).map (.table .dotted)
      | some (.table .dotted inner) => (addAt? path key value inner).map (.table .dotted)
      | some (.table .passed inner) =>
        if path.isEmpty then none else (addAt? path key value inner).map (.table .passed)
      | some (.tables (inner :: others)) =>
        if path.isEmpty then none
        else (addAt? path key value inner).map fun inner => .tables (inner :: others)
      | some _ => none

/-- Changes the table that a header names, whose way is made where there is
none. Of tables with the same header the last one is meant. -/
def within? : (path : List String) → (Entries → Option Entries) → Entries → Option Entries
  | [], f, entries => f entries
  | p :: path, f, entries =>
    entries.alter? p fun
      | none => (within? path f []).map (.table .passed)
      | some (.table .braces _) => none
      | some (.table origin inner) => (within? path f inner).map (.table origin)
      | some (.tables (inner :: others)) =>
        (within? path f inner).map fun inner => .tables (inner :: others)
      | some _ => none

/-- Begins the table of a header. -/
def open? (path : List String) (key : String) (entries : Entries) : Option Entries :=
  entries.within? path fun inner =>
    inner.alter? key fun
      | none => some (.table .header [])
      | some (.table .passed entries) => some (.table .header entries)
      | some _ => none

/-- Begins a further table with the same header. -/
def push? (path : List String) (key : String) (entries : Entries) : Option Entries :=
  entries.within? path fun inner =>
    inner.alter? key fun
      | none => some (.tables [[]])
      | some (.tables all) => some (.tables ([] :: all))
      | some _ => none

end Entries
end DraftSchema.Toml
