import DraftSchema.Json.Reader

/-!
# `DraftSchema.Json.Record`: values with fixed fields

A record is an object with fields of fixed names or an array of the values of
those fields in order. An object may have other members, which are not looked
into, and may give no field twice. An array may end early and may hold nothing
else. `Record.ofWritten?` tells what was given for each field.
-/

set_option autoImplicit false

namespace DraftSchema.Json

/-- The string that a written value is. -/
def Written.string? : Written → Option String
  | .string units => (TextUnit.decode? units).map String.ofList
  | _ => none

/-- The truth value that a written value is. -/
def Written.bool? : Written → Option Bool
  | .bool b => some b
  | _ => none

/-- The natural number that a written value is, if it is below a bound. -/
def Written.below? (bound : Nat) : Written → Option Nat
  | .number n => n.toNat?.filter (· < bound)
  | _ => none

/-- The elements of a written array, each read in the same way. -/
def Written.list? {α : Type} (read : Written → Option α) : Written → Option (List α)
  | .array elements => elements.mapM read
  | _ => none

/-- A written value in which null stands for nothing. -/
def Written.nullable? {α : Type} (read : Written → Option α) : Written → Option (Option α)
  | .null => some none
  | w => (read w).map some

/-- The fields of a record: for every name what was given, if anything. -/
abbrev Record := List (String × Option Written)

namespace Record

/-- The record in which nothing is given. -/
def blank (names : List String) : Record := names.map fun n => (n, none)

/-- What was given for a field. -/
def get? (r : Record) (name : String) : Option Written := (r.lookup name).join

/-- Gives a field, unless it was given before. Other names are passed over. -/
def give? (r : Record) (name : String) (w : Written) : Option Record :=
  match r with
  | [] => some []
  | (n, given) :: rest =>
    if n = name then
      match given with
      | some _ => none
      | none => some ((n, some w) :: rest)
    else (Record.give? rest name w).map ((n, given) :: ·)

/-- Gives fields one after the other. -/
def giveAll? (r : Record) : List (List TextUnit × Written) → Option Record
  | [] => some r
  | (units, w) :: rest => do
    let name ← TextUnit.decode? units
    (← r.give? (String.ofList name) w).giveAll? rest

/-- The record with these fields that was written. -/
def ofWritten? (names : List String) : Written → Option Record
  | .object members => (blank names).giveAll? members
  | .array elements =>
    if elements.length ≤ names.length then
      some (names.zip (elements.map some ++ List.replicate (names.length - elements.length) none))
    else none
  | _ => none

/-- A field that must be given. -/
def required? {α : Type} (r : Record) (name : String) (read : Written → Option α) : Option α :=
  (r.get? name).bind read

/-- A field that has a value even if it is not given. -/
def optional? {α : Type} (r : Record) (name : String) (default : α)
    (read : Written → Option α) : Option α :=
  match r.get? name with
  | none => some default
  | some w => read w

end Record
end DraftSchema.Json
