import DraftSchema.Registry

/-!
# `DraftSchema.Compilation.Loops`: schemas that refer back to themselves

A schema that is a reference, or a union with a reference among its members,
leaves it to another schema which types of values it accepts. Following such
references must come to an end. `findLoop?` walks them from a location, with the
path that it has come and the locations from which no loop can be reached.
-/

set_option autoImplicit false

namespace DraftSchema.Compilation

/-- What is known after a walk: a loop, from a location back to itself, or the
locations from which no loop can be reached. -/
abbrev Walk := Except (List Url) (List Url)

mutual

/-- Follows the references of a location. `depth` bounds the length of the path,
and there is a loop in every path that is longer than the number of locations. -/
def walk (targets : Url → List Url) (depth : Nat) (path finished : List Url) (u : Url) : Walk :=
  if u ∈ finished then .ok finished
  -- The way to the loop is no part of it.
  else if u ∈ path then .error (path.dropWhile (· ≠ u) ++ [u])
  else
    match depth with
    | 0 => .error (path ++ [u])
    | depth + 1 => do
      let finished ← walkAll targets depth (path ++ [u]) finished (targets u)
      return u :: finished
termination_by (depth, 0)

/-- Follows the references of some locations one after the other. -/
def walkAll (targets : Url → List Url) (depth : Nat) (path finished : List Url) (us : List Url) :
    Walk :=
  match us with
  | [] => .ok finished
  | u :: rest => do
    let finished ← walk targets depth path finished u
    walkAll targets depth path finished rest
termination_by (depth, us.length + 1)

end

/-- The locations that a location leaves the decision to: a batch that is not
registered yet comes before the registry. -/
def gates (registry : Registry) (batch : List (Url × Node)) (u : Url) : List Url :=
  match batch.lookup u with
  | some node => node.gates
  | none => ((registry.get? u).map Node.gates).getD []

/-- A bound on the length of a path without a loop. -/
def depthBound (registry : Registry) (batch : List (Url × Node)) : Nat :=
  batch.length + ((batch ++ registry.entries).flatMap (·.2.gates)).length + 1

/-- A loop that can be reached from a batch. -/
def findLoop? (registry : Registry) (batch : List (Url × Node)) : Option (List Url) :=
  match walkAll (gates registry batch) (depthBound registry batch) [] [] (batch.map (·.1)) with
  | .ok _ => none
  | .error loop => some loop

end DraftSchema.Compilation
