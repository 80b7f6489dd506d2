import DraftSchema.Node

/-!
# `DraftSchema.Registry`: compiled schemas by location

A registry holds at most one node for a location, where fragments do not count.
A node that was registered stays: `Registry.register` changes nothing for a
location that has a node, so registries only grow.
-/

set_option autoImplicit false

namespace DraftSchema

/-- Compiled schemas by location, in the order in which they were registered. -/
structure Registry where
  entries : List (Url × Node)

namespace Registry

/-- The registry without schemas. -/
def empty : Registry := ⟨[]⟩

instance : EmptyCollection Registry := ⟨empty⟩

instance : Inhabited Registry := ⟨empty⟩

/-- The node at a location. -/
def get? (r : Registry) (location : Url) : Option Node :=
  r.entries.lookup location.withoutFragment

/-- There is a node at the location. -/
def has (r : Registry) (location : Url) : Bool := (r.get? location).isSome

/-- The number of nodes. -/
def size (r : Registry) : Nat := r.entries.length

/-- Adds a node at a location that has none. -/
def register (r : Registry) (location : Url) (node : Node) : Registry :=
  if r.has location then r else ⟨r.entries ++ [(location.withoutFragment, node)]⟩

/-- Adds nodes one after the other. -/
def registerAll (r : Registry) (batch : List (Url × Node)) : Registry :=
  batch.foldl (fun r entry => r.register entry.1 entry.2) r

theorem get?_withoutFragment (r : Registry) (location : Url) :
    r.get? location.withoutFragment = r.get? location := by
  simp [get?]

/-- A node that is there stays. -/
theorem get?_register_of_eq_some {r : Registry} {location other : Url} {node found : Node}
    (h : r.get? location = some found) : (r.register other node).get? location = some found := by
  unfold register
  split
  · exact h
  · simp only [get?, List.lookup_append] at h ⊢
    simp [h]

end Registry
end DraftSchema
