import DraftSchema.Proofs.Json.Reordering
import DraftSchema.Proofs.Node.Built

/-!
# `DraftSchema.Proofs.Node.Declared`: nodes that declare no property twice

The properties of an object are declared by an object in its schema. An object that was read
from a text has every name once, and so no object declares a property twice
(`Node.DeclaresOnce`). The theorems:

* `declaresOnce_of_elaborate`: a node that is made from such a schema declares no property
  twice.
* `declaresOnce_compile`: nor does any node that a compilation registers.
-/

set_option autoImplicit false

namespace DraftSchema

namespace Node

/-- No object in the node declares a property twice. -/
inductive DeclaresOnce : Node → Prop where
  | simple (schema : SimpleSchema) : DeclaresOnce (.simple schema)
  | object {properties : List (Property Node)} {additional : Additional Node}
      (hnames : (properties.map (·.name)).Nodup)
      (hproperties : ∀ p ∈ properties, DeclaresOnce p.schema)
      (hadditional : ∀ schema, additional = .schema schema → DeclaresOnce schema) :
      DeclaresOnce (.object properties additional)
  | array {items : Node} (minItems maxItems : Nat) (hitems : DeclaresOnce items) :
      DeclaresOnce (.array items minItems maxItems)
  | union {members : List Node} (hmembers : ∀ n ∈ members, DeclaresOnce n) :
      DeclaresOnce (.union members)
  | reference (location : Url) : DeclaresOnce (.reference location)

/-- A schema with every name once declares no property twice. -/
theorem declaresOnce_of_elaborate {base : Url} {raw : Json} {n : Node} (hraw : raw.NamesOnce)
    (h : (elaborate base raw).result = .ok n) : n.DeclaresOnce := by
  refine elaborate_induction (H := Json.NamesOnce) ?_ ?_ .reference (fun schema _ => .simple schema)
    ?_ (fun _ => .array) (fun _ => .union) hraw h
  · intro members hmembers
    cases hmembers with
    | object _ hvalues => exact hvalues
  · intro elements helements
    cases helements with
    | array helements => exact helements
  · intro properties additional hdeclared hproperties hadditional
    refine .object ?_ hproperties hadditional
    rcases hdeclared with rfl | ⟨entries, hentries, hnames⟩
    · exact List.nodup_nil
    · cases hentries with
      | object hdistinct _ =>
        rw [hnames]
        exact hdistinct

end Node

/-! ### Registries -/

/-- No registered node declares a property twice. -/
def Registry.DeclaresOnce (r : Registry) : Prop := ∀ u n, r.get? u = some n → n.DeclaresOnce

namespace Compilation

/-- What is read from a source has every name once. -/
theorem Worklist.namesOnce_of_read {source : Source} {u : Url} {raw : Json}
    (h : Worklist.read source u = .ok raw) : raw.NamesOnce := by
  unfold Worklist.read at h
  split at h
  · cases h
  · split at h
    · rename_i parsed hparsed
      cases h
      exact Json.namesOnce_of_parse? hparsed
    · cases h

/-- A compilation registers no node that declares a property twice. -/
theorem declaresOnce_compile (source : Source) {registry : Registry}
    (honce : registry.DeclaresOnce) (location : Url) :
    (compile source registry location).registry.DeclaresOnce := by
  refine forall_compile (P := fun _ n => n.DeclaresOnce) honce (fun u n hmakes => ?_) location
  obtain ⟨raw, hread, hresult⟩ := hmakes
  exact Node.declaresOnce_of_elaborate (Worklist.namesOnce_of_read hread) hresult

end Compilation
end DraftSchema
