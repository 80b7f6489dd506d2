import DraftSchema.Node.Elaborate

/-!
# `DraftSchema.Proofs.Node.References`: what a node refers to

`Node.references` lists the locations that a node refers to at any depth, in the
order in which they stand in its schema. The theorems:

* `mem_references_of_mem_gates`: the locations that decide on types are among them.
* `faithful_elaborate`: elaboration meets only locations that were resolved against
  the document, and where it makes a node it has met exactly what the node refers
  to.
* `withoutFragment_of_mem_elaborate`: the locations that it meets have no fragments.
-/

set_option autoImplicit false

namespace DraftSchema
namespace Node

mutual

/-- The locations that a node refers to. -/
def references : Node → List Url
  | .simple _ => []
  | .object properties additional =>
    additionalReferences additional ++ propertyReferences properties
  | .array items _ _ => items.references
  | .union members => memberReferences members
  | .reference location => [location]

/-- The locations that some nodes refer to. -/
def memberReferences : List Node → List Url
  | [] => []
  | n :: rest => n.references ++ memberReferences rest

/-- The locations that the schemas of declared properties refer to. -/
def propertyReferences : List (Property Node) → List Url
  | [] => []
  | ⟨_, _, schema⟩ :: rest => schema.references ++ propertyReferences rest

/-- The locations that the schema of undeclared members refers to. -/
def additionalReferences : Additional Node → List Url
  | .allowed => []
  | .forbidden => []
  | .schema schema => schema.references

end

@[simp] theorem mem_memberReferences {members : List Node} {u : Url} :
    u ∈ memberReferences members ↔ ∃ n ∈ members, u ∈ n.references := by
  induction members with
  | nil => simp [memberReferences]
  | cons n rest ih => simp [memberReferences, ih]

@[simp] theorem mem_propertyReferences {properties : List (Property Node)} {u : Url} :
    u ∈ propertyReferences properties ↔ ∃ p ∈ properties, u ∈ p.schema.references := by
  induction properties with
  | nil => simp [propertyReferences]
  | cons p rest ih => simp [propertyReferences, ih]

@[simp] theorem mem_memberGates {members : List Node} {u : Url} :
    u ∈ memberGates members ↔ ∃ n ∈ members, u ∈ n.gates := by
  induction members with
  | nil => simp [memberGates]
  | cons n rest ih => simp [memberGates, ih]

/-- The locations that decide on types are among those that a node refers to. -/
theorem mem_references_of_mem_gates {u : Url} : ∀ {n : Node}, u ∈ n.gates → u ∈ n.references
  | .simple _, h | .object _ _, h | .array _ _ _, h => by simp [gates] at h
  | .reference _, h => by simpa [gates, references] using h
  | .union members, h => by
    simp only [gates, mem_memberGates] at h
    obtain ⟨n, hn, hu⟩ := h
    simp only [references, mem_memberReferences]
    exact ⟨n, hn, mem_references_of_mem_gates hu⟩

end Node

namespace Elaboration

variable {α β : Type}

/-- All references that were met were resolved against the document, and those of a
result are known from it. -/
structure Faithful (base : Url) (referencesOf : α → List Url) (x : Elaboration α) : Prop where
  resolved : ∀ u ∈ x.references, ∃ text, Reference.resolve base text = .ok u
  complete : ∀ a, x.result = .ok a → x.references = referencesOf a

namespace Faithful

variable {base : Url} {x : Elaboration α} {referencesOf : α → List Url}

/-- A result that refers to nothing. -/
theorem ofExcept {result : Except Defect α} (h : ∀ a, result = .ok a → referencesOf a = []) :
    Faithful base referencesOf (ofExcept result) where
  resolved := by simp
  complete a ha := (h a ha).symm

/-- A defect. -/
theorem fail (d : Defect) : Faithful base referencesOf (fail d) := ofExcept (by simp)

/-- What comes behind a result adds its references to those of the result. -/
theorem bind {f : α → Elaboration β} {referencesOf' : β → List Url}
    (hx : Faithful base referencesOf x)
    (hresolved : ∀ a, ∀ u ∈ (f a).references, ∃ text, Reference.resolve base text = .ok u)
    (hcomplete : ∀ a b, (f a).result = .ok b →
      referencesOf' b = referencesOf a ++ (f a).references) :
    Faithful base referencesOf' (x >>= f) := by
  rcases hresult : x.result with d | a
  · rw [bind_error hresult]
    exact ⟨hx.resolved, by simp⟩
  · rw [bind_ok hresult]
    refine ⟨fun u hu => ?_, fun b hb => ?_⟩
    · rcases List.mem_append.mp hu with hu | hu
      · exact hx.resolved u hu
      · exact hresolved a u hu
    · rw [hcomplete a b hb, hx.complete a hresult]

/-- A result that is read off without references comes first. -/
theorem ofExcept_bind {result : Except Defect α} {f : α → Elaboration β}
    {referencesOf' : β → List Url} (hf : ∀ a, Faithful base referencesOf' (f a)) :
    Faithful base referencesOf' (Elaboration.ofExcept result >>= f) := by
  have hx : Faithful base (fun _ => []) (Elaboration.ofExcept result) := ofExcept fun _ _ => rfl
  exact hx.bind (fun a => (hf a).resolved) fun a b hb => ((hf a).complete b hb).symm

/-- A result that is made from another one and refers to the same. -/
theorem map {f : α → β} {referencesOf' : β → List Url} (hx : Faithful base referencesOf x)
    (hf : ∀ a, referencesOf' (f a) = referencesOf a) :
    Faithful base referencesOf' (f <$> x) := by
  refine hx.bind (by simp) fun a b hb => ?_
  simp only [Function.comp, Elaboration.ofExcept, Except.ok.injEq] at hb
  rw [← hb, hf]
  exact (List.append_nil _).symm

/-- A result that is made from two others refers to what both refer to. -/
theorem both {γ : Type} {y : Elaboration β} {f : α → β → γ} {referencesOf' : β → List Url}
    {referencesOf'' : γ → List Url} (hx : Faithful base referencesOf x)
    (hy : Faithful base referencesOf' y)
    (hf : ∀ a b, referencesOf'' (f a b) = referencesOf a ++ referencesOf' b) :
    Faithful base referencesOf'' (do let a ← x; let b ← y; return f a b) := by
  -- Behind a defect no result is promised, but the references were met all the same.
  rcases hresult : y.result with d | b
  · refine hx.bind (fun a => ?_) fun a c hc => ?_
    · rw [bind_error hresult]
      exact hy.resolved
    · rw [bind_error hresult] at hc
      simp at hc
  · refine hx.bind (fun a => ?_) fun a c hc => ?_
    · rw [bind_ok hresult]
      simpa [Elaboration.ofExcept] using hy.resolved
    · rw [bind_ok hresult] at hc ⊢
      simp only [pure_eq, Elaboration.ofExcept, Except.ok.injEq] at hc
      simp [← hc, hf, hy.complete b hresult, Elaboration.ofExcept]

end Faithful
end Elaboration

namespace Node

open Elaboration (Faithful bind_ofExcept_ok pure_eq result_ofExcept)

/-- A simple schema refers to nothing. -/
theorem references_of_simple? {name : String} {members : Json.Members} {n : Node}
    (h : simple? name members = .ok n) : n.references = [] := by
  unfold simple? at h
  rcases ht : simpleType? name with d | type
  · simp [ht, bind, Except.bind] at h
  · rcases hk : simpleKeywords? members with d | keywords
    · simp [ht, hk, bind, Except.bind] at h
    · simp only [ht, hk, bind, Except.bind] at h
      split at h
      · cases h
        rfl
      · simp at h

/-- A type that is only named refers to nothing. -/
theorem references_of_named? {name : String} {n : Node} (h : named? name = .ok n) :
    n.references = [] := by
  unfold named? at h
  split at h
  · cases h
    rfl
  · cases h
    rfl
  · rcases ht : simpleType? name with d | type
    · simp [ht, Except.map] at h
    · simp only [ht, Except.map, Except.ok.injEq] at h
      rw [← h]
      rfl

/-- A reference refers to what it is resolved to. -/
theorem faithful_elaborateReference (base : Url) (v : Json) :
    Faithful base references (elaborateReference base v) := by
  unfold elaborateReference
  split
  · rename_i text
    split
    · rename_i location hresolved
      refine ⟨fun u hu => ?_, fun n hn => ?_⟩
      · rw [List.mem_singleton.mp hu]
        exact ⟨text, hresolved⟩
      · cases hn
        rfl
    · exact .fail _
  · exact .fail _

/-! ### The parts of a schema

Each part is faithful if the schemas in it are. -/

/-- A member of a union is a named type or a schema. -/
theorem faithful_elaborateEntry {base : Url} {entry : Json}
    (h : Faithful base references (elaborate base entry)) :
    Faithful base references (elaborateEntry base entry) := by
  rw [elaborateEntry.eq_def]
  split
  · exact .ofExcept fun a ha => references_of_named? ha
  · exact h
  · exact .fail _

/-- The members of a union are elaborated one after the other. -/
theorem faithful_elaborateEntries {base : Url} {entries : List Json}
    (h : ∀ entry ∈ entries, Faithful base references (elaborate base entry)) :
    Faithful base memberReferences (elaborateEntries base entries) := by
  induction entries with
  | nil =>
    rw [elaborateEntries]
    exact .ofExcept fun a ha => by cases ha; rfl
  | cons entry rest ih =>
    rw [elaborateEntries]
    exact (faithful_elaborateEntry (h entry List.mem_cons_self)).both
      (ih fun e he => h e (List.mem_cons_of_mem _ he)) fun _ _ => rfl

/-- The declared properties are elaborated one after the other. -/
theorem faithful_elaborateProperties {base : Url} {entries : List (String × Json)}
    (h : ∀ entry ∈ entries, Faithful base references (elaborate base entry.2)) :
    Faithful base propertyReferences (elaborateProperties base entries) := by
  induction entries with
  | nil =>
    rw [elaborateProperties]
    exact .ofExcept fun a ha => by cases ha; rfl
  | cons entry rest ih =>
    rw [elaborateProperties]
    exact .ofExcept_bind fun required => (h entry List.mem_cons_self).both
      (ih fun e he => h e (List.mem_cons_of_mem _ he)) fun _ _ => rfl

/-- Properties are declared by the members of an object. -/
theorem faithful_elaborateDeclared {base : Url} {members : Json.Members}
    (h : ∀ raw, sizeOf raw < sizeOf members → Faithful base references (elaborate base raw)) :
    Faithful base propertyReferences (elaborateDeclared base members) := by
  rw [elaborateDeclared.eq_def]
  split
  · exact .ofExcept fun a ha => by cases ha; rfl
  · rename_i entries hentries
    refine faithful_elaborateProperties fun entry he => h _ ?_
    have hsize := Json.Members.sizeOf_lt_of_get?_eq_some hentries
    have hentry := Json.Members.sizeOf_lt_of_mem he
    simp only [Json.object.sizeOf_spec] at hsize
    omega
  · exact .fail _

/-- Undeclared members may have a schema. -/
theorem faithful_elaborateAdditional {base : Url} {members : Json.Members}
    (h : ∀ raw, sizeOf raw < sizeOf members → Faithful base references (elaborate base raw)) :
    Faithful base additionalReferences (elaborateAdditional base members) := by
  rw [elaborateAdditional.eq_def]
  split
  · exact .ofExcept fun a ha => by cases ha; rfl
  · exact .ofExcept fun a ha => by cases ha; rfl
  · exact .ofExcept fun a ha => by cases ha; rfl
  · rename_i nested hnested
    exact (h _ (Json.Members.sizeOf_lt_of_get?_eq_some hnested)).map fun _ => rfl
  · exact .fail _

/-- The elements of an array may have a schema. -/
theorem faithful_elaborateItems {base : Url} {members : Json.Members}
    (h : ∀ raw, sizeOf raw < sizeOf members → Faithful base references (elaborate base raw)) :
    Faithful base references (elaborateItems base members) := by
  rw [elaborateItems.eq_def]
  split
  · exact .ofExcept fun a ha => by cases ha; rfl
  · rename_i nested hnested
    exact h _ (Json.Members.sizeOf_lt_of_get?_eq_some hnested)
  · exact .fail _

/-- An array refers to what its elements' schema refers to. -/
theorem faithful_elaborateArray {base : Url} {members : Json.Members}
    (h : ∀ raw, sizeOf raw < sizeOf members → Faithful base references (elaborate base raw)) :
    Faithful base references (elaborateArray base members) := by
  rw [elaborateArray]
  refine (faithful_elaborateItems h).bind (fun items => ?_) fun items n hn => ?_
  · rcases countKeyword? members "minItems" with d | lower
    · simp
    · rcases countKeyword? members "maxItems" with d | upper <;> simp
  · rcases hlower : countKeyword? members "minItems" with d | lower
    · simp [hlower] at hn
    · rcases hupper : countKeyword? members "maxItems" with d | upper
      · simp [hlower, hupper] at hn
      · simp only [hlower, hupper, bind_ofExcept_ok, pure_eq, result_ofExcept,
          Except.ok.injEq] at hn ⊢
        simp [← hn, references]

/-- Elaboration meets what its node refers to, and nothing that the document does not
refer to. -/
theorem faithful_elaborate (base : Url) (raw : Json) :
    Faithful base references (elaborate base raw) := by
  -- Nested schemas stand in lists inside of lists, so the induction is on the size.
  induction hsize : sizeOf raw using Nat.strongRecOn generalizing raw with
  | _ size ih =>
    subst hsize
    rw [elaborate.eq_def]
    split
    · rename_i members
      have hparts : ∀ raw, sizeOf raw < sizeOf members →
          Faithful base references (elaborate base raw) := by
        intro raw hraw
        refine ih (sizeOf raw) ?_ raw rfl
        simp only [Json.object.sizeOf_spec]
        omega
      split
      · exact faithful_elaborateReference base _
      · split
        · exact .ofExcept fun a ha => by cases ha; rfl
        · rw [elaborateObject]
          exact (faithful_elaborateAdditional hparts).both (faithful_elaborateDeclared hparts)
            fun _ _ => by simp only [references]
        · exact faithful_elaborateArray hparts
        · exact .ofExcept fun a ha => references_of_simple? ha
        · rename_i entries hentries
          refine (faithful_elaborateEntries fun entry he => hparts entry ?_).map
            fun ns => by simp only [references]
          have hlist := Json.Members.sizeOf_lt_of_get?_eq_some hentries
          have hentry := List.sizeOf_lt_of_mem he
          simp only [Json.array.sizeOf_spec] at hlist
          omega
        · exact .fail _
    · exact .fail _

/-- The locations that elaboration meets have no fragments. -/
theorem withoutFragment_of_mem_elaborate {base u : Url} {raw : Json}
    (h : u ∈ (elaborate base raw).references) : u.withoutFragment = u := by
  obtain ⟨text, htext⟩ := (faithful_elaborate base raw).resolved u h
  exact (Reference.resolve_eq_ok htext).2

end Node
end DraftSchema
