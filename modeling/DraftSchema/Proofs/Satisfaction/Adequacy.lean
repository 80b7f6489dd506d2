import DraftSchema.Proofs.Compilation.History
import DraftSchema.Proofs.Node.Elaborates
import DraftSchema.Proofs.Satisfaction.Simple
import DraftSchema.Proofs.Validation.Agreement

/-!
# `DraftSchema.Proofs.Satisfaction.Adequacy`: checks decide satisfaction

A check against a compiled schema finds nothing exactly if the value satisfies the text
that the schema was compiled from. The theorems:

* `violations_union_eq_nil`, `violations_object_eq_nil` and `violations_array_eq_nil`:
  when nothing is violated, in terms of the parts of a node.
* `decides_reference`, `decides_union`, `decides_object` and `decides_array`: one step from
  a node to the schema that it was made from, where the parts are known to agree.
* `adequate`: the two agree for all schemas and values.
-/

set_option autoImplicit false

namespace DraftSchema

/-! ### Nodes without violations -/

namespace Registry

variable {r : Registry} {n : Node} {v : Json}

/-- Nothing is violated in a union if nothing is violated in a member. -/
theorem violations_union_eq_nil {members : List Node} :
    r.violations (.union members) v = [] ↔ ∃ n ∈ members, r.violations n v = [] := by
  rw [violations_union]
  split
  · rename_i hany
    rw [Resolver.fewest_eq_nil (map_violations_ne_nil hany), List.mem_map]
  · -- A member without violations would accept the type.
    rename_i hany
    refine iff_of_false (by simp) ?_
    rintro ⟨n, hmem, hnil⟩
    have haccepts : r.accepts n v := (r.resolver.agree r.size n v).accepted hnil
    exact hany (List.any_eq_true.mpr ⟨n, hmem, haccepts⟩)

/-- Nothing is violated in an object if nothing is violated in its members. -/
theorem violations_object_eq_nil {properties : List (Property Node)}
    {additional : Additional Node} :
    r.violations (.object properties additional) v = [] ↔
      ∃ members : Json.Members, v = .object members ∧
        (∀ p ∈ properties, r.propertyViolations members p = []) ∧
        ∀ name v, (name, v) ∈ members → (¬ ∃ p ∈ properties, p.name = name) →
          r.undeclaredViolations additional name v = [] := by
  by_cases hobject : ∃ members, v = .object members
  · obtain ⟨members, rfl⟩ := hobject
    rw [violations_object, List.append_eq_nil_iff, List.flatMap_eq_nil_iff,
      List.flatMap_eq_nil_iff]
    simp only [Json.object.injEq, exists_eq_left', ite_eq_left_iff, List.any_eq_true,
      decide_eq_true_eq, Prod.forall]
  · rw [violations_object_of_not r _ _ fun members heq => hobject ⟨members, heq⟩]
    refine iff_of_false (by simp) ?_
    rintro ⟨members, heq, -⟩
    exact hobject ⟨members, heq⟩

/-- The bounds on the number of elements, where an upper bound of zero is none. -/
theorem sizeViolations_eq_nil {minItems maxItems count : Nat} :
    Resolver.sizeViolations minItems maxItems count = [] ↔
      minItems ≤ count ∧ (0 < maxItems → count ≤ maxItems) := by
  unfold Resolver.sizeViolations
  rw [List.append_eq_nil_iff, and_comm]
  refine and_congr ?_ ?_
  · split <;> simp <;> omega
  · split <;> simp <;> omega

/-- Nothing is violated in an array if its size is within the bounds and nothing is
violated in its elements. -/
theorem violations_array_eq_nil {items : Node} {minItems maxItems : Nat} :
    r.violations (.array items minItems maxItems) v = [] ↔
      ∃ elements : List Json, v = .array elements ∧
        (minItems ≤ elements.length ∧ (0 < maxItems → elements.length ≤ maxItems)) ∧
        ∀ v ∈ elements, r.violations items v = [] := by
  by_cases harray : ∃ elements, v = .array elements
  · obtain ⟨elements, rfl⟩ := harray
    rw [violations_array, List.append_eq_nil_iff, sizeViolations_eq_nil,
      List.flatMap_eq_nil_iff]
    simp only [Json.array.injEq, exists_eq_left', List.map_eq_nil_iff]
    refine and_congr_right fun _ => ⟨fun h v hv => ?_, fun h entry hentry => ?_⟩
    · obtain ⟨i, hi, rfl⟩ := List.getElem_of_mem hv
      exact h (elements[i], i) (List.mem_zipIdx_iff_getElem?.mpr (by simp [hi]))
    · exact h entry.1 (List.fst_mem_of_mem_zipIdx hentry)
  · rw [violations_array_of_not r _ _ _ fun elements heq => harray ⟨elements, heq⟩]
    refine iff_of_false (by simp) ?_
    rintro ⟨elements, heq, -⟩
    exact harray ⟨elements, heq⟩

/-- The schema of every value asks for nothing. -/
theorem violations_any : r.violations .any v = [] := by
  rw [Node.any, violations_simple, SimpleSchema.violations_ofType]
  exact .any v

/-- A type that is only named asks for nothing but the type. -/
theorem violations_named {name : String} (h : Node.named? name = .ok n) :
    r.violations n v = [] ↔ OfNamedType name v := by
  unfold Node.named? at h
  split at h
  · cases h
    rw [Node.anyObject, violations_object_eq_nil]
    refine ⟨?_, fun h => ?_⟩
    · rintro ⟨members, rfl, -⟩
      exact .object rfl members
    · cases h with
      | object _ members => exact ⟨members, rfl, by simp, by simp [undeclaredViolations]⟩
      | array hname _ => simp at hname
      | simple hname _ => simp [ofName?_object] at hname
  · cases h
    rw [Node.anyArray, violations_array_eq_nil]
    refine ⟨?_, fun h => ?_⟩
    · rintro ⟨elements, rfl, -⟩
      exact .array rfl elements
    · cases h with
      | object hname _ => simp at hname
      | array _ elements => exact ⟨elements, rfl, by simp, fun v _ => violations_any⟩
      | simple hname _ => simp [ofName?_array] at hname
  · rename_i hobject harray
    unfold Node.simpleType? at h
    rcases hname : SimpleType.ofName? name with _ | type
    · simp [hname, Except.map] at h
    · simp only [hname, Except.map] at h
      cases h
      rw [violations_simple, SimpleSchema.violations_ofType]
      refine ⟨.simple hname, fun h => ?_⟩
      cases h with
      | object hname' members => exact absurd hname' hobject
      | array hname' elements => exact absurd hname' harray
      | simple hname' h =>
        obtain rfl : type = _ := by simpa [hname] using hname'
        exact h

end Registry

/-! ### Schemas -/

/-- The document at a location can be read if the source has it. -/
theorem Source.holds_of_read {source : Source} {u : Url} {raw : Json}
    (h : Compilation.Worklist.read source u = .ok raw) : source.Holds u raw := by
  unfold Compilation.Worklist.read at h
  split at h
  · simp at h
  · rename_i text hfetch
    split at h
    · rename_i raw' hparse
      cases h
      exact ⟨text, hfetch, hparse⟩
    · simp at h

namespace Node

/-- Nothing is violated in a node exactly by the values that satisfy a schema. -/
def Decides (source : Source) (r : Registry) (n : Node) (v : Json) (base : Url) (raw : Json) :
    Prop :=
  r.violations n v = [] ↔ Satisfies source base raw v

/-- The check against a node decides whether a value satisfies the schema that the node
was made from. -/
def Adequate (source : Source) (r : Registry) (n : Node) (v : Json) : Prop :=
  ∀ base raw, (elaborate base raw).result = .ok n → Decides source r n v base raw

variable {source : Source} {r : Registry} {base : Url} {members : Json.Members} {v : Json}

/-- A declared member violates nothing if it is there where it must be and satisfies its
schema. -/
theorem propertyViolations_eq_nil_iff (values : Json.Members) {entry : String × Json}
    {p : Property Node} (hp : Declares base entry p)
    (ih : ∀ v, values.get? p.name = some v → Adequate source r p.schema v) :
    ((entry.2.IsRequired → ∃ v, values.get? entry.1 = some v) ∧
        ∀ v, values.get? entry.1 = some v → Satisfies source base entry.2 v) ↔
      r.propertyViolations values p = [] := by
  -- Beside a reference the keyword still says whether the member must be there.
  have hrequired : entry.2.IsRequired ↔ p.required = true := by
    have hread := hp.required
    unfold required? at hread
    split at hread
    · rename_i members heq
      rcases hkeyword : boolKeyword? members "required" with d | required
      · simp [hkeyword, Except.map] at hread
      · simp only [hkeyword, Except.map, Except.ok.injEq] at hread
        have hiff := boolKeyword?_eq_ok hkeyword true
        simp only [Json.IsRequired, heq, Json.object.injEq, exists_eq_left', hiff, ← hread,
          Option.getD_eq_iff, Bool.false_eq_true, and_false, or_false]
    · rename_i hother
      rw [Except.ok.injEq] at hread
      simp only [← hread, Bool.false_eq_true, iff_false]
      rintro ⟨members, heq, -⟩
      exact hother members heq
  unfold Registry.propertyViolations
  rw [← hp.name, hrequired]
  rcases hvalue : values.get? p.name with _ | v
  · cases p.required <;> simp
  · have hv := ih v hvalue base entry.2 hp.schema
    simp only [Option.some.injEq, exists_eq', implies_true, true_and, forall_eq',
      List.map_eq_nil_iff]
    exact hv.symm

/-- Undeclared members violate nothing if they are allowed or satisfy their schema. -/
theorem undeclaredViolations_eq_nil_iff (values : Json.Members) (declared : String → Prop)
    {additional : Additional Node}
    (hadditional : (elaborateAdditional base members).result = .ok additional)
    (ih : ∀ name v, (name, v) ∈ values → ∀ schema, additional = .schema schema →
      Adequate source r schema v) :
    (∀ name v, (name, v) ∈ values → ¬ declared name →
        r.undeclaredViolations additional name v = []) ↔
      (members.get? "additionalProperties" = some (.bool false) →
        ∀ name v, (name, v) ∈ values → declared name) ∧
      ∀ nested, members.get? "additionalProperties" = some (.object nested) →
        ∀ name v, (name, v) ∈ values → ¬ declared name →
          Satisfies source base (.object nested) v := by
  rcases elaborateAdditional_result hadditional with
    ⟨rfl, hkeyword⟩ | ⟨rfl, hkeyword⟩ | ⟨nested, schema, rfl, hkeyword, hschema⟩
  · rcases hkeyword with hkeyword | hkeyword <;> simp [Registry.undeclaredViolations, hkeyword]
  · simp [Registry.undeclaredViolations, hkeyword]
  · simp only [Registry.undeclaredViolations, hkeyword, List.map_eq_nil_iff]
    refine ⟨fun h => ⟨by simp, fun nested' heq name v hv hname => ?_⟩,
      fun h name v hv hname => ?_⟩
    · obtain rfl : nested = nested' := by simpa using heq
      exact (ih name v hv schema rfl base (.object nested) hschema).mp (h name v hv hname)
    · exact (ih name v hv schema rfl base (.object nested) hschema).mpr
        (h.2 nested rfl name v hv hname)

/-- The check of an object decides whether it satisfies its schema. -/
theorem decides_object {properties : List (Property Node)} {additional : Additional Node}
    (href : members.get? "$ref" = none) (htype : members.get? "type" = some (.string "object"))
    (hdeclared : (elaborateDeclared base members).result = .ok properties)
    (hadditional : (elaborateAdditional base members).result = .ok additional)
    (ih : ∀ n' v', r.Calls (n', v') (.object properties additional, v) →
      Adequate source r n' v') :
    Decides source r (.object properties additional) v base (.object members) := by
  obtain ⟨entries, hentries, hproperties⟩ := elaborateDeclared_result hdeclared
  have hmembers : members.declared = entries := by
    unfold Json.Members.declared
    rcases hproperties with ⟨hnone, rfl⟩ | hsome
    · rw [hnone]
    · rw [hsome]
  have hnames : ∀ name, (∃ p ∈ properties, p.name = name) ↔ ∃ schema, (name, schema) ∈ entries := by
    intro name
    rw [← exists_mem_iff_of_forall₂ (P := fun entry => entry.1 = name) hentries
      fun entry p _ hp => by rw [hp.name]]
    exact ⟨fun ⟨entry, hmem, heq⟩ => ⟨entry.2, heq ▸ hmem⟩, fun ⟨schema, hmem⟩ => ⟨_, hmem, rfl⟩⟩
  unfold Decides
  rw [Registry.violations_object_eq_nil, satisfies_object href htype, hmembers]
  refine exists_congr fun values => and_congr_right fun hv => ?_
  subst hv
  have hparts := forall_mem_iff_of_forall₂ hentries fun entry p hmem hp =>
    propertyViolations_eq_nil_iff values hp fun v hvalue => ih _ _ (.property hmem hvalue)
  have hothers := undeclaredViolations_eq_nil_iff values
    (fun name => ∃ schema, (name, schema) ∈ entries) hadditional
    fun name v hv schema heq => ih schema v (by subst heq; exact .undeclared hv)
  simp only [hnames, ← hparts, hothers, ← and_assoc]
  refine and_congr_left fun _ => and_congr_left fun _ => ?_
  exact ⟨fun h => ⟨fun name schema hmem => (h _ hmem).1, fun name schema hmem => (h _ hmem).2⟩,
    fun h entry hmem => ⟨h.1 entry.1 entry.2 hmem, h.2 entry.1 entry.2 hmem⟩⟩

/-- The check of an array decides whether it satisfies its schema. -/
theorem decides_array {items : Node} {minItems maxItems : Option Nat}
    (href : members.get? "$ref" = none) (htype : members.get? "type" = some (.string "array"))
    (hitems : (elaborateItems base members).result = .ok items)
    (hminItems : countKeyword? members "minItems" = .ok minItems)
    (hmaxItems : countKeyword? members "maxItems" = .ok maxItems)
    (ih : ∀ n' v', r.Calls (n', v') (.array items (minItems.getD 0) (maxItems.getD 0), v) →
      Adequate source r n' v') :
    Decides source r (.array items (minItems.getD 0) (maxItems.getD 0)) v base
      (.object members) := by
  unfold Decides
  rw [Registry.violations_array_eq_nil, satisfies_array href htype,
    countKeyword?_eq_ok hminItems, countKeyword?_eq_ok hmaxItems]
  refine exists_congr fun elements => and_congr_right fun hv => ?_
  subst hv
  have helements : (∀ v ∈ elements, r.violations items v = []) ↔
      ∀ nested, members.get? "items" = some (.object nested) →
        ∀ v ∈ elements, Satisfies source base (.object nested) v := by
    rcases elaborateItems_result hitems with ⟨rfl, hnone⟩ | ⟨nested, hsome, hnested⟩
    · simp [hnone, Registry.violations_any]
    · simp only [hsome, Option.some.injEq, Json.object.injEq, forall_eq']
      exact forall₂_congr fun v hv => ih items v (.element hv) base (.object nested) hnested
  rw [helements, ← and_assoc]
  refine and_congr_left fun _ => and_congr ?_ ?_
  · cases minItems <;> simp
  · cases maxItems <;> simp

/-- The check against a union decides whether a value satisfies one of its schemas. -/
theorem decides_union {entries : List Json} {nodes : List Node}
    (href : members.get? "$ref" = none)
    (htype : members.get? "type" = some (.array entries))
    (hentries : (elaborateEntries base entries).result = .ok nodes)
    (ih : ∀ n' v', r.Calls (n', v') (.union nodes, v) → Adequate source r n' v') :
    Decides source r (.union nodes) v base (.object members) := by
  unfold Decides
  rw [Registry.violations_union_eq_nil, satisfies_union href htype]
  refine (exists_mem_iff_of_forall₂ (elaborateEntries_result hentries)
    fun entry n hmem hentry => ?_).symm
  rcases elaborateEntry_result hentry with ⟨name, rfl, hname⟩ | ⟨nested, rfl, hnested⟩
  · simp [Registry.violations_named hname]
  · have hiff := ih n v (.member hmem) base (.object nested) hnested
    unfold Decides at hiff
    simp [hiff]

/-- The check against a reference decides whether a value satisfies the document that it
names. -/
theorem decides_reference (h : Compilation.History source r) {text : String} {location : Url}
    (hn : (Node.reference location).ClosedIn r)
    (href : members.get? "$ref" = some (.string text))
    (hresolve : Reference.resolve base text = .ok location)
    (ih : ∀ n' v', r.Calls (n', v') (.reference location, v) → Adequate source r n' v') :
    Decides source r (.reference location) v base (.object members) := by
  have hhas : r.has location := hn location (by simp [references])
  obtain ⟨n, hget, raw, hread, hnode⟩ := h.makes (Reference.resolve_eq_ok hresolve).2 hhas
  unfold Decides
  rw [Registry.violations_reference h.sound hget,
    satisfies_reference href hresolve (Source.holds_of_read hread)]
  exact ih n v (.target hget) location raw hnode

/-- In a registry whose nodes are those of the documents of a source, the check against a
node decides whether a value satisfies the schema that the node was made from. -/
theorem adequate (h : Compilation.History source r) {n : Node} (hn : n.ClosedIn r) (v : Json) :
    Adequate source r n v := by
  -- The schema is not smaller behind a reference, so the induction is on the check.
  refine h.sound.check_induction (motive := Adequate source r) (fun n v hn ih => ?_) hn v
  intro base raw hresult
  obtain ⟨members, rfl, helaborates⟩ := elaborates_of_result hresult
  cases helaborates with
  | reference href hresolve => exact decides_reference h hn href hresolve ih
  | untyped href htype => exact iff_of_true Registry.violations_any (.untyped href htype)
  | object href htype hdeclared hadditional =>
    exact decides_object href htype hdeclared hadditional ih
  | array href htype hitems hminItems hmaxItems =>
    exact decides_array href htype hitems hminItems hmaxItems ih
  | simple href htype hname hkeywords hschema =>
    unfold Decides
    rw [Registry.violations_simple, satisfies_simple href htype hname,
      SimpleSchema.violations_eq_nil_iff_meetsKeywords hkeywords hschema]
  | union href htype hentries => exact decides_union href htype hentries ih

end Node
end DraftSchema
