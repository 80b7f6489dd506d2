import DraftSchema.Proofs.Language.Keywords

/-!
# `DraftSchema.Proofs.Language.Elaboration`: elaboration accepts the well-formed values

A value becomes a node exactly if it is a schema and so are the values that stand in it where
a schema is expected. Its node then refers to what these refer to. The theorems:

* `isOk_elaborate_iff`: one step, from a schema to the schemas right below it.
* `exists_elaborate_iff_wellFormed`: all steps.
* `mem_references_iff` and `mem_gates_iff`: what the node refers to, and what it leaves it to
  which types of values it accepts.
-/

set_option autoImplicit false

namespace DraftSchema

open Relation

namespace Elaboration

variable {α β γ : Type}

/-- There is a result. -/
def IsOk (x : Elaboration α) : Prop := ∃ a, x.result = .ok a

@[simp] theorem isOk_ofExcept {result : Except Defect α} :
    (ofExcept result).IsOk ↔ ∃ a, result = .ok a := Iff.rfl

@[simp] theorem not_isOk_fail (d : Defect) : ¬ (fail d : Elaboration α).IsOk := by
  rintro ⟨a, ha⟩
  cases ha

theorem isOk_bind {x : Elaboration α} {f : α → Elaboration β} :
    (x >>= f).IsOk ↔ ∃ a, x.result = .ok a ∧ (f a).IsOk := by
  refine ⟨?_, ?_⟩
  · rintro ⟨b, hb⟩
    obtain ⟨a, ha, hb⟩ := result_bind hb
    exact ⟨a, ha, b, hb⟩
  · rintro ⟨a, ha, b, hb⟩
    refine ⟨b, ?_⟩
    rw [bind_ok ha]
    exact hb

/-- Nothing is refused where the result is only put into another form. -/
theorem isOk_map {x : Elaboration α} {g : α → β} : (g <$> x).IsOk ↔ x.IsOk := by
  show (x >>= fun a => pure (g a)).IsOk ↔ _
  rw [isOk_bind]
  simp [IsOk]

/-- Two results are put together if there are both. -/
theorem isOk_both {x : Elaboration α} {y : Elaboration β} {f : α → β → γ} :
    (do let a ← x; let b ← y; return f a b : Elaboration γ).IsOk ↔ x.IsOk ∧ y.IsOk := by
  rw [isOk_bind]
  refine ⟨?_, ?_⟩
  · rintro ⟨a, ha, h⟩
    exact ⟨⟨a, ha⟩, isOk_map.mp h⟩
  · rintro ⟨⟨a, ha⟩, hy⟩
    exact ⟨a, ha, isOk_map.mpr hy⟩

end Elaboration

namespace Node

open Elaboration

variable {base : Url} {members : Json.Members}

/-! ### Parts -/

/-- A reference is one to a location that can be resolved. -/
theorem isOk_elaborateReference_iff {v : Json} :
    (elaborateReference base v).IsOk ↔
      ∃ text location, v = .string text ∧ Reference.resolve base text = .ok location := by
  unfold elaborateReference
  split
  · rename_i text
    split
    · rename_i location hresolve
      exact iff_of_true ⟨_, rfl⟩ ⟨text, location, rfl, hresolve⟩
    · rename_i fault hresolve
      refine iff_of_false (not_isOk_fail _) ?_
      rintro ⟨text', location, heq, hresolve'⟩
      cases heq
      rw [hresolve] at hresolve'
      cases hresolve'
  · rename_i hstring
    refine iff_of_false (not_isOk_fail _) ?_
    rintro ⟨text, -, rfl, -⟩
    exact hstring text rfl

/-- A list of types has names of types and schemas. -/
theorem isOk_elaborateEntries_iff {entries : List Json} :
    (elaborateEntries base entries).IsOk ↔
      (∀ entry ∈ entries, (∃ name, entry = .string name ∧ IsTypeName name) ∨
        ∃ nested, entry = .object nested) ∧
      ∀ nested, .object nested ∈ entries → (elaborate base (.object nested)).IsOk := by
  have hentry : ∀ entry, (elaborateEntry base entry).IsOk ↔
      (∃ name, entry = .string name ∧ IsTypeName name) ∨
        ∃ nested, entry = .object nested ∧ (elaborate base (.object nested)).IsOk := by
    intro entry
    rw [elaborateEntry.eq_def]
    cases entry with
    | string name => simp [exists_named?_iff]
    | object nested => simp
    | _ => simp
  have hall : (elaborateEntries base entries).IsOk ↔
      ∀ entry ∈ entries, (elaborateEntry base entry).IsOk := by
    induction entries with
    | nil =>
      rw [elaborateEntries]
      simp
    | cons entry rest ih =>
      rw [elaborateEntries, isOk_both, ih, List.forall_mem_cons]
  rw [hall]
  simp only [hentry]
  refine ⟨fun h => ⟨fun e he => ?_, fun nested hnested => ?_⟩, fun h e he => ?_⟩
  · rcases h e he with hname | ⟨nested, rfl, -⟩
    · exact .inl hname
    · exact .inr ⟨nested, rfl⟩
  · rcases h _ hnested with ⟨name, heq, -⟩ | ⟨nested', heq, hok⟩
    · cases heq
    · cases heq
      exact hok
  · rcases h.1 e he with hname | ⟨nested, rfl⟩
    · exact .inl hname
    · exact .inr ⟨nested, rfl, h.2 nested he⟩

/-- Whether a declared member is required is said by a truth value or not at all. -/
theorem exists_required?_iff {raw : Json} :
    (∃ b, required? raw = .ok b) ↔ ∀ entry, raw = .object entry →
      ∀ v, Json.Members.get? entry "required" = some v → ∃ b, v = .bool b := by
  cases raw with
  | object entry =>
    simp only [required?, Json.object.injEq, forall_eq', ← exists_boolKeyword?_iff]
    rcases boolKeyword? entry "required" with d | o <;> simp [Except.map]
  | _ => simp [required?]

/-- The declared members have schemas. -/
theorem isOk_elaborateDeclared_iff :
    (elaborateDeclared base members).IsOk ↔
      (∀ v, members.get? "properties" = some v → ∃ entries, v = .object entries) ∧
      ∀ name schema, (name, schema) ∈ members.declared →
        (∃ b, required? schema = .ok b) ∧ (elaborate base schema).IsOk := by
  have hall : ∀ entries : Json.Members, (elaborateProperties base entries).IsOk ↔
      ∀ entry ∈ entries, (∃ b, required? entry.2 = .ok b) ∧ (elaborate base entry.2).IsOk := by
    intro entries
    induction entries with
    | nil =>
      rw [elaborateProperties]
      simp
    | cons entry rest ih =>
      obtain ⟨name, raw⟩ := entry
      rw [elaborateProperties, isOk_bind, List.forall_mem_cons]
      simp only [isOk_both, ih, result_ofExcept, exists_and_right, and_assoc]
  rw [elaborateDeclared.eq_def]
  unfold Json.Members.declared
  rcases members.get? "properties" with _ | v
  · simp
  · cases v with
    | object entries => simp [hall]
    | _ => simp

/-- Undeclared members are allowed or not, or have a schema. -/
theorem isOk_elaborateAdditional_iff :
    (elaborateAdditional base members).IsOk ↔
      (∀ v, members.get? "additionalProperties" = some v →
        (∃ b, v = .bool b) ∨ ∃ nested, v = .object nested) ∧
      ∀ nested, members.get? "additionalProperties" = some (.object nested) →
        (elaborate base (.object nested)).IsOk := by
  rw [elaborateAdditional.eq_def]
  rcases members.get? "additionalProperties" with _ | v
  · simp
  · cases v with
    | bool b => cases b <;> simp
    | object nested => simp [isOk_map]
    | _ => simp

/-- The members of an object have schemas, declared or not. -/
theorem isOk_elaborateObject_iff :
    (elaborateObject base members).IsOk ↔
      ((∀ v, members.get? "additionalProperties" = some v →
          (∃ b, v = .bool b) ∨ ∃ nested, v = .object nested) ∧
        (∀ v, members.get? "properties" = some v → ∃ entries, v = .object entries) ∧
        ∀ name entry, (name, .object entry) ∈ members.declared →
          ∀ v, Json.Members.get? entry "required" = some v → ∃ b, v = .bool b) ∧
      ∀ schema, ((∃ name, (name, schema) ∈ members.declared) ∨
        ∃ nested, members.get? "additionalProperties" = some (.object nested) ∧
          .object nested = schema) → (elaborate base schema).IsOk := by
  rw [elaborateObject, isOk_both, isOk_elaborateAdditional_iff, isOk_elaborateDeclared_iff]
  simp only [exists_required?_iff]
  refine ⟨?_, ?_⟩
  · rintro ⟨⟨hadditional, hnested⟩, hproperties, hdeclared⟩
    refine ⟨⟨hadditional, hproperties, fun name entry hmem =>
      (hdeclared name _ hmem).1 entry rfl⟩, ?_⟩
    rintro schema (⟨name, hmem⟩ | ⟨nested, hmem, rfl⟩)
    · exact (hdeclared name schema hmem).2
    · exact hnested nested hmem
  · rintro ⟨⟨hadditional, hproperties, hrequired⟩, hschemas⟩
    refine ⟨⟨hadditional, fun nested hmem => hschemas _ (.inr ⟨nested, hmem, rfl⟩)⟩, hproperties,
      fun name schema hmem => ⟨?_, hschemas schema (.inl ⟨name, hmem⟩)⟩⟩
    rintro entry rfl
    exact hrequired name entry hmem

/-- Only objects are schemas. -/
theorem object_of_isOk_elaborate {raw : Json} (h : (elaborate base raw).IsOk) :
    ∃ members, raw = .object members := by
  obtain ⟨n, hn⟩ := h
  obtain ⟨members, rfl, -⟩ := elaborates_of_result hn
  exact ⟨members, rfl⟩

/-- The elements of an array have a schema. -/
theorem isOk_elaborateItems_iff :
    (elaborateItems base members).IsOk ↔
      ∀ schema, members.get? "items" = some schema → (elaborate base schema).IsOk := by
  rw [elaborateItems.eq_def]
  rcases members.get? "items" with _ | v
  · simp
  · cases v with
    | object nested => simp
    | _ =>
      refine iff_of_false (by simp) fun h => ?_
      obtain ⟨members, heq⟩ := object_of_isOk_elaborate (h _ rfl)
      cases heq

/-- An array's elements have a schema, and its bounds are counts. -/
theorem isOk_elaborateArray_iff :
    (elaborateArray base members).IsOk ↔
      (∀ keyword ∈ ["minItems", "maxItems"], ∀ v, members.get? keyword = some v →
        (count? v).isSome) ∧
      ∀ schema, members.get? "items" = some schema → (elaborate base schema).IsOk := by
  rw [elaborateArray, isOk_bind, forall_mem_pair, ← exists_countKeyword?_iff,
    ← exists_countKeyword?_iff, ← isOk_elaborateItems_iff]
  simp only [isOk_bind, result_ofExcept, pure_eq, isOk_ofExcept]
  refine ⟨?_, ?_⟩
  · rintro ⟨items, hitems, lower, hlower, upper, hupper, -⟩
    exact ⟨⟨⟨lower, hlower⟩, upper, hupper⟩, items, hitems⟩
  · rintro ⟨⟨⟨lower, hlower⟩, upper, hupper⟩, items, hitems⟩
    exact ⟨items, hitems, lower, hlower, upper, hupper, _, rfl⟩

/-! ### One step -/

/-- A value becomes a node if it can stand where a schema is expected and the schemas right
below it become nodes. -/
theorem isOk_elaborate_iff {raw : Json} :
    (elaborate base raw).IsOk ↔
      Legal base raw ∧ ∀ part, raw.Subschema part → (elaborate base part).IsOk := by
  rw [elaborate.eq_def]
  split
  · rename_i members
    split
    · -- Beside a reference nothing is looked at.
      rename_i target href
      rw [isOk_elaborateReference_iff, legal_reference_iff href]
      exact (and_iff_left fun part h => absurd h (not_subschema_of_reference href)).symm
    · rename_i href
      split
      · -- Without a type there are no keywords to look at.
        rename_i htype
        refine iff_of_true ⟨_, rfl⟩ ⟨.untyped href htype, fun part h => ?_⟩
        exact absurd h (not_subschema_of_type (by simp [htype]) (by simp [htype]) (by simp [htype]))
      · rename_i htype
        rw [isOk_elaborateObject_iff, legal_object_iff href htype]
        simp only [subschema_object_iff href htype]
      · rename_i htype
        simp only [isOk_elaborateArray_iff, legal_array_iff href htype,
          subschema_array_iff href htype]
      · -- The name of a simple type, or of none.
        rename_i name hobject harray htype
        have hnone : ∀ part, ¬ Json.Subschema (.object members) part := fun part =>
          not_subschema_of_type (by simpa [htype] using hobject) (by simpa [htype] using harray)
            (by simp [htype])
        rw [isOk_ofExcept, exists_simple?_iff, legal_simple_iff href htype hobject harray]
        exact (and_iff_left fun part h => absurd h (hnone part)).symm
      · rename_i entries htype
        simp only [isOk_map, isOk_elaborateEntries_iff, legal_union_iff href htype,
          subschema_iff_alternative htype, alternative_iff href htype, forall_exists_index,
          and_imp, forall_apply_eq_imp_iff₂]
      · -- Neither a name nor a list.
        rename_i v _ _ hstring harray htype
        refine iff_of_false (not_isOk_fail _) fun h => ?_
        rcases h.1.type_cases href htype with ⟨name, rfl⟩ | ⟨entries, rfl⟩
        · exact hstring name rfl
        · exact harray entries rfl
  · rename_i hobject
    refine iff_of_false (not_isOk_fail _) fun h => ?_
    cases h.1 <;> exact hobject _ rfl

/-! ### All steps -/

/-- A schema is larger than those that stand in it. -/
theorem sizeOf_lt_of_subschema {raw part : Json} (h : raw.Subschema part) :
    sizeOf part < sizeOf raw := by
  cases h with
  | alternative h =>
    cases h with
    | intro _ htype hmem =>
      have hlist := Json.Members.sizeOf_lt_of_get?_eq_some htype
      have hentry := List.sizeOf_lt_of_mem hmem
      simp only [Json.array.sizeOf_spec, Json.object.sizeOf_spec] at hlist hentry ⊢
      omega
  | @declared members name _ _ _ hmem =>
    have hentry := Json.Members.sizeOf_lt_of_mem hmem
    unfold Json.Members.declared at hmem hentry
    split at hmem
    · rename_i entries hentries
      have hobject := Json.Members.sizeOf_lt_of_get?_eq_some hentries
      simp only [hentries] at hentry
      simp only [Json.object.sizeOf_spec] at hobject ⊢
      omega
    · simp at hmem
  | additional _ _ hnested =>
    have hlt := Json.Members.sizeOf_lt_of_get?_eq_some hnested
    simp only [Json.object.sizeOf_spec] at hlt ⊢
    omega
  | items _ _ hitems =>
    have hlt := Json.Members.sizeOf_lt_of_get?_eq_some hitems
    simp only [Json.object.sizeOf_spec]
    omega

/-- A value is a schema if it can stand where one is expected and what stands in it where
schemas are expected are schemas. -/
theorem wellFormed_iff {raw : Json} :
    WellFormed base raw ↔ Legal base raw ∧ ∀ part, raw.Subschema part → WellFormed base part := by
  refine ⟨fun h => ⟨h raw .refl, fun part hpart p hp => h p (hp.head hpart)⟩, ?_⟩
  rintro ⟨hlegal, hparts⟩ p hp
  rcases ReflTransGen.cases_head hp with rfl | ⟨part, hpart, hp⟩
  · exact hlegal
  · exact hparts part hpart p hp

/-- A value becomes a node exactly if it is a schema. -/
theorem exists_elaborate_iff_wellFormed {raw : Json} :
    (∃ n, (elaborate base raw).result = .ok n) ↔ WellFormed base raw := by
  induction hsize : sizeOf raw using Nat.strongRecOn generalizing raw with
  | _ size ih =>
    show (elaborate base raw).IsOk ↔ _
    rw [isOk_elaborate_iff, wellFormed_iff]
    refine and_congr_right fun _ => forall₂_congr fun part hpart => ?_
    exact ih (sizeOf part) (hsize ▸ sizeOf_lt_of_subschema hpart) rfl

/-! ### References -/

/-- The value becomes a node that has a location among some of those that nodes have. -/
def Mentions (base : Url) (f : Node → List Url) (u : Url) (raw : Json) : Prop :=
  ∃ n, (elaborate base raw).result = .ok n ∧ u ∈ f n

variable {u : Url}

/-- A value that becomes a node has the locations of that node. -/
theorem mentions_iff {f : Node → List Url} {raw : Json} {n : Node}
    (h : (elaborate base raw).result = .ok n) : Mentions base f u raw ↔ u ∈ f n := by
  simp [Mentions, h]

/-- Schemas in a list of types are what the members of a union come from that refer to
anything. -/
theorem exists_member_iff {f : Node → List Url} (hf : ∀ n, f n ⊆ n.references)
    {entries : List Json} {nodes : List Node}
    (hentries : (elaborateEntries base entries).result = .ok nodes) :
    (∃ n ∈ nodes, u ∈ f n) ↔
      ∃ nested, .object nested ∈ entries ∧ Mentions base f u (.object nested) := by
  have hiff : (∃ entry ∈ entries, ∃ nested, entry = .object nested ∧
      Mentions base f u (.object nested)) ↔ ∃ n ∈ nodes, u ∈ f n := by
    refine exists_mem_iff_of_forall₂ (elaborateEntries_result hentries) fun entry n _ hentry => ?_
    rcases elaborateEntry_result hentry with ⟨name, rfl, hname⟩ | ⟨nested, rfl, hnested⟩
    · -- A type that is only named refers to nothing.
      refine iff_of_false (by simp) fun hu => ?_
      have hmem := hf n hu
      rw [references_of_named? hname] at hmem
      cases hmem
    · simp [mentions_iff hnested]
  rw [← hiff]
  refine ⟨?_, ?_⟩
  · rintro ⟨entry, hmem, nested, rfl, hu⟩
    exact ⟨nested, hmem, hu⟩
  · rintro ⟨nested, hmem, hu⟩
    exact ⟨_, hmem, nested, rfl, hu⟩

/-- Properties come from the declared members. -/
theorem exists_property_iff {properties : List (Property Node)}
    (hdeclared : (elaborateDeclared base members).result = .ok properties) :
    (∃ p ∈ properties, u ∈ p.schema.references) ↔
      ∃ name schema, (name, schema) ∈ members.declared ∧ Mentions base references u schema := by
  obtain ⟨entries, hentries, hproperties⟩ := elaborateDeclared_result hdeclared
  have heq : members.declared = entries := by
    unfold Json.Members.declared
    rcases hproperties with ⟨hnone, rfl⟩ | hsome
    · rw [hnone]
    · rw [hsome]
  have hiff : (∃ entry ∈ entries, Mentions base references u entry.2) ↔
      ∃ p ∈ properties, u ∈ p.schema.references :=
    exists_mem_iff_of_forall₂ hentries fun entry p _ hp => mentions_iff hp.schema
  rw [← hiff, heq, Prod.exists]

/-- The schema of undeclared members comes from the keyword for them. -/
theorem exists_additional_iff {additional : Additional Node}
    (hadditional : (elaborateAdditional base members).result = .ok additional) :
    u ∈ additionalReferences additional ↔ ∃ nested,
      members.get? "additionalProperties" = some (.object nested) ∧
        Mentions base references u (.object nested) := by
  rcases elaborateAdditional_result hadditional with
    ⟨rfl, hnone | htrue⟩ | ⟨rfl, hfalse⟩ | ⟨nested, schema, rfl, hnested, hschema⟩
  · simp [additionalReferences, hnone]
  · simp [additionalReferences, htrue]
  · simp [additionalReferences, hfalse]
  · simp [additionalReferences, hnested, mentions_iff hschema]

/-- The schema of elements comes from the keyword for them. -/
theorem exists_items_iff {items : Node}
    (hitems : (elaborateItems base members).result = .ok items) :
    u ∈ items.references ↔
      ∃ schema, members.get? "items" = some schema ∧ Mentions base references u schema := by
  rcases elaborateItems_result hitems with ⟨rfl, hnone⟩ | ⟨nested, hnested, hschema⟩
  · simp [any, references, hnone]
  · simp [hnested, mentions_iff hschema]

/-- The node of a schema refers to what the schema is a reference to, or else to what the
nodes of the schemas in it refer to. -/
theorem mem_references_step {raw : Json} {n : Node} (h : (elaborate base raw).result = .ok n) :
    u ∈ n.references ↔
      raw.RefersTo base u ∨ ∃ part, raw.Subschema part ∧ Mentions base references u part := by
  obtain ⟨members, rfl, helaborates⟩ := elaborates_of_result h
  -- A node without references comes from a value in which no schema stands.
  have hnothing : n.references = [] → Json.Members.get? members "$ref" = none →
      (∀ part, ¬ Json.Subschema (.object members) part) →
        (u ∈ n.references ↔ Json.RefersTo base (.object members) u ∨ ∃ part,
          Json.Subschema (.object members) part ∧ Mentions base references u part) := by
    intro hreferences href hnone
    refine iff_of_false (by simp [hreferences]) ?_
    rintro (hu | ⟨part, hpart, -⟩)
    · exact not_refersTo href hu
    · exact hnone part hpart
  cases helaborates with
  | reference href hresolve =>
    rw [references, List.mem_singleton, refersTo_iff href hresolve]
    refine (or_iff_left ?_).symm
    rintro ⟨part, hpart, -⟩
    exact not_subschema_of_reference href hpart
  | untyped href htype =>
    exact hnothing rfl href fun part =>
      not_subschema_of_type (by simp [htype]) (by simp [htype]) (by simp [htype])
  | @object properties additional href htype hdeclared hadditional =>
    rw [references, List.mem_append, mem_propertyReferences, exists_property_iff hdeclared,
      exists_additional_iff hadditional, or_iff_right (not_refersTo href)]
    simp only [subschema_object_iff href htype]
    refine ⟨?_, ?_⟩
    · rintro (⟨nested, hnested, hu⟩ | ⟨name, schema, hmem, hu⟩)
      · exact ⟨_, .inr ⟨nested, hnested, rfl⟩, hu⟩
      · exact ⟨schema, .inl ⟨name, hmem⟩, hu⟩
    · rintro ⟨part, ⟨name, hmem⟩ | ⟨nested, hnested, rfl⟩, hu⟩
      · exact .inr ⟨name, part, hmem, hu⟩
      · exact .inl ⟨nested, hnested, hu⟩
  | array href htype hitems =>
    simp only [references, exists_items_iff hitems, or_iff_right (not_refersTo href),
      subschema_array_iff href htype]
  | @simple name type keywords schema href htype hname hkeywords hschema =>
    have hobject : name ≠ "object" := by
      rintro rfl
      simp [ofName?_object] at hname
    have harray : name ≠ "array" := by
      rintro rfl
      simp [ofName?_array] at hname
    exact hnothing rfl href fun part => not_subschema_of_type (by simpa [htype] using hobject)
      (by simpa [htype] using harray) (by simp [htype])
  | union href htype hentries =>
    have hself : ∀ n : Node, n.references ⊆ n.references := fun n => List.Subset.refl _
    simp only [references, mem_memberReferences, exists_member_iff hself hentries,
      or_iff_right (not_refersTo href), subschema_iff_alternative htype,
      alternative_iff href htype, exists_exists_and_eq_and]

/-- The node of a schema leaves it to what the schema is a reference to, or else to what the
nodes of its alternatives leave it to, which types of values it accepts. -/
theorem mem_gates_step {raw : Json} {n : Node} (h : (elaborate base raw).result = .ok n) :
    u ∈ n.gates ↔
      raw.RefersTo base u ∨ ∃ part, raw.Alternative part ∧ Mentions base gates u part := by
  obtain ⟨members, rfl, helaborates⟩ := elaborates_of_result h
  have hnothing : n.gates = [] → Json.Members.get? members "$ref" = none →
      (∀ entries, Json.Members.get? members "type" ≠ some (.array entries)) →
        (u ∈ n.gates ↔ Json.RefersTo base (.object members) u ∨ ∃ part,
          Json.Alternative (.object members) part ∧ Mentions base gates u part) := by
    intro hgates href hunion
    refine iff_of_false (by simp [hgates]) ?_
    rintro (hu | ⟨part, hpart, -⟩)
    · exact not_refersTo href hu
    · exact not_alternative_of_type hunion hpart
  cases helaborates with
  | reference href hresolve =>
    rw [gates, List.mem_singleton, refersTo_iff href hresolve]
    refine (or_iff_left ?_).symm
    rintro ⟨part, hpart, -⟩
    exact not_subschema_of_reference href (.alternative hpart)
  | union href htype hentries =>
    have hgates : ∀ n : Node, n.gates ⊆ n.references := fun n u hu =>
      mem_references_of_mem_gates hu
    simp only [gates, mem_memberGates, exists_member_iff hgates hentries,
      or_iff_right (not_refersTo href), alternative_iff href htype, exists_exists_and_eq_and]
  | untyped href htype | object href htype | array href htype | simple href htype =>
    exact hnothing rfl href (by simp [htype])

/-- Where one step is known, so are all of them. -/
theorem mem_iff_of_step {R : Json → Json → Prop} {f : Node → List Url}
    (hR : ∀ {raw part : Json}, R raw part → raw.Subschema part)
    (hstep : ∀ {raw : Json} {n : Node}, (elaborate base raw).result = .ok n →
      (u ∈ f n ↔ raw.RefersTo base u ∨ ∃ part, R raw part ∧ Mentions base f u part))
    {raw : Json} {n : Node} (h : (elaborate base raw).result = .ok n) :
    u ∈ f n ↔ ∃ part, ReflTransGen R raw part ∧ part.RefersTo base u := by
  refine ⟨fun hu => ?_, ?_⟩
  · -- On the size of the value, since each step leads to a part of it.
    induction hsize : sizeOf raw using Nat.strongRecOn generalizing raw n with
    | _ size ih =>
      rcases (hstep h).mp hu with href | ⟨part, hpart, n', hn', hu⟩
      · exact ⟨raw, .refl, href⟩
      · obtain ⟨p, hp, href⟩ :=
          ih (sizeOf part) (hsize ▸ sizeOf_lt_of_subschema (hR hpart)) hn' hu rfl
        exact ⟨p, hp.head hpart, href⟩
  · -- On the path to the part: what stands on it becomes a node, since the whole does.
    rintro ⟨part, hpart, href⟩
    induction hpart using ReflTransGen.head_induction_on generalizing n with
    | refl => exact (hstep h).mpr (.inl href)
    | @head raw next hnext _ ih =>
      obtain ⟨n', hn'⟩ := (isOk_elaborate_iff.mp ⟨n, h⟩).2 next (hR hnext)
      exact (hstep h).mpr (.inr ⟨next, hnext, n', hn', ih hn'⟩)

/-- The node of a schema refers to what is referred to wherever a schema stands in it. -/
theorem mem_references_iff {raw : Json} {n : Node} (h : (elaborate base raw).result = .ok n) :
    u ∈ n.references ↔ ∃ part, ReflTransGen Json.Subschema raw part ∧ part.RefersTo base u :=
  mem_iff_of_step id (fun h => mem_references_step h) h

/-- The node of a schema leaves it to the references among its alternatives which types of
values it accepts. -/
theorem mem_gates_iff {raw : Json} {n : Node} (h : (elaborate base raw).result = .ok n) :
    u ∈ n.gates ↔ ∃ part, ReflTransGen Json.Alternative raw part ∧ part.RefersTo base u :=
  mem_iff_of_step .alternative (fun h => mem_gates_step h) h

end Node
end DraftSchema
