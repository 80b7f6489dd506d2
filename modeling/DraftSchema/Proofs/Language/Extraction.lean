import DraftSchema.Proofs.Language.Absolute
import DraftSchema.Proofs.Node.Inlining

/-!
# `DraftSchema.Proofs.Language.Extraction`: a reference in the place of a schema

`Json.Extracts` puts a reference into a schema, where one of the schemas in it stood. If the
schema is that of a declared property, it is still said beside the reference whether the
property is required. The theorems:

* `Json.Extracts.subschema` and `Json.Extracts.refersTo`: what stood there, and what stands
  there now.
* `Json.Extracts.expands`: the node of the first schema is that of the second one, with
  the node of the schema that was taken out in the place of the reference.
-/

set_option autoImplicit false

namespace DraftSchema

open Relation

/-! ### Members -/

namespace Json

/-- A member that was set has its new value, and the others keep theirs. -/
theorem Members.get?_insert (members : Members) (name other : String) (value : Json) :
    (members.insert name value).get? other
      = if other = name then some value else members.get? other := by
  induction members with
  | nil => rw [insert, get?_cons]
  | cons entry rest ih =>
    obtain ⟨first, v⟩ := entry
    rw [insert]
    by_cases hfirst : first = name
    · rw [if_pos hfirst, get?_cons, get?_cons, hfirst]
      split <;> rfl
    · rw [if_neg hfirst, get?_cons, get?_cons, ih]
      by_cases hother : other = first
      · rw [if_pos hother, if_pos hother, if_neg (hother ▸ hfirst)]
      · rw [if_neg hother, if_neg hother]

theorem Members.get?_insert_self (members : Members) (name : String) (value : Json) :
    (members.insert name value).get? name = some value := by
  rw [get?_insert, if_pos rfl]

theorem Members.get?_insert_of_ne {members : Members} {name other : String} (value : Json)
    (h : other ≠ name) : (members.insert name value).get? other = members.get? other := by
  rw [get?_insert, if_neg h]

/-! ### References in the place of schemas -/

/-- The members of a schema that is a reference, with what it says about being required. -/
def link (reference : String) (required : Option Json) : Members :=
  ("$ref", .string reference) :: (required.map fun v => ("required", v)).toList

/-- The second schema is the first one with a reference in the place of one schema in it.
The flag tells that it is the schema of a declared property as a whole. -/
inductive Extracts (reference : String) (part : Members) : Bool → Json → Json → Prop where
  | here (isDeclared : Bool) :
      Extracts reference part isDeclared (.object part)
        (.object (link reference (if isDeclared then part.get? "required" else none)))
  | alternative {isDeclared : Bool} {members : Members} {front back : List Json}
      {raw raw' : Json} (href : members.get? "$ref" = none)
      (htype : members.get? "type" = some (.array (front ++ raw :: back)))
      (h : Extracts reference part false raw raw') :
      Extracts reference part isDeclared (.object members)
        (.object (members.insert "type" (.array (front ++ raw' :: back))))
  | declared {isDeclared : Bool} {members front back : Members} {name : String}
      {raw raw' : Json} (href : members.get? "$ref" = none)
      (htype : members.get? "type" = some (.string "object"))
      (hproperties : members.get? "properties" = some (.object (front ++ (name, raw) :: back)))
      (h : Extracts reference part true raw raw') :
      Extracts reference part isDeclared (.object members)
        (.object (members.insert "properties" (.object (front ++ (name, raw') :: back))))
  | additional {isDeclared : Bool} {members : Members} {raw raw' : Json}
      (href : members.get? "$ref" = none)
      (htype : members.get? "type" = some (.string "object"))
      (hadditional : members.get? "additionalProperties" = some raw)
      (h : Extracts reference part false raw raw') :
      Extracts reference part isDeclared (.object members)
        (.object (members.insert "additionalProperties" raw'))
  | items {isDeclared : Bool} {members : Members} {raw raw' : Json}
      (href : members.get? "$ref" = none)
      (htype : members.get? "type" = some (.string "array"))
      (hitems : members.get? "items" = some raw) (h : Extracts reference part false raw raw') :
      Extracts reference part isDeclared (.object members)
        (.object (members.insert "items" raw'))

variable {reference : String} {part : Members} {isDeclared : Bool} {raw raw' : Json}
  {base u : Url}

theorem get?_link_ref (reference : String) (required : Option Json) :
    Members.get? (link reference required) "$ref" = some (.string reference) := by
  simp [link, Members.get?]

theorem get?_link_required (reference : String) (required : Option Json) :
    Members.get? (link reference required) "required" = required := by
  rw [link, Members.get?_cons, if_neg (by decide)]
  cases required with
  | none => rfl
  | some v => exact List.lookup_cons_self

namespace Extracts

/-- Both schemas are objects. -/
theorem exists_object (h : Extracts reference part isDeclared raw raw') :
    (∃ members, raw = .object members) ∧ ∃ members, raw' = .object members := by
  cases h <;> exact ⟨⟨_, rfl⟩, _, rfl⟩

/-- The schema that is taken out stands in the first schema. -/
theorem subschema (h : Extracts reference part isDeclared raw raw') :
    ReflTransGen Json.Subschema raw (.object part) := by
  induction h with
  | here _ => exact .refl
  | @alternative _ _ front back raw _ href htype h ih =>
    obtain ⟨⟨nested, rfl⟩, -⟩ := h.exists_object
    exact ih.head (.alternative (.intro href htype (by simp)))
  | @declared _ members _ _ name raw _ href htype hproperties _ ih =>
    have hmem : (name, raw) ∈ members.declared := by simp [Members.declared, hproperties]
    exact ih.head (.declared href htype hmem)
  | additional href htype hadditional h ih =>
    obtain ⟨⟨nested, rfl⟩, -⟩ := h.exists_object
    exact ih.head (.additional href htype hadditional)
  | items href htype hitems _ ih => exact ih.head (.items href htype hitems)

/-- A reference stands in the second schema. -/
theorem refersTo (h : Extracts reference part isDeclared raw raw')
    (hresolve : Reference.resolve base reference = .ok u) :
    ∃ inner, ReflTransGen Json.Subschema raw' inner ∧ inner.RefersTo base u := by
  induction h with
  | here _ =>
    exact ⟨_, .refl, .intro (get?_link_ref _ _) (Reference.resolve_eq_ok_iff.mp hresolve)⟩
  | alternative href htype h ih =>
    obtain ⟨inner, hinner, hrefers⟩ := ih
    obtain ⟨-, nested, rfl⟩ := h.exists_object
    rw [← Members.get?_insert_of_ne _ (by decide : "$ref" ≠ "type")] at href
    exact ⟨inner, hinner.head (.alternative (.intro href (Members.get?_insert_self _ _ _)
      (by simp))), hrefers⟩
  | @declared _ members front back name _ raw' href htype hproperties _ ih =>
    obtain ⟨inner, hinner, hrefers⟩ := ih
    rw [← Members.get?_insert_of_ne _ (by decide : "$ref" ≠ "properties")] at href
    rw [← Members.get?_insert_of_ne _ (by decide : "type" ≠ "properties")] at htype
    have hmem : (name, raw')
        ∈ (members.insert "properties" (.object (front ++ (name, raw') :: back))).declared := by
      simp [Members.declared, Members.get?_insert_self]
    exact ⟨inner, hinner.head (.declared href htype hmem), hrefers⟩
  | additional href htype hadditional h ih =>
    obtain ⟨inner, hinner, hrefers⟩ := ih
    obtain ⟨-, nested, rfl⟩ := h.exists_object
    rw [← Members.get?_insert_of_ne _ (by decide : "$ref" ≠ "additionalProperties")] at href
    rw [← Members.get?_insert_of_ne _ (by decide : "type" ≠ "additionalProperties")] at htype
    exact ⟨inner, hinner.head (.additional href htype (Members.get?_insert_self _ _ _)), hrefers⟩
  | items href htype hitems _ ih =>
    obtain ⟨inner, hinner, hrefers⟩ := ih
    rw [← Members.get?_insert_of_ne _ (by decide : "$ref" ≠ "items")] at href
    rw [← Members.get?_insert_of_ne _ (by decide : "type" ≠ "items")] at htype
    exact ⟨inner, hinner.head (.items href htype (Members.get?_insert_self _ _ _)), hrefers⟩

end Extracts
end Json

namespace Node

open Elaboration

variable {base u : Url} {members : Json.Members} {t : Node}

/-! ### One schema in another

Where a schema stands in another one, the node of the whole is made from the node of the part
and what stands around it. -/

theorem elaborate_of_reference {v : Json} (href : members.get? "$ref" = some v) :
    elaborate base (.object members) = elaborateReference base v := by
  rw [elaborate.eq_def]
  simp only [href]

theorem elaborate_of_union {entries : List Json} (href : members.get? "$ref" = none)
    (htype : members.get? "type" = some (.array entries)) :
    elaborate base (.object members) = .union <$> elaborateEntries base entries := by
  rw [elaborate.eq_def]
  simp only [href]
  split <;> simp_all

theorem elaborate_of_object (href : members.get? "$ref" = none)
    (htype : members.get? "type" = some (.string "object")) :
    elaborate base (.object members) = elaborateObject base members := by
  rw [elaborate.eq_def]
  simp only [href]
  split <;> simp_all

theorem elaborate_of_array (href : members.get? "$ref" = none)
    (htype : members.get? "type" = some (.string "array")) :
    elaborate base (.object members) = elaborateArray base members := by
  rw [elaborate.eq_def]
  simp only [href]
  split <;> simp_all

theorem elaborateEntries_cons_iff {entry : Json} {rest : List Json} {nodes : List Node} :
    (elaborateEntries base (entry :: rest)).result = .ok nodes ↔
      ∃ n ns, (elaborateEntry base entry).result = .ok n ∧
        (elaborateEntries base rest).result = .ok ns ∧ n :: ns = nodes := by
  rw [elaborateEntries, result_both_iff]

/-- The members of a union stand in the order of the entries. -/
theorem elaborateEntries_append_cons_iff {front back : List Json} {entry : Json}
    {nodes : List Node} :
    (elaborateEntries base (front ++ entry :: back)).result = .ok nodes ↔
      ∃ ns n ns', (elaborateEntries base front).result = .ok ns ∧
        (elaborateEntry base entry).result = .ok n ∧
        (elaborateEntries base back).result = .ok ns' ∧ ns ++ n :: ns' = nodes := by
  induction front generalizing nodes with
  | nil =>
    have hnil : (elaborateEntries base []).result = .ok [] := by
      rw [elaborateEntries]
      rfl
    rw [List.nil_append, elaborateEntries_cons_iff]
    simp [hnil]
  | cons first rest ih =>
    rw [List.cons_append, elaborateEntries_cons_iff]
    simp only [ih, elaborateEntries_cons_iff]
    refine ⟨?_, ?_⟩
    · rintro ⟨m, nodes, hm, ⟨ns, n, ns', hns, hn, hns', rfl⟩, rfl⟩
      exact ⟨m :: ns, n, ns', ⟨m, ns, hm, hns, rfl⟩, hn, hns', rfl⟩
    · rintro ⟨ms, n, ns', ⟨m, ns, hm, hns, rfl⟩, hn, hns', rfl⟩
      exact ⟨m, ns ++ n :: ns', hm, ⟨ns, n, ns', hns, hn, hns', rfl⟩, rfl⟩

theorem elaborateProperties_cons_iff {name : String} {raw : Json} {rest : Json.Members}
    {properties : List (Property Node)} :
    (elaborateProperties base ((name, raw) :: rest)).result = .ok properties ↔
      ∃ required schema ps, required? raw = .ok required ∧
        (elaborate base raw).result = .ok schema ∧
        (elaborateProperties base rest).result = .ok ps ∧
        ⟨name, required, schema⟩ :: ps = properties := by
  rw [elaborateProperties, result_bind_iff]
  simp only [result_both_iff, result_ofExcept]
  constructor
  · rintro ⟨required, hrequired, schema, ps, h⟩
    exact ⟨required, schema, ps, hrequired, h⟩
  · rintro ⟨required, schema, ps, hrequired, h⟩
    exact ⟨required, hrequired, schema, ps, h⟩

/-- The declared properties stand in the order of the entries. -/
theorem elaborateProperties_append_cons_iff {front back : Json.Members} {name : String}
    {raw : Json} {properties : List (Property Node)} :
    (elaborateProperties base (front ++ (name, raw) :: back)).result = .ok properties ↔
      ∃ ps required schema ps', (elaborateProperties base front).result = .ok ps ∧
        required? raw = .ok required ∧ (elaborate base raw).result = .ok schema ∧
        (elaborateProperties base back).result = .ok ps' ∧
        ps ++ ⟨name, required, schema⟩ :: ps' = properties := by
  induction front generalizing properties with
  | nil =>
    have hnil : (elaborateProperties base []).result = .ok [] := by
      rw [elaborateProperties]
      rfl
    rw [List.nil_append, elaborateProperties_cons_iff]
    simp [hnil]
  | cons first rest ih =>
    obtain ⟨first, value⟩ := first
    rw [List.cons_append, elaborateProperties_cons_iff]
    simp only [ih, elaborateProperties_cons_iff]
    refine ⟨?_, ?_⟩
    · rintro ⟨q, m, properties, hq, hm, ⟨ps, required, n, ps', hps, hrequired, hn, hps', rfl⟩, rfl⟩
      exact ⟨_, required, n, ps', ⟨q, m, ps, hq, hm, hps, rfl⟩, hrequired, hn, hps', rfl⟩
    · rintro ⟨qs, required, n, ps', ⟨q, m, ps, hq, hm, hps, rfl⟩, hrequired, hn, hps', rfl⟩
      exact ⟨q, m, _, hq, hm, ⟨ps, required, n, ps', hps, hrequired, hn, hps', rfl⟩, rfl⟩

/-! ### Wholes -/

/-- The node of the first value is that of the second one with the node `t` in the place of
references to `u`. -/
def Expands (base u : Url) (t : Node) (raw raw' : Json) : Prop :=
  ∀ n, (elaborate base raw).result = .ok n ↔
    ∃ n', (elaborate base raw').result = .ok n' ∧ n'.inline u t = n

/-- Let the nodes of two schemas be made in the same way from those of a part. If for the parts
one node is the other with `t` put in, then it is for the wholes, since no reference stands
around the part. -/
theorem Expands.of_context {γ : Type} {Context : γ → Prop} {fill : γ → Node → Node}
    {raw raw' sub sub' : Json} (hsub : Expands base u t sub sub')
    (hraw : ∀ n, (elaborate base raw).result = .ok n ↔
      ∃ c m, Context c ∧ (elaborate base sub).result = .ok m ∧ fill c m = n)
    (hraw' : ∀ n, (elaborate base raw').result = .ok n ↔
      ∃ c m, Context c ∧ (elaborate base sub').result = .ok m ∧ fill c m = n)
    (hinline : ∀ c m, (fill c (m.inline u t)).Avoids u →
      (fill c m).inline u t = fill c (m.inline u t))
    (havoids : ∀ n, (elaborate base raw).result = .ok n → n.Avoids u) :
    Expands base u t raw raw' := by
  intro n
  constructor
  · intro hn
    obtain ⟨c, m, hc, hm, rfl⟩ := (hraw n).mp hn
    obtain ⟨m', hm', rfl⟩ := (hsub m).mp hm
    exact ⟨fill c m', (hraw' _).mpr ⟨c, m', hc, hm', rfl⟩, hinline c m' (havoids _ hn)⟩
  · rintro ⟨n', hn', rfl⟩
    obtain ⟨c, m', hc, hm', rfl⟩ := (hraw' n').mp hn'
    have hn : (elaborate base raw).result = .ok (fill c (m'.inline u t)) :=
      (hraw _).mpr ⟨c, _, hc, (hsub _).mpr ⟨m', hm', rfl⟩, rfl⟩
    rw [hinline c m' (havoids _ hn)]
    exact hn

/-- The node of a list of types with a schema in it. -/
theorem elaborate_union_iff {front back : List Json} {nested : Json.Members}
    (href : members.get? "$ref" = none)
    (htype : members.get? "type" = some (.array (front ++ .object nested :: back))) (n : Node) :
    (elaborate base (.object members)).result = .ok n ↔ ∃ c : List Node × List Node, ∃ m,
      ((elaborateEntries base front).result = .ok c.1 ∧
        (elaborateEntries base back).result = .ok c.2) ∧
      (elaborate base (.object nested)).result = .ok m ∧ .union (c.1 ++ m :: c.2) = n := by
  have hentry : elaborateEntry base (.object nested) = elaborate base (.object nested) := by
    rw [elaborateEntry]
  rw [elaborate_of_union href htype, result_map_iff]
  simp only [elaborateEntries_append_cons_iff, hentry]
  refine ⟨?_, ?_⟩
  · rintro ⟨nodes, ⟨ns, m, ns', hns, hm, hns', rfl⟩, rfl⟩
    exact ⟨(ns, ns'), m, ⟨hns, hns'⟩, hm, rfl⟩
  · rintro ⟨⟨ns, ns'⟩, m, ⟨hns, hns'⟩, hm, rfl⟩
    exact ⟨_, ⟨ns, m, ns', hns, hm, hns', rfl⟩, rfl⟩

/-- What stands around the schema of a declared property. -/
structure DeclaredContext where
  additional : Additional Node
  front : List (Property Node)
  name : String
  required : Bool
  back : List (Property Node)

/-- The object with that schema. -/
def DeclaredContext.fill (c : DeclaredContext) (m : Node) : Node :=
  .object (c.front ++ ⟨c.name, c.required, m⟩ :: c.back) c.additional

/-- The node of an object with a declared property. -/
theorem elaborate_declared_iff {front back : Json.Members} {name : String} {raw : Json}
    (href : members.get? "$ref" = none) (htype : members.get? "type" = some (.string "object"))
    (hproperties : members.get? "properties" = some (.object (front ++ (name, raw) :: back)))
    (n : Node) :
    (elaborate base (.object members)).result = .ok n ↔ ∃ c : DeclaredContext, ∃ m,
      ((elaborateAdditional base members).result = .ok c.additional ∧
        (elaborateProperties base front).result = .ok c.front ∧ c.name = name ∧
        required? raw = .ok c.required ∧ (elaborateProperties base back).result = .ok c.back) ∧
      (elaborate base raw).result = .ok m ∧ c.fill m = n := by
  have hdeclared : elaborateDeclared base members
      = elaborateProperties base (front ++ (name, raw) :: back) := by
    rw [elaborateDeclared.eq_def, hproperties]
  rw [elaborate_of_object href htype, elaborateObject, result_both_iff, hdeclared]
  simp only [elaborateProperties_append_cons_iff]
  refine ⟨?_, ?_⟩
  · rintro ⟨additional, properties, hadditional,
      ⟨ps, required, m, ps', hps, hrequired, hm, hps', rfl⟩, rfl⟩
    exact ⟨⟨additional, ps, name, required, ps'⟩, m, ⟨hadditional, hps, rfl, hrequired, hps'⟩,
      hm, rfl⟩
  · rintro ⟨⟨additional, ps, _, required, ps'⟩, m, ⟨hadditional, hps, rfl, hrequired, hps'⟩,
      hm, rfl⟩
    exact ⟨additional, _, hadditional, ⟨ps, required, m, ps', hps, hrequired, hm, hps', rfl⟩, rfl⟩

/-- The node of an object with a schema for undeclared members. -/
theorem elaborate_additional_iff {nested : Json.Members} (href : members.get? "$ref" = none)
    (htype : members.get? "type" = some (.string "object"))
    (hadditional : members.get? "additionalProperties" = some (.object nested)) (n : Node) :
    (elaborate base (.object members)).result = .ok n ↔ ∃ c m,
      (elaborateDeclared base members).result = .ok c ∧
      (elaborate base (.object nested)).result = .ok m ∧ .object c (.schema m) = n := by
  have hschema : elaborateAdditional base members
      = .schema <$> elaborate base (.object nested) := by
    rw [elaborateAdditional.eq_def, hadditional]
  rw [elaborate_of_object href htype, elaborateObject, result_both_iff, hschema]
  simp only [result_map_iff]
  refine ⟨?_, ?_⟩
  · rintro ⟨_, properties, ⟨m, hm, rfl⟩, hproperties, rfl⟩
    exact ⟨properties, m, hproperties, hm, rfl⟩
  · rintro ⟨properties, m, hproperties, hm, rfl⟩
    exact ⟨_, properties, ⟨m, hm, rfl⟩, hproperties, rfl⟩

/-- The node of an array with a schema for its elements. -/
theorem elaborate_items_iff {nested : Json.Members} (href : members.get? "$ref" = none)
    (htype : members.get? "type" = some (.string "array"))
    (hitems : members.get? "items" = some (.object nested)) (n : Node) :
    (elaborate base (.object members)).result = .ok n ↔ ∃ c : Option Nat × Option Nat, ∃ m,
      (countKeyword? members "minItems" = .ok c.1 ∧ countKeyword? members "maxItems" = .ok c.2) ∧
      (elaborate base (.object nested)).result = .ok m ∧
      .array m (c.1.getD 0) (c.2.getD 0) = n := by
  have hschema : elaborateItems base members = elaborate base (.object nested) := by
    rw [elaborateItems.eq_def, hitems]
  rw [elaborate_of_array href htype, elaborateArray, result_bind_iff, hschema]
  simp only [result_both_iff, result_ofExcept]
  refine ⟨?_, ?_⟩
  · rintro ⟨m, hm, lower, upper, hlower, hupper, rfl⟩
    exact ⟨(lower, upper), m, ⟨hlower, hupper⟩, hm, rfl⟩
  · rintro ⟨⟨lower, upper⟩, m, ⟨hlower, hupper⟩, hm, rfl⟩
    exact ⟨m, hm, lower, upper, hlower, hupper, rfl⟩

end Node

/-! ### The schema without the part -/

/-- No schema in the value refers to the location. -/
def Json.Omits (base u : Url) (raw : Json) : Prop :=
  ∀ inner, ReflTransGen Json.Subschema raw inner → ¬ inner.RefersTo base u

theorem Json.Omits.of_subschema {base u : Url} {raw inner : Json} (h : raw.Omits base u)
    (hinner : ReflTransGen Json.Subschema raw inner) : inner.Omits base u :=
  fun deeper hdeeper => h deeper (hinner.trans hdeeper)

/-- The node of such a value does not refer to the location. -/
theorem Node.avoids_of_omits {base u : Url} {raw : Json} {n : Node} (h : raw.Omits base u)
    (hn : (elaborate base raw).result = .ok n) : n.Avoids u := by
  rintro w hw rfl
  have hmet : w ∈ (elaborate base raw).references :=
    ((faithful_elaborate base raw).complete n hn).symm ▸ hw
  obtain ⟨inner, hinner, hrefers⟩ := (mem_references_iff hn).mp hw
  refine h inner hinner ?_
  rwa [withoutFragment_of_mem_elaborate hmet]

/-! ### The schema with the part put in -/

namespace Node.Expands

open Json

variable {members front back nested nested' : Members} {name : String} {raw raw' : Json}
  {base u : Url} {t : Node}

/-- One of the types in a list is changed. -/
theorem alternative {front back : List Json} (href : members.get? "$ref" = none)
    (htype : members.get? "type" = some (.array (front ++ .object nested :: back)))
    (homits : (Json.object members).Omits base u)
    (h : Expands base u t (.object nested) (.object nested')) :
    Expands base u t (.object members)
      (.object (members.insert "type" (.array (front ++ .object nested' :: back)))) := by
  have hwhole' := @elaborate_union_iff base
    (members.insert "type" (.array (front ++ .object nested' :: back))) front back nested'
    ((Members.get?_insert_of_ne _ (by decide)).trans href) (Members.get?_insert_self _ _ _)
  refine h.of_context (elaborate_union_iff href htype) hwhole' (fun c m havoids => ?_)
    fun n hn => avoids_of_omits homits hn
  rw [avoids_union_iff] at havoids
  rw [Node.inline, inlineMembers_append_cons
    (fun n hn => havoids n (List.mem_append_left _ hn))
    fun n hn => havoids n (List.mem_append_right _ (List.mem_cons_of_mem _ hn))]

/-- The schema of a declared property is changed. -/
theorem declared (href : members.get? "$ref" = none)
    (htype : members.get? "type" = some (.string "object"))
    (hproperties : members.get? "properties" = some (.object (front ++ (name, raw) :: back)))
    (hrequired : required? raw' = required? raw) (homits : (Json.object members).Omits base u)
    (h : Expands base u t raw raw') :
    Expands base u t (.object members)
      (.object (members.insert "properties" (.object (front ++ (name, raw') :: back)))) := by
  let changed := members.insert "properties" (.object (front ++ (name, raw') :: back))
  have hadditional : members.get? "additionalProperties" = changed.get? "additionalProperties" :=
    (Members.get?_insert_of_ne _ (by decide)).symm
  have hwhole' := @elaborate_declared_iff base changed front back name raw'
    ((Members.get?_insert_of_ne _ (by decide)).trans href)
    ((Members.get?_insert_of_ne _ (by decide)).trans htype) (Members.get?_insert_self _ _ _)
  rw [hrequired, elaborateAdditional_congr hadditional fun _ _ => rfl] at hwhole'
  refine h.of_context (elaborate_declared_iff href htype hproperties) hwhole'
    (fun c m havoids => ?_) fun n hn => avoids_of_omits homits hn
  obtain ⟨hps, hadditional⟩ := avoids_object_iff.mp havoids
  rw [DeclaredContext.fill, Node.inline, inlineProperties_append_cons
    (fun p hp => hps p (List.mem_append_left _ hp))
    (fun p hp => hps p (List.mem_append_right _ (List.mem_cons_of_mem _ hp))),
    inlineAdditional_of_avoids hadditional]
  rfl

/-- The schema of undeclared members is changed. -/
theorem additional (href : members.get? "$ref" = none)
    (htype : members.get? "type" = some (.string "object"))
    (hadditional : members.get? "additionalProperties" = some (.object nested))
    (homits : (Json.object members).Omits base u)
    (h : Expands base u t (.object nested) (.object nested')) :
    Expands base u t (.object members)
      (.object (members.insert "additionalProperties" (.object nested'))) := by
  let changed := members.insert "additionalProperties" (.object nested')
  have hdeclared : members.get? "properties" = changed.get? "properties" :=
    (Members.get?_insert_of_ne _ (by decide)).symm
  have hwhole' := @elaborate_additional_iff base changed nested'
    ((Members.get?_insert_of_ne _ (by decide)).trans href)
    ((Members.get?_insert_of_ne _ (by decide)).trans htype) (Members.get?_insert_self _ _ _)
  rw [elaborateDeclared_congr hdeclared fun _ _ => rfl] at hwhole'
  refine h.of_context (elaborate_additional_iff href htype hadditional) hwhole'
    (fun c m havoids => ?_) fun n hn => avoids_of_omits homits hn
  rw [Node.inline, inlineProperties_of_avoids (avoids_object_iff.mp havoids).1]
  rfl

/-- The schema of elements is changed. -/
theorem items (href : members.get? "$ref" = none)
    (htype : members.get? "type" = some (.string "array"))
    (hitems : members.get? "items" = some (.object nested))
    (homits : (Json.object members).Omits base u)
    (h : Expands base u t (.object nested) (.object nested')) :
    Expands base u t (.object members) (.object (members.insert "items" (.object nested'))) := by
  have hwhole' := @elaborate_items_iff base (members.insert "items" (.object nested')) nested'
    ((Members.get?_insert_of_ne _ (by decide)).trans href)
    ((Members.get?_insert_of_ne _ (by decide)).trans htype) (Members.get?_insert_self _ _ _)
  simp only [countKeyword?, Members.get?_insert_of_ne _ (by decide : "minItems" ≠ "items"),
    Members.get?_insert_of_ne _ (by decide : "maxItems" ≠ "items")] at hwhole'
  exact h.of_context (elaborate_items_iff href htype hitems) hwhole'
    (fun c m _ => by rw [Node.inline]) fun n hn => avoids_of_omits homits hn

end Node.Expands

namespace Json.Extracts

open Node

variable {reference : String} {part : Members} {isDeclared : Bool} {raw raw' : Json}
  {base u : Url} {t : Node}

/-- Whether a property is required is said as before. -/
theorem required?_eq (h : Extracts reference part true raw raw') :
    required? raw' = required? raw := by
  have hget : ∀ {members members' : Members},
      members'.get? "required" = members.get? "required" →
        required? (.object members') = required? (.object members) := by
    intro members members' heq
    simp only [required?, boolKeyword?, heq]
  cases h with
  | here => exact hget (get?_link_required _ _)
  | alternative => exact hget (Members.get?_insert_of_ne _ (by decide))
  | declared => exact hget (Members.get?_insert_of_ne _ (by decide))
  | additional => exact hget (Members.get?_insert_of_ne _ (by decide))
  | items => exact hget (Members.get?_insert_of_ne _ (by decide))

/-- A reference expands to the node that it leads to. -/
theorem expands_link (hresolve : Reference.resolve base reference = .ok u)
    (ht : (elaborate base (.object part)).result = .ok t) (required : Option Json) :
    Expands base u t (.object part) (.object (link reference required)) := by
  intro n
  have hlink : (elaborate base (.object (link reference required))).result
      = .ok (.reference u) := by
    rw [elaborate_of_reference (get?_link_ref _ _), elaborateReference, hresolve]
  have hput : (Node.reference u).inline u t = t := by
    rw [Node.inline, if_pos (Reference.resolve_eq_ok hresolve).2]
  simp [hlink, ht, hput]

/-- Let a schema be taken out that has the node `t`, and let nothing else refer to where it is
put. Then the node of the first schema is that of the second one with `t` in the place of the
reference. -/
theorem expands (h : Extracts reference part isDeclared raw raw')
    (hresolve : Reference.resolve base reference = .ok u)
    (ht : (elaborate base (.object part)).result = .ok t) (homits : raw.Omits base u) :
    Expands base u t raw raw' := by
  -- The induction is on how deep the schema stands that is taken out.
  induction h with
  | here _ => exact expands_link hresolve ht _
  | @alternative _ members front back _ _ href htype h ih =>
    obtain ⟨⟨nested, rfl⟩, nested', rfl⟩ := h.exists_object
    have hstep : Json.Subschema (.object members) (.object nested) :=
      .alternative (.intro href htype (by simp))
    exact (ih (homits.of_subschema (.single hstep))).alternative href htype homits
  | @declared _ members _ _ name raw _ href htype hproperties h ih =>
    have hmem : (name, raw) ∈ members.declared := by simp [Members.declared, hproperties]
    have hpart := homits.of_subschema (.single (.declared href htype hmem))
    exact (ih hpart).declared href htype hproperties h.required?_eq homits
  | @additional _ members _ _ href htype hadditional h ih =>
    obtain ⟨⟨nested, rfl⟩, nested', rfl⟩ := h.exists_object
    have hpart := homits.of_subschema (.single (.additional href htype hadditional))
    exact (ih hpart).additional href htype hadditional homits
  | @items _ members _ _ href htype hitems h ih =>
    obtain ⟨⟨nested, rfl⟩, nested', rfl⟩ := h.exists_object
    have hpart := homits.of_subschema (.single (.items href htype hitems))
    exact (ih hpart).items href htype hitems homits

end Json.Extracts
end DraftSchema
