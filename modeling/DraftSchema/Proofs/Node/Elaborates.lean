import DraftSchema.Proofs.Node.References
import Mathlib.Data.List.Forall2

/-!
# `DraftSchema.Proofs.Node.Elaborates`: what a node was made from

`Node.Elaborates` lists the ways in which a schema becomes a node: what its keywords
are and what the parts of the node were made from. The theorems:

* `elaborates_of_result`: these are all ways.
* `elaborateEntries_result`, `elaborateDeclared_result`, `elaborateAdditional_result`
  and `elaborateItems_result`: the parts were made from the values of the keywords, in
  their order.
-/

set_option autoImplicit false

namespace DraftSchema

open List (Forall₂)

namespace Elaboration

variable {α β : Type} {x : Elaboration α} {f : α → Elaboration β} {b : β}

/-- A result that comes of another one. -/
theorem result_bind (h : (x >>= f).result = .ok b) :
    ∃ a, x.result = .ok a ∧ (f a).result = .ok b := by
  rcases hresult : x.result with d | a
  · simp [bind_error hresult] at h
  · rw [bind_ok hresult] at h
    exact ⟨a, rfl, h⟩

/-- A result that is made from another one. -/
theorem result_map {g : α → β} (h : (g <$> x).result = .ok b) :
    ∃ a, x.result = .ok a ∧ g a = b := by
  obtain ⟨a, ha, hb⟩ := result_bind (f := fun a => pure (g a)) h
  exact ⟨a, ha, by simpa using hb⟩

theorem result_map_iff {g : α → β} :
    (g <$> x).result = .ok b ↔ ∃ a, x.result = .ok a ∧ g a = b := by
  refine ⟨result_map, ?_⟩
  rintro ⟨a, ha, rfl⟩
  show (x >>= fun a => pure (g a)).result = _
  rw [bind_ok ha]
  rfl

theorem result_bind_iff : (x >>= f).result = .ok b ↔
    ∃ a, x.result = .ok a ∧ (f a).result = .ok b := by
  refine ⟨result_bind, ?_⟩
  rintro ⟨a, ha, hb⟩
  rw [bind_ok ha]
  exact hb

/-- A result that is made from two others. -/
theorem result_both_iff {γ : Type} {y : Elaboration γ} {c : β} {g : α → γ → β} :
    (do let a ← x; let b ← y; return g a b : Elaboration β).result = .ok c ↔
      ∃ a b, x.result = .ok a ∧ y.result = .ok b ∧ g a b = c := by
  simp only [result_bind_iff, pure_eq, result_ofExcept, Except.ok.injEq]
  exact ⟨fun ⟨a, ha, b, hb, h⟩ => ⟨a, b, ha, hb, h⟩, fun ⟨a, b, ha, hb, h⟩ => ⟨a, ha, b, hb, h⟩⟩

end Elaboration

namespace Node

variable {base : Url}

/-! ### Parts -/

/-- A member of a union was made from a name or a schema. -/
theorem elaborateEntry_result {entry : Json} {n : Node}
    (h : (elaborateEntry base entry).result = .ok n) :
    (∃ name, entry = .string name ∧ named? name = .ok n) ∨
      ∃ nested, entry = .object nested ∧ (elaborate base (.object nested)).result = .ok n := by
  rw [elaborateEntry.eq_def] at h
  split at h
  · exact .inl ⟨_, rfl, h⟩
  · exact .inr ⟨_, rfl, h⟩
  · simp [Elaboration.fail] at h

/-- The members of a union were made from the entries of the list of types. -/
theorem elaborateEntries_result {entries : List Json} {nodes : List Node}
    (h : (elaborateEntries base entries).result = .ok nodes) :
    Forall₂ (fun entry n => (elaborateEntry base entry).result = .ok n) entries nodes := by
  induction entries generalizing nodes with
  | nil =>
    rw [elaborateEntries] at h
    cases h
    exact .nil
  | cons entry rest ih =>
    rw [elaborateEntries] at h
    obtain ⟨n, hn, h⟩ := Elaboration.result_bind h
    obtain ⟨ns, hns, h⟩ := Elaboration.result_bind h
    cases h
    exact .cons hn (ih hns)

/-- A property was made from an entry of an object's properties. -/
structure Declares (base : Url) (entry : String × Json) (p : Property Node) : Prop where
  name : p.name = entry.1
  required : required? entry.2 = .ok p.required
  schema : (elaborate base entry.2).result = .ok p.schema

/-- The properties were made from entries. -/
theorem elaborateProperties_result {entries : Json.Members} {properties : List (Property Node)}
    (h : (elaborateProperties base entries).result = .ok properties) :
    Forall₂ (Declares base) entries properties := by
  induction entries generalizing properties with
  | nil =>
    rw [elaborateProperties] at h
    cases h
    exact .nil
  | cons entry rest ih =>
    obtain ⟨name, raw⟩ := entry
    rw [elaborateProperties] at h
    obtain ⟨required, hrequired, h⟩ := Elaboration.result_bind h
    obtain ⟨schema, hschema, h⟩ := Elaboration.result_bind h
    obtain ⟨ps, hps, h⟩ := Elaboration.result_bind h
    cases h
    exact .cons ⟨rfl, hrequired, hschema⟩ (ih hps)

/-- The properties were made from the members that the schema declares. -/
theorem elaborateDeclared_result {members : Json.Members} {properties : List (Property Node)}
    (h : (elaborateDeclared base members).result = .ok properties) :
    ∃ entries, Forall₂ (Declares base) entries properties ∧
      (members.get? "properties" = none ∧ entries = [] ∨
        members.get? "properties" = some (.object entries)) := by
  rw [elaborateDeclared.eq_def] at h
  split at h
  · rename_i hnone
    cases h
    exact ⟨[], .nil, .inl ⟨hnone, rfl⟩⟩
  · rename_i entries hentries
    exact ⟨entries, elaborateProperties_result h, .inr hentries⟩
  · simp [Elaboration.fail] at h

/-- What holds for undeclared members was made from the keyword for them. -/
theorem elaborateAdditional_result {members : Json.Members} {additional : Additional Node}
    (h : (elaborateAdditional base members).result = .ok additional) :
    additional = .allowed ∧ (members.get? "additionalProperties" = none ∨
        members.get? "additionalProperties" = some (.bool true)) ∨
      additional = .forbidden ∧ members.get? "additionalProperties" = some (.bool false) ∨
      ∃ nested schema, additional = .schema schema ∧
        members.get? "additionalProperties" = some (.object nested) ∧
        (elaborate base (.object nested)).result = .ok schema := by
  rw [elaborateAdditional.eq_def] at h
  split at h
  · rename_i hnone
    cases h
    exact .inl ⟨rfl, .inl hnone⟩
  · rename_i htrue
    cases h
    exact .inl ⟨rfl, .inr htrue⟩
  · rename_i hfalse
    cases h
    exact .inr (.inl ⟨rfl, hfalse⟩)
  · rename_i nested hnested
    obtain ⟨schema, hschema, rfl⟩ := Elaboration.result_map h
    exact .inr (.inr ⟨nested, schema, rfl, hnested, hschema⟩)
  · simp [Elaboration.fail] at h

/-- The schema of the elements was made from the keyword for them. -/
theorem elaborateItems_result {members : Json.Members} {items : Node}
    (h : (elaborateItems base members).result = .ok items) :
    items = any ∧ members.get? "items" = none ∨
      ∃ nested, members.get? "items" = some (.object nested) ∧
        (elaborate base (.object nested)).result = .ok items := by
  rw [elaborateItems.eq_def] at h
  split at h
  · rename_i hnone
    cases h
    exact .inl ⟨rfl, hnone⟩
  · rename_i nested hnested
    exact .inr ⟨nested, hnested, h⟩
  · simp [Elaboration.fail] at h

/-! ### Schemas -/

/-- A schema with some keywords becomes a node. -/
inductive Elaborates (base : Url) (members : Json.Members) : Node → Prop where
  | reference {text : String} {location : Url} (href : members.get? "$ref" = some (.string text))
      (hresolve : Reference.resolve base text = .ok location) :
      Elaborates base members (.reference location)
  | untyped (href : members.get? "$ref" = none) (htype : members.get? "type" = none) :
      Elaborates base members any
  | object {properties : List (Property Node)} {additional : Additional Node}
      (href : members.get? "$ref" = none) (htype : members.get? "type" = some (.string "object"))
      (hdeclared : (elaborateDeclared base members).result = .ok properties)
      (hadditional : (elaborateAdditional base members).result = .ok additional) :
      Elaborates base members (.object properties additional)
  | array {items : Node} {minItems maxItems : Option Nat}
      (href : members.get? "$ref" = none) (htype : members.get? "type" = some (.string "array"))
      (hitems : (elaborateItems base members).result = .ok items)
      (hminItems : countKeyword? members "minItems" = .ok minItems)
      (hmaxItems : countKeyword? members "maxItems" = .ok maxItems) :
      Elaborates base members (.array items (minItems.getD 0) (maxItems.getD 0))
  | simple {name : String} {type : SimpleType} {keywords : SimpleSchema.Keywords}
      {schema : SimpleSchema} (href : members.get? "$ref" = none)
      (htype : members.get? "type" = some (.string name))
      (hname : SimpleType.ofName? name = some type)
      (hkeywords : simpleKeywords? members = .ok keywords)
      (hschema : SimpleSchema.ofKeywords? type keywords = .ok schema) :
      Elaborates base members (.simple schema)
  | union {entries : List Json} {nodes : List Node} (href : members.get? "$ref" = none)
      (htype : members.get? "type" = some (.array entries))
      (hentries : (elaborateEntries base entries).result = .ok nodes) :
      Elaborates base members (.union nodes)

/-- A simple schema was made from its type and its keywords. -/
theorem simple?_eq_ok {name : String} {members : Json.Members} {n : Node}
    (h : simple? name members = .ok n) :
    ∃ type keywords schema, SimpleType.ofName? name = some type ∧
      simpleKeywords? members = .ok keywords ∧
      SimpleSchema.ofKeywords? type keywords = .ok schema ∧ n = .simple schema := by
  unfold simple? simpleType? at h
  rcases hname : SimpleType.ofName? name with _ | type
  · simp [hname, bind, Except.bind] at h
  · rcases hkeywords : simpleKeywords? members with d | keywords
    · simp [hname, hkeywords, bind, Except.bind] at h
    · simp only [hname, hkeywords, bind, Except.bind] at h
      rcases hschema : SimpleSchema.ofKeywords? type keywords with c | schema
      · simp [hschema] at h
      · simp only [hschema] at h
        cases h
        exact ⟨type, keywords, schema, rfl, rfl, hschema, rfl⟩

/-- A schema becomes a node in no other way. -/
theorem elaborates_of_result {raw : Json} {n : Node} (h : (elaborate base raw).result = .ok n) :
    ∃ members, raw = .object members ∧ Elaborates base members n := by
  rw [elaborate.eq_def] at h
  split at h
  · rename_i members
    refine ⟨members, rfl, ?_⟩
    -- A reference comes first, and only without one the type is looked at.
    split at h
    · rename_i target href
      unfold elaborateReference at h
      split at h
      · split at h
        · rename_i hresolve
          cases h
          exact .reference href hresolve
        · simp [Elaboration.fail] at h
      · simp [Elaboration.fail] at h
    · rename_i href
      split at h
      · rename_i htype
        cases h
        exact .untyped href htype
      · rename_i htype
        rw [elaborateObject] at h
        -- Undeclared members are elaborated before the declared ones.
        obtain ⟨additional, hadditional, h⟩ := Elaboration.result_bind h
        obtain ⟨properties, hdeclared, h⟩ := Elaboration.result_bind h
        cases h
        exact .object href htype hdeclared hadditional
      · rename_i htype
        rw [elaborateArray] at h
        obtain ⟨items, hitems, h⟩ := Elaboration.result_bind h
        obtain ⟨minItems, hminItems, h⟩ := Elaboration.result_bind h
        obtain ⟨maxItems, hmaxItems, h⟩ := Elaboration.result_bind h
        cases h
        exact .array href htype hitems hminItems hmaxItems
      · rename_i name htype
        obtain ⟨type, keywords, schema, hname, hkeywords, hschema, rfl⟩ := simple?_eq_ok h
        exact .simple href htype hname hkeywords hschema
      · rename_i entries htype
        obtain ⟨nodes, hentries, rfl⟩ := Elaboration.result_map h
        exact .union href htype hentries
      · simp [Elaboration.fail] at h
  · simp [Elaboration.fail] at h

/-- What holds of the entries that a list of parts was made from holds of the parts. -/
theorem forall_mem_iff_of_forall₂ {α β : Type} {R : α → β → Prop} {P : α → Prop} {Q : β → Prop}
    {as : List α} {bs : List β} (h : Forall₂ R as bs)
    (hiff : ∀ a b, b ∈ bs → R a b → (P a ↔ Q b)) : (∀ a ∈ as, P a) ↔ ∀ b ∈ bs, Q b := by
  induction h with
  | nil => simp
  | cons hab _ ih =>
    rw [List.forall_mem_cons, List.forall_mem_cons, hiff _ _ List.mem_cons_self hab,
      ih fun a b hb => hiff a b (List.mem_cons_of_mem _ hb)]

/-- What holds of one of the entries holds of one of the parts. -/
theorem exists_mem_iff_of_forall₂ {α β : Type} {R : α → β → Prop} {P : α → Prop} {Q : β → Prop}
    {as : List α} {bs : List β} (h : Forall₂ R as bs)
    (hiff : ∀ a b, b ∈ bs → R a b → (P a ↔ Q b)) : (∃ a ∈ as, P a) ↔ ∃ b ∈ bs, Q b := by
  induction h with
  | nil => simp
  | cons hab _ ih =>
    rw [List.exists_mem_cons_iff, List.exists_mem_cons_iff, hiff _ _ List.mem_cons_self hab,
      ih fun a b hb => hiff a b (List.mem_cons_of_mem _ hb)]

/-- Each part was made from one of the entries. -/
theorem exists_mem_of_forall₂ {α β : Type} {R : α → β → Prop} {as : List α} {bs : List β}
    (h : Forall₂ R as bs) {b : β} (hb : b ∈ bs) : ∃ a ∈ as, R a b := by
  induction h with
  | nil => simp at hb
  | cons hab _ ih =>
    rcases List.mem_cons.mp hb with rfl | hb
    · exact ⟨_, List.mem_cons_self, hab⟩
    · obtain ⟨a, ha, hr⟩ := ih hb
      exact ⟨a, List.mem_cons_of_mem _ ha, hr⟩

end Node
end DraftSchema
