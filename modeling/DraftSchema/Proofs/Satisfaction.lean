import DraftSchema.Node.Elaborate
import DraftSchema.Source
import DraftSchema.Json.Reader

/-!
# `DraftSchema.Proofs.Satisfaction`: what a schema's text asks of a document

`Satisfies` says when a value satisfies a schema, in terms of the texts that a source
has and without compiled schemas. References mean the document that they name, so the
relation is inductive: only what can be shown in finitely many steps is satisfied. The
theorems give, for each kind of schema, what it asks:

* `satisfies_reference`, `satisfies_union`, `satisfies_object`, `satisfies_array` and
  `satisfies_simple`.
-/

set_option autoImplicit false

namespace DraftSchema

/-- The source has a document at a location, with a value. -/
def Source.Holds (source : Source) (u : Url) (raw : Json) : Prop :=
  ∃ text, source.fetch u = .ok text ∧ Json.parse? text = some raw

/-- A location has one document. -/
theorem Source.Holds.unique {source : Source} {u : Url} {raw raw' : Json}
    (h : source.Holds u raw) (h' : source.Holds u raw') : raw = raw' := by
  obtain ⟨text, hfetch, hparse⟩ := h
  obtain ⟨text', hfetch', hparse'⟩ := h'
  obtain rfl : text = text' := by simpa [hfetch] using hfetch'
  simpa [hparse] using hparse'

/-! ### Simple types -/

/-- A value is of a simple type. -/
inductive OfType : SimpleType → Json → Prop where
  | string (text : String) : OfType .string (.string text)
  | number (literal : Json.Number) : OfType .number (.number literal)
  | integer {literal : Json.Number} (h : literal.isInteger) : OfType .integer (.number literal)
  | boolean (b : Bool) : OfType .boolean (.bool b)
  | null : OfType .null .null
  | any (v : Json) : OfType .any v

/-- A value is of the type that a name stands for, with nothing else asked of it. -/
inductive OfNamedType : String → Json → Prop where
  | object {name : String} (hname : name = "object") (members : Json.Members) :
      OfNamedType name (.object members)
  | array {name : String} (hname : name = "array") (elements : List Json) :
      OfNamedType name (.array elements)
  | simple {name : String} {type : SimpleType} {v : Json}
      (hname : SimpleType.ofName? name = some type) (h : OfType type v) : OfNamedType name v

/-- No simple type is called like a type of values with parts. -/
theorem ofName?_object : SimpleType.ofName? "object" = none := by decide

theorem ofName?_array : SimpleType.ofName? "array" = none := by decide

/-- The decimal that a value is. -/
def Json.decimal? : Json → Option Decimal
  | .number literal => Decimal.ofNumber? literal
  | _ => none

/-- A value meets the keywords of a simple schema. Formats without a meaning, numbers
that are no decimals and bounds of zero on the greatest length ask for nothing. -/
structure MeetsKeywords (members : Json.Members) (v : Json) : Prop where
  pattern : ∀ source p text, members.get? "pattern" = some (.string source) →
    Pattern.ofSource? source = some p → v = .string text → p.isFullMatch text
  format : ∀ name f, members.get? "format" = some (.string name) →
    Format.ofName? name = some f → f.holds v
  minimum : ∀ bound d, (members.get? "minimum").bind Json.decimal? = some bound →
    v.decimal? = some d → d.lt bound = false ∧
      (members.get? "exclusiveMinimum" = some (.bool true) → d.le bound = false)
  maximum : ∀ bound d, (members.get? "maximum").bind Json.decimal? = some bound →
    v.decimal? = some d → bound.lt d = false ∧
      (members.get? "exclusiveMaximum" = some (.bool true) → bound.le d = false)
  minLength : ∀ bound text, (members.get? "minLength").bind Node.count? = some bound →
    v = .string text → bound ≤ text.length
  maxLength : ∀ bound text, (members.get? "maxLength").bind Node.count? = some bound →
    v = .string text → 0 < bound → text.length ≤ bound
  enumeration : ∀ allowed, members.get? "enumeration" = some (.array allowed) →
    ∃ w ∈ allowed, w.sameValue v

/-! ### Schemas -/

/-- The schemas of the members that an object schema declares. -/
def Json.Members.declared (members : Json.Members) : Json.Members :=
  match members.get? "properties" with
  | some (.object entries) => entries
  | _ => []

/-- The schema of a declared member asks for the member to be there. -/
def Json.IsRequired (schema : Json) : Prop :=
  ∃ members : Json.Members, schema = .object members ∧ members.get? "required" = some (.bool true)

/-- A value satisfies a schema that stands in the document at `base`. The keywords
beside a reference, and those beside a list of types, ask for nothing. -/
inductive Satisfies (source : Source) : Url → Json → Json → Prop where
  | reference {base location : Url} {members : Json.Members} {text : String} {raw v : Json}
      (href : members.get? "$ref" = some (.string text))
      (hresolve : Reference.resolve base text = .ok location)
      (hraw : source.Holds location raw) (h : Satisfies source location raw v) :
      Satisfies source base (.object members) v
  | untyped {base : Url} {members : Json.Members} {v : Json}
      (href : members.get? "$ref" = none) (htype : members.get? "type" = none) :
      Satisfies source base (.object members) v
  | named {base : Url} {members : Json.Members} {entries : List Json} {name : String} {v : Json}
      (href : members.get? "$ref" = none) (htype : members.get? "type" = some (.array entries))
      (hentry : .string name ∈ entries) (h : OfNamedType name v) :
      Satisfies source base (.object members) v
  | inlined {base : Url} {members nested : Json.Members} {entries : List Json} {v : Json}
      (href : members.get? "$ref" = none) (htype : members.get? "type" = some (.array entries))
      (hentry : .object nested ∈ entries) (h : Satisfies source base (.object nested) v) :
      Satisfies source base (.object members) v
  | object {base : Url} {members values : Json.Members}
      (href : members.get? "$ref" = none) (htype : members.get? "type" = some (.string "object"))
      (hrequired : ∀ name schema, (name, schema) ∈ members.declared → schema.IsRequired →
        ∃ v, values.get? name = some v)
      (hdeclared : ∀ name schema, (name, schema) ∈ members.declared →
        ∀ v, values.get? name = some v → Satisfies source base schema v)
      (hforbidden : members.get? "additionalProperties" = some (.bool false) →
        ∀ name v, (name, v) ∈ values → ∃ schema, (name, schema) ∈ members.declared)
      (hadditional : ∀ nested, members.get? "additionalProperties" = some (.object nested) →
        ∀ name v, (name, v) ∈ values → (¬ ∃ schema, (name, schema) ∈ members.declared) →
          Satisfies source base (.object nested) v) :
      Satisfies source base (.object members) (.object values)
  | array {base : Url} {members : Json.Members} {elements : List Json}
      (href : members.get? "$ref" = none) (htype : members.get? "type" = some (.string "array"))
      (hminItems : ∀ bound, (members.get? "minItems").bind Node.count? = some bound →
        bound ≤ elements.length)
      (hmaxItems : ∀ bound, (members.get? "maxItems").bind Node.count? = some bound →
        0 < bound → elements.length ≤ bound)
      (hitems : ∀ nested, members.get? "items" = some (.object nested) →
        ∀ v ∈ elements, Satisfies source base (.object nested) v) :
      Satisfies source base (.object members) (.array elements)
  | simple {base : Url} {members : Json.Members} {name : String} {type : SimpleType} {v : Json}
      (href : members.get? "$ref" = none) (htype : members.get? "type" = some (.string name))
      (hname : SimpleType.ofName? name = some type) (h : OfType type v)
      (hkeywords : MeetsKeywords members v) :
      Satisfies source base (.object members) v

section

variable {source : Source} {base : Url} {members : Json.Members} {v : Json}

/-- A reference asks for what the document asks for that it names. -/
theorem satisfies_reference {text : String} {location : Url} {raw : Json}
    (href : members.get? "$ref" = some (.string text))
    (hresolve : Reference.resolve base text = .ok location) (hraw : source.Holds location raw) :
    Satisfies source base (.object members) v ↔ Satisfies source location raw v := by
  refine ⟨fun h => ?_, .reference href hresolve hraw⟩
  cases h with
  | reference href' hresolve' hraw' h =>
    obtain rfl : text = _ := by simpa [href] using href'
    obtain rfl : location = _ := by simpa [hresolve] using hresolve'
    exact hraw.unique hraw' ▸ h
  -- All other rules are for schemas that are no reference.
  | _ => simp_all

/-- A list of types asks for one of them. -/
theorem satisfies_union {entries : List Json} (href : members.get? "$ref" = none)
    (htype : members.get? "type" = some (.array entries)) :
    Satisfies source base (.object members) v ↔
      ∃ entry ∈ entries, (∃ name, entry = .string name ∧ OfNamedType name v) ∨
        ∃ nested, entry = .object nested ∧ Satisfies source base (.object nested) v := by
  refine ⟨fun h => ?_, ?_⟩
  · cases h with
    | named _ htype' hentry h =>
      obtain rfl : entries = _ := by simpa [htype] using htype'
      exact ⟨_, hentry, .inl ⟨_, rfl, h⟩⟩
    | inlined _ htype' hentry h =>
      obtain rfl : entries = _ := by simpa [htype] using htype'
      exact ⟨_, hentry, .inr ⟨_, rfl, h⟩⟩
    | _ => simp_all
  · rintro ⟨entry, hentry, ⟨name, rfl, h⟩ | ⟨nested, rfl, h⟩⟩
    · exact .named href htype hentry h
    · exact .inlined href htype hentry h

/-- An object schema asks for an object with certain members. -/
theorem satisfies_object (href : members.get? "$ref" = none)
    (htype : members.get? "type" = some (.string "object")) :
    Satisfies source base (.object members) v ↔
      ∃ values : Json.Members, v = .object values ∧
        (∀ name schema, (name, schema) ∈ members.declared → schema.IsRequired →
          ∃ v, values.get? name = some v) ∧
        (∀ name schema, (name, schema) ∈ members.declared →
          ∀ v, values.get? name = some v → Satisfies source base schema v) ∧
        (members.get? "additionalProperties" = some (.bool false) →
          ∀ name v, (name, v) ∈ values → ∃ schema, (name, schema) ∈ members.declared) ∧
        (∀ nested, members.get? "additionalProperties" = some (.object nested) →
          ∀ name v, (name, v) ∈ values → (¬ ∃ schema, (name, schema) ∈ members.declared) →
            Satisfies source base (.object nested) v) := by
  refine ⟨fun h => ?_, ?_⟩
  · cases h with
    | object _ _ hrequired hdeclared hforbidden hadditional =>
      exact ⟨_, rfl, hrequired, hdeclared, hforbidden, hadditional⟩
    -- The rule for simple types is for strings too, but `object` names none of them.
    | simple _ htype' hname _ _ =>
      obtain rfl : "object" = _ := by simpa [htype] using htype'
      simp [ofName?_object] at hname
    | _ => simp_all
  · rintro ⟨values, rfl, hrequired, hdeclared, hforbidden, hadditional⟩
    exact .object href htype hrequired hdeclared hforbidden hadditional

/-- An array schema asks for an array of certain elements. -/
theorem satisfies_array (href : members.get? "$ref" = none)
    (htype : members.get? "type" = some (.string "array")) :
    Satisfies source base (.object members) v ↔
      ∃ elements, v = .array elements ∧
        (∀ bound, (members.get? "minItems").bind Node.count? = some bound →
          bound ≤ elements.length) ∧
        (∀ bound, (members.get? "maxItems").bind Node.count? = some bound →
          0 < bound → elements.length ≤ bound) ∧
        (∀ nested, members.get? "items" = some (.object nested) →
          ∀ v ∈ elements, Satisfies source base (.object nested) v) := by
  refine ⟨fun h => ?_, ?_⟩
  · cases h with
    | array _ _ hminItems hmaxItems hitems => exact ⟨_, rfl, hminItems, hmaxItems, hitems⟩
    | simple _ htype' hname _ _ =>
      obtain rfl : "array" = _ := by simpa [htype] using htype'
      simp [ofName?_array] at hname
    | _ => simp_all
  · rintro ⟨elements, rfl, hminItems, hmaxItems, hitems⟩
    exact .array href htype hminItems hmaxItems hitems

/-- A simple schema asks for a value of its type that meets its keywords. -/
theorem satisfies_simple {name : String} {type : SimpleType} (href : members.get? "$ref" = none)
    (htype : members.get? "type" = some (.string name))
    (hname : SimpleType.ofName? name = some type) :
    Satisfies source base (.object members) v ↔ OfType type v ∧ MeetsKeywords members v := by
  refine ⟨fun h => ?_, fun h => .simple href htype hname h.1 h.2⟩
  cases h with
  | simple _ htype' hname' h hkeywords =>
    obtain rfl : name = _ := by simpa [htype] using htype'
    obtain rfl : type = _ := by simpa [hname] using hname'
    exact ⟨h, hkeywords⟩
  | object _ htype' _ _ _ _ =>
    obtain rfl : name = "object" := by simpa [htype] using htype'
    simp [ofName?_object] at hname
  | array _ htype' _ _ _ =>
    obtain rfl : name = "array" := by simpa [htype] using htype'
    simp [ofName?_array] at hname
  | _ => simp_all

end

end DraftSchema
