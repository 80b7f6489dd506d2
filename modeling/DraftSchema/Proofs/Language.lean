import DraftSchema.Proofs.Satisfaction
import Mathlib.Logic.Relation

/-!
# `DraftSchema.Proofs.Language`: which texts are schemas

`WellFormed` says which values are schemas, in terms of the values alone: which of their
parts stand where a schema is expected (`Json.Subschema`), and which keywords each of these
may have (`Legal`). A schema that is a reference is nothing else, so that nothing behind a
`$ref` is looked at, and a keyword that the type does not ask for is not looked at either.

`Source.Refers` leads from a location to those that its document refers to, from wherever a
schema stands in it. `Source.Leaves` is the part of it that decides which types of values are
accepted: the reference that a document is, or one among the alternatives of its type.
`Source.HasSchema` puts these together for a location. The theorems say what each kind of
schema asks for (`legal_object_iff` and so on) and which schemas stand in it
(`subschema_object_iff` and so on).
-/

set_option autoImplicit false

namespace DraftSchema

open Relation

/-! ### Names of types -/

/-- The name of a simple type, in any case of the letters of ASCII. -/
def SimpleType.IsCalled (type : SimpleType) (name : String) : Prop :=
  type.name.toList = name.toList.map Char.toLower

instance (type : SimpleType) (name : String) : Decidable (type.IsCalled name) :=
  inferInstanceAs (Decidable (_ = _))

/-- No simple type is called like a type of values with parts. -/
theorem SimpleType.not_isCalled_object (type : SimpleType) : ¬ type.IsCalled "object" := by
  cases type <;> decide

theorem SimpleType.not_isCalled_array (type : SimpleType) : ¬ type.IsCalled "array" := by
  cases type <;> decide

/-- The name of a type, which has to be written as it is for types of values with parts. -/
inductive IsTypeName (name : String) : Prop where
  | object (h : name = "object")
  | array (h : name = "array")
  | simple {type : SimpleType} (h : type.IsCalled name)

/-! ### Locations -/

/-- A text in the document at `base` names a location: that of a document which can be fetched,
whatever part of it the text points to. -/
def Reference.Names (base : Url) (text : String) (location : Url) : Prop :=
  ∃ resolved, base.join text = .ok resolved ∧ resolved.scheme ∈ ["file", "http", "https"] ∧
    location = resolved.withoutFragment

/-- A reference is resolved to the location that it names. -/
theorem Reference.resolve_eq_ok_iff {base location : Url} {text : String} :
    resolve base text = .ok location ↔ Names base text location := by
  unfold resolve Names
  rcases base.join text with e | resolved
  · simp
  · have hscheme : resolved.isFetchable ↔ resolved.scheme ∈ ["file", "http", "https"] := by
      simp [Url.isFetchable, fetchableSchemes]
    simp only [Except.ok.injEq, exists_eq_left', ← hscheme]
    by_cases hfetchable : resolved.isFetchable
    · simp [hfetchable, eq_comm]
    · simp [hfetchable]

/-! ### Keywords -/

/-- The keywords of a schema of a simple type are those that the type can carry, with values
that they can have. -/
structure CarriesKeywords (type : SimpleType) (members : Json.Members) : Prop where
  pattern : ∀ v, members.get? "pattern" = some v →
    type = .string ∧ ∃ source, v = .string source ∧ (Pattern.ofSource? source).isSome
  /-- A name that stands for no format is one for all types. -/
  format : ∀ v, members.get? "format" = some v →
    ∃ name, v = .string name ∧ ∀ f, Format.ofName? name = some f → f.suits type
  length : ∀ keyword ∈ ["minLength", "maxLength"], ∀ v, members.get? keyword = some v →
    type = .string ∧ (Node.count? v).isSome
  bound : ∀ keyword ∈ ["minimum", "maximum"], ∀ v, members.get? keyword = some v →
    type.isNumeric ∧ v.decimal?.isSome
  exclusive : ∀ keyword ∈ ["exclusiveMinimum", "exclusiveMaximum"],
    ∀ v, members.get? keyword = some v → type.isNumeric ∧ ∃ b, v = .bool b
  enumeration : ∀ v, members.get? "enumeration" = some v →
    type ≠ .null ∧ type ≠ .any ∧ ∃ values, v = .array values ∧ ∀ w ∈ values, OfType type w

/-- A value can stand where a schema is expected in the document at `base`, as far as can be
told without looking at the schemas in it. Whether a declared member is required is said in
its schema, but it is the declaring schema that asks for it, and so it is looked at beside a
reference too. -/
inductive Legal (base : Url) : Json → Prop where
  | reference {members : Json.Members} {text : String} {location : Url}
      (href : members.get? "$ref" = some (.string text))
      (hnames : Reference.Names base text location) : Legal base (.object members)
  | untyped {members : Json.Members} (href : members.get? "$ref" = none)
      (htype : members.get? "type" = none) : Legal base (.object members)
  | object {members : Json.Members} (href : members.get? "$ref" = none)
      (htype : members.get? "type" = some (.string "object"))
      (hadditional : ∀ v, members.get? "additionalProperties" = some v →
        (∃ b, v = .bool b) ∨ ∃ nested, v = .object nested)
      (hproperties : ∀ v, members.get? "properties" = some v → ∃ entries, v = .object entries)
      (hrequired : ∀ name entry, (name, .object entry) ∈ members.declared →
        ∀ v, Json.Members.get? entry "required" = some v → ∃ b, v = .bool b) :
      Legal base (.object members)
  | array {members : Json.Members} (href : members.get? "$ref" = none)
      (htype : members.get? "type" = some (.string "array"))
      (hcount : ∀ keyword ∈ ["minItems", "maxItems"], ∀ v, members.get? keyword = some v →
        (Node.count? v).isSome) : Legal base (.object members)
  | simple {members : Json.Members} {name : String} {type : SimpleType}
      (href : members.get? "$ref" = none) (htype : members.get? "type" = some (.string name))
      (hname : type.IsCalled name) (hkeywords : CarriesKeywords type members) :
      Legal base (.object members)
  | union {members : Json.Members} {entries : List Json} (href : members.get? "$ref" = none)
      (htype : members.get? "type" = some (.array entries))
      (hentries : ∀ entry ∈ entries, (∃ name, entry = .string name ∧ IsTypeName name) ∨
        ∃ nested, entry = .object nested) : Legal base (.object members)

/-! ### Schemas in schemas -/

namespace Json

/-- The second value is one of the schemas that the type of the first one lists. -/
inductive Alternative : Json → Json → Prop where
  | intro {members nested : Members} {entries : List Json} (href : members.get? "$ref" = none)
      (htype : members.get? "type" = some (.array entries)) (h : .object nested ∈ entries) :
      Alternative (.object members) (.object nested)

/-- The second value stands in the first one where a schema is expected, and in no schema
in between. -/
inductive Subschema : Json → Json → Prop where
  | alternative {whole part : Json} (h : Alternative whole part) : Subschema whole part
  | declared {members : Members} {name : String} {schema : Json}
      (href : members.get? "$ref" = none) (htype : members.get? "type" = some (.string "object"))
      (h : (name, schema) ∈ members.declared) : Subschema (.object members) schema
  | additional {members nested : Members} (href : members.get? "$ref" = none)
      (htype : members.get? "type" = some (.string "object"))
      (h : members.get? "additionalProperties" = some (.object nested)) :
      Subschema (.object members) (.object nested)
  | items {members : Members} {schema : Json} (href : members.get? "$ref" = none)
      (htype : members.get? "type" = some (.string "array"))
      (h : members.get? "items" = some schema) : Subschema (.object members) schema

/-- The value, in the document at `base`, is a reference to a location. -/
inductive RefersTo (base : Url) : Json → Url → Prop where
  | intro {members : Members} {text : String} {location : Url}
      (href : members.get? "$ref" = some (.string text))
      (hnames : Reference.Names base text location) : RefersTo base (.object members) location

end Json

/-- The value of the document at `base` is a schema: so is every part of it that stands where
a schema is expected. -/
def WellFormed (base : Url) (raw : Json) : Prop :=
  ∀ part, ReflTransGen Json.Subschema raw part → Legal base part

/-! ### Kinds of schemas

What each kind of schema asks for, and which schemas stand in it. -/

section

variable {base : Url} {members : Json.Members}

theorem legal_reference_iff {v : Json} (href : members.get? "$ref" = some v) :
    Legal base (.object members) ↔
      ∃ text location, v = .string text ∧ Reference.resolve base text = .ok location := by
  refine ⟨fun h => ?_, ?_⟩
  · cases h with
    | reference href' hnames =>
      obtain rfl : v = _ := by simpa [href] using href'
      exact ⟨_, _, rfl, Reference.resolve_eq_ok_iff.mpr hnames⟩
    | _ => simp_all
  · rintro ⟨text, location, rfl, hresolve⟩
    exact .reference href (Reference.resolve_eq_ok_iff.mp hresolve)

theorem legal_object_iff (href : members.get? "$ref" = none)
    (htype : members.get? "type" = some (.string "object")) :
    Legal base (.object members) ↔
      (∀ v, members.get? "additionalProperties" = some v →
        (∃ b, v = .bool b) ∨ ∃ nested, v = .object nested) ∧
      (∀ v, members.get? "properties" = some v → ∃ entries, v = .object entries) ∧
      ∀ name entry, (name, .object entry) ∈ members.declared →
        ∀ v, Json.Members.get? entry "required" = some v → ∃ b, v = .bool b := by
  refine ⟨fun h => ?_, fun ⟨ha, hp, hr⟩ => .object href htype ha hp hr⟩
  cases h with
  | object _ _ hadditional hproperties hrequired =>
    exact ⟨hadditional, hproperties, hrequired⟩
  | @simple _ name type _ htype' hname _ =>
    obtain rfl : "object" = name := by simpa [htype] using htype'
    exact absurd hname type.not_isCalled_object
  | _ => simp_all

theorem legal_array_iff (href : members.get? "$ref" = none)
    (htype : members.get? "type" = some (.string "array")) :
    Legal base (.object members) ↔
      ∀ keyword ∈ ["minItems", "maxItems"], ∀ v, members.get? keyword = some v →
        (Node.count? v).isSome := by
  refine ⟨fun h => ?_, fun hcount => .array href htype hcount⟩
  cases h with
  | array _ _ hcount => exact hcount
  | @simple _ name type _ htype' hname _ =>
    obtain rfl : "array" = name := by simpa [htype] using htype'
    exact absurd hname type.not_isCalled_array
  | _ => simp_all

theorem legal_simple_iff {name : String} (href : members.get? "$ref" = none)
    (htype : members.get? "type" = some (.string name)) (hobject : name ≠ "object")
    (harray : name ≠ "array") :
    Legal base (.object members) ↔
      ∃ type : SimpleType, type.IsCalled name ∧ CarriesKeywords type members := by
  refine ⟨fun h => ?_, fun ⟨type, hname, hkeywords⟩ => .simple href htype hname hkeywords⟩
  cases h with
  | simple _ htype' hname hkeywords =>
    obtain rfl : name = _ := by simpa [htype] using htype'
    exact ⟨_, hname, hkeywords⟩
  | _ => simp_all

theorem legal_union_iff {entries : List Json} (href : members.get? "$ref" = none)
    (htype : members.get? "type" = some (.array entries)) :
    Legal base (.object members) ↔
      ∀ entry ∈ entries, (∃ name, entry = .string name ∧ IsTypeName name) ∨
        ∃ nested, entry = .object nested := by
  refine ⟨fun h => ?_, fun hentries => .union href htype hentries⟩
  cases h with
  | union _ htype' hentries =>
    obtain rfl : entries = _ := by simpa [htype] using htype'
    exact hentries
  | _ => simp_all

/-- A type is a name or a list of types. -/
theorem Legal.type_cases {v : Json} (h : Legal base (.object members))
    (href : members.get? "$ref" = none) (htype : members.get? "type" = some v) :
    (∃ name, v = .string name) ∨ ∃ entries, v = .array entries := by
  cases h with
  | reference href' _ => simp_all
  | untyped _ htype' => simp_all
  | object _ htype' => exact .inl ⟨_, Option.some.inj (htype.symm.trans htype')⟩
  | array _ htype' => exact .inl ⟨_, Option.some.inj (htype.symm.trans htype')⟩
  | simple _ htype' => exact .inl ⟨_, Option.some.inj (htype.symm.trans htype')⟩
  | union _ htype' => exact .inr ⟨_, Option.some.inj (htype.symm.trans htype')⟩

theorem refersTo_iff {text : String} {location u : Url}
    (href : members.get? "$ref" = some (.string text))
    (hresolve : Reference.resolve base text = .ok location) :
    Json.RefersTo base (.object members) u ↔ u = location := by
  refine ⟨fun h => ?_, ?_⟩
  · cases h with
    | intro href' hnames =>
      obtain rfl : text = _ := by simpa [href] using href'
      rw [← Reference.resolve_eq_ok_iff, hresolve] at hnames
      exact (Except.ok.inj hnames).symm
  · rintro rfl
    exact .intro href (Reference.resolve_eq_ok_iff.mp hresolve)

theorem not_refersTo {u : Url} (href : members.get? "$ref" = none) :
    ¬ Json.RefersTo base (.object members) u := by
  intro h
  cases h with
  | intro href' _ => simp [href] at href'

/-- In a reference there are no schemas. -/
theorem not_subschema_of_reference {v part : Json} (href : members.get? "$ref" = some v) :
    ¬ Json.Subschema (.object members) part := by
  intro h
  cases h with
  | alternative h => cases h; simp_all
  | _ => simp_all

/-- Only a list of types has alternatives. -/
theorem not_alternative_of_type {part : Json}
    (hunion : ∀ entries, members.get? "type" ≠ some (.array entries)) :
    ¬ Json.Alternative (.object members) part := by
  intro h
  cases h with
  | intro _ htype _ => exact hunion _ htype

theorem subschema_object_iff {part : Json} (href : members.get? "$ref" = none)
    (htype : members.get? "type" = some (.string "object")) :
    Json.Subschema (.object members) part ↔ (∃ name, (name, part) ∈ members.declared) ∨
      ∃ nested, members.get? "additionalProperties" = some (.object nested) ∧
        .object nested = part := by
  refine ⟨fun h => ?_, ?_⟩
  · cases h with
    | alternative h => cases h; simp_all
    | declared _ _ h => exact .inl ⟨_, h⟩
    | additional _ _ h => exact .inr ⟨_, h, rfl⟩
    | items _ htype' _ => simp_all
  · rintro (⟨name, h⟩ | ⟨nested, h, rfl⟩)
    · exact .declared href htype h
    · exact .additional href htype h

theorem subschema_array_iff {part : Json} (href : members.get? "$ref" = none)
    (htype : members.get? "type" = some (.string "array")) :
    Json.Subschema (.object members) part ↔ members.get? "items" = some part := by
  refine ⟨fun h => ?_, .items href htype⟩
  cases h with
  | alternative h => cases h; simp_all
  | items _ _ h => exact h
  | _ => simp_all

theorem alternative_iff {entries : List Json} {part : Json} (href : members.get? "$ref" = none)
    (htype : members.get? "type" = some (.array entries)) :
    Json.Alternative (.object members) part ↔
      ∃ nested, .object nested ∈ entries ∧ .object nested = part := by
  refine ⟨fun h => ?_, ?_⟩
  · cases h with
    | intro _ htype' h =>
      obtain rfl : entries = _ := by simpa [htype] using htype'
      exact ⟨_, h, rfl⟩
  · rintro ⟨nested, h, rfl⟩
    exact .intro href htype h

/-- Among the schemas in a list of types are its alternatives only. -/
theorem subschema_iff_alternative {entries : List Json} {part : Json}
    (htype : members.get? "type" = some (.array entries)) :
    Json.Subschema (.object members) part ↔ Json.Alternative (.object members) part := by
  refine ⟨fun h => ?_, .alternative⟩
  cases h with
  | alternative h => exact h
  | _ => simp_all

/-- Only objects, arrays and lists of types have schemas in them. -/
theorem not_subschema_of_type {part : Json}
    (hobject : members.get? "type" ≠ some (.string "object"))
    (harray : members.get? "type" ≠ some (.string "array"))
    (hunion : ∀ entries, members.get? "type" ≠ some (.array entries)) :
    ¬ Json.Subschema (.object members) part := by
  intro h
  cases h with
  | alternative h => exact not_alternative_of_type hunion h
  | declared _ htype _ => exact hobject htype
  | additional _ htype _ => exact hobject htype
  | items _ htype _ => exact harray htype

end

/-! ### Documents that refer to each other -/

namespace Source

/-- The document at the first location refers to the second one. -/
def Refers (source : Source) (u v : Url) : Prop :=
  ∃ raw part, source.Holds u raw ∧ ReflTransGen Json.Subschema raw part ∧ part.RefersTo u v

/-- The document at the first location leaves it to the second one, perhaps among others,
which types of values it accepts. -/
def Leaves (source : Source) (u v : Url) : Prop :=
  ∃ raw part, source.Holds u raw ∧ ReflTransGen Json.Alternative raw part ∧ part.RefersTo u v

/-- The source has a schema at a location: all documents that are referred to from there, by
way of others perhaps, are schemas, and none of them leaves it to itself in the end which
types of values it accepts. -/
structure HasSchema (source : Source) (u : Url) : Prop where
  wellFormed : ∀ v, ReflTransGen source.Refers u v → ∃ raw, source.Holds v raw ∧ WellFormed v raw
  acyclic : ∀ v, ReflTransGen source.Refers u v → ¬ TransGen source.Leaves v v

end Source
end DraftSchema
