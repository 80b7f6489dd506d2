import DraftSchema.Proofs.Node.Built
import DraftSchema.Proofs.SimpleSchema.Rules

/-!
# `DraftSchema.Proofs.SimpleSchema.Building`: what is built and what is not

The keywords that are given to a simple type make a schema or are refused, and a schema in which
no keyword is out of place is `Lawful`. The theorems:

* `IsBuilt.lawful` and `Node.IsBuilt.lawful`: what is built is lawful, in a node at any depth.
* `build?_iff_carries`: keywords make a schema exactly if the type can carry them. It has their
  last values, and otherwise the first keyword that is refused is named; the order in which
  keywords are given makes no difference. So all simple schemas in compiled nodes are lawful.
-/

set_option autoImplicit false

namespace DraftSchema

namespace SimpleSchema

/-! ### Schemas with the last values -/

/-- The schema is of the type and has the last values that were given, or else nothing, zero or
false. -/
structure HasLast (type : SimpleType) (settings : List Setting) (s : SimpleSchema) : Prop where
  type : s.type = type
  pattern : LastGiven .pattern settings s.pattern
  format : LastGiven .format settings s.format
  minLength : ∃ o, LastGiven .minLength settings o ∧ s.minLength = o.getD 0
  maxLength : ∃ o, LastGiven .maxLength settings o ∧ s.maxLength = o.getD 0
  minimum : LastGiven .minimum settings s.minimum
  maximum : LastGiven .maximum settings s.maximum
  exclusiveMinimum : ∃ o, LastGiven .exclusiveMinimum settings o ∧
    s.exclusiveMinimum = o.getD false
  exclusiveMaximum : ∃ o, LastGiven .exclusiveMaximum settings o ∧
    s.exclusiveMaximum = o.getD false
  enumeration : LastGiven .enumeration settings s.enumeration

variable {type : SimpleType} {settings : List Setting} {k : Keywords} {s : SimpleSchema}

/-- The schema that is built has the values of its keywords. -/
theorem ofKeywords?_eq_ok_iff : ofKeywords? type k = .ok s ↔ k.conflict? type = none ∧
    s = ⟨type, k.pattern, k.format, k.minLength.getD 0, k.maxLength.getD 0, k.minimum, k.maximum,
      k.exclusiveMinimum.getD false, k.exclusiveMaximum.getD false, k.enumeration⟩ := by
  unfold ofKeywords?
  rcases k.conflict? type with _ | c <;> simp [eq_comm]

theorem ofKeywords?_eq_error_iff {c : Conflict} :
    ofKeywords? type k = .error c ↔ k.conflict? type = some c := by
  unfold ofKeywords?
  rcases k.conflict? type with _ | c <;> simp

theorem LastValues.hasLast (h : LastValues settings k) (hs : ofKeywords? type k = .ok s) :
    HasLast type settings s := by
  obtain ⟨-, rfl⟩ := ofKeywords?_eq_ok_iff.mp hs
  exact ⟨rfl, h.pattern, h.format, ⟨_, h.minLength, rfl⟩, ⟨_, h.maxLength, rfl⟩, h.minimum,
    h.maximum, ⟨_, h.exclusiveMinimum, rfl⟩, ⟨_, h.exclusiveMaximum, rfl⟩, h.enumeration⟩

/-! ### Lawful schemas -/

/-- No keyword of the schema is out of place. Of a length that is zero and of a flag that is false
it cannot be told whether they were given. -/
structure Lawful (s : SimpleSchema) : Prop where
  pattern : s.pattern.isSome → s.type = .string
  minLength : s.minLength ≠ 0 → s.type = .string
  maxLength : s.maxLength ≠ 0 → s.type = .string
  minimum : s.minimum.isSome → s.type = .number ∨ s.type = .integer
  maximum : s.maximum.isSome → s.type = .number ∨ s.type = .integer
  exclusiveMinimum : s.exclusiveMinimum → s.type = .number ∨ s.type = .integer
  exclusiveMaximum : s.exclusiveMaximum → s.type = .number ∨ s.type = .integer
  format : ∀ name, s.format = some name → ∀ f, Format.ofName? name = some f → f.suits s.type
  enumeration : ∀ values, s.enumeration = some values →
    s.type ∈ [SimpleType.string, .number, .integer, .boolean] ∧ ∀ v ∈ values, OfType s.type v

/-- What is built is lawful. -/
theorem IsBuilt.lawful (h : s.IsBuilt) : s.Lawful := by
  obtain ⟨type, k, hk⟩ := h
  obtain ⟨hconflict, rfl⟩ := ofKeywords?_eq_ok_iff.mp hk
  have hnumeric : type.isNumeric → type = .number ∨ type = .integer := by
    cases type <;> simp [SimpleType.isNumeric]
  have hlisted : type ≠ .null → type ≠ .any →
      type ∈ [SimpleType.string, .number, .integer, .boolean] := by cases type <;> decide
  -- A value that is not the one of an absent keyword was given.
  have hgiven : ∀ {α : Type} {o : Option α} (absent : α), o.getD absent ≠ absent → o.isSome := by
    intro α o absent ho
    cases o with
    | none => exact absurd rfl ho
    | some _ => rfl
  rw [Keywords.conflict?_eq_none, Keywords.patternConflict?_eq_none,
    Keywords.formatConflict?_eq_none, Keywords.lengthConflict?_eq_none,
    Keywords.rangeConflict?_eq_none, Keywords.enumerationConflict?_eq_none] at hconflict
  obtain ⟨hpattern, hformat, ⟨hmin, hmax⟩, ⟨hminimum, hmaximum, hlower, hupper⟩, hvalues⟩ :=
    hconflict
  constructor
  case pattern => exact hpattern
  case minLength => exact fun h => hmin (hgiven 0 h)
  case maxLength => exact fun h => hmax (hgiven 0 h)
  case minimum => exact fun h => hnumeric (hminimum h)
  case maximum => exact fun h => hnumeric (hmaximum h)
  case exclusiveMinimum => exact fun h => hnumeric (hlower (hgiven false (by simp_all)))
  case exclusiveMaximum => exact fun h => hnumeric (hupper (hgiven false (by simp_all)))
  case format => exact hformat
  case enumeration =>
    intro values heq
    obtain ⟨hnull, hany, hof⟩ := hvalues values heq
    exact ⟨hlisted hnull hany, fun v hv => SimpleType.accepts_iff.mp (hof v hv)⟩

end SimpleSchema

/-! ### Nodes -/

namespace Node

/-- The simple schema is the node or stands somewhere in it. -/
inductive HasSimple : Node → SimpleSchema → Prop where
  | here (s : SimpleSchema) : HasSimple (.simple s) s
  | property {properties : List (Property Node)} {additional : Additional Node}
      {p : Property Node} {s : SimpleSchema} (hp : p ∈ properties) (hs : HasSimple p.schema s) :
      HasSimple (.object properties additional) s
  | additional {properties : List (Property Node)} {schema : Node} {s : SimpleSchema}
      (hs : HasSimple schema s) : HasSimple (.object properties (.schema schema)) s
  | items {items : Node} {minItems maxItems : Nat} {s : SimpleSchema} (hs : HasSimple items s) :
      HasSimple (.array items minItems maxItems) s
  | member {members : List Node} {n : Node} {s : SimpleSchema} (hn : n ∈ members)
      (hs : HasSimple n s) : HasSimple (.union members) s

/-- All simple schemas in a node that is built are lawful. -/
theorem IsBuilt.lawful {n : Node} {s : SimpleSchema} (h : n.IsBuilt) (hs : n.HasSimple s) :
    s.Lawful := by
  induction hs with
  | here s =>
    cases h with
    | simple h => exact h.lawful
  | property hp _ ih =>
    cases h with
    | object hproperties _ => exact ih (hproperties _ hp)
  | additional _ ih =>
    cases h with
    | object _ hadditional => exact ih (hadditional _ rfl)
  | items _ ih =>
    cases h with
    | array _ _ hitems => exact ih hitems
  | member hn _ ih =>
    cases h with
    | union hmembers => exact ih (hmembers _ hn)

end Node

/-- All simple schemas in the nodes that a compilation registers are lawful. -/
theorem Compilation.lawful_compile {source : Source} {registry : Registry} {location u : Url}
    {n : Node} (hn : (compile source registry location).registry.get? u = some n)
    (hnew : registry.get? u ≠ some n) {s : SimpleSchema} (hs : n.HasSimple s) : s.Lawful := by
  have hcases := forall_compile (P := fun v m => registry.get? v = some m ∨ m.IsBuilt)
    (fun v m hm => .inl (by rwa [Registry.get?_withoutFragment]))
    (fun v m ⟨_, _, hresult⟩ => .inr (Node.isBuilt_of_elaborate hresult)) location u n hn
  rw [Registry.get?_withoutFragment] at hcases
  exact (hcases.resolve_left hnew).lawful hs

/-- Keywords that are given one after the other make a schema exactly if the type can carry them,
and it has their last values; else the first keyword that is refused is named, in an order that
is not the one in which they were given. That order matters for no keyword but itself. All simple
schemas in the nodes that a compilation registers are lawful. -/
theorem SimpleSchema.build?_iff_carries (type : SimpleType) (settings : List Setting) :
    ((∃ s, build? type settings = .ok s) ↔ Carries type settings) ∧
    (∀ s, build? type settings = .ok s → HasLast type settings s) ∧
    (∀ c, build? type settings = .error c ↔ FirstRefused type settings c) ∧
    (∀ settings', (∀ keyword, settings'.filter (·.keyword = keyword)
      = settings.filter (·.keyword = keyword)) →
        build? type settings' = build? type settings) ∧
    ∀ (source : Source) (registry : Registry) (location u : Url) (n : Node),
      (Compilation.compile source registry location).registry.get? u = some n →
        registry.get? u ≠ some n → ∀ s, n.HasSimple s → s.Lawful := by
  have hlast : LastValues settings (.ofSettings settings) := lastValues_ofSettings settings
  refine ⟨?_, fun s hs => hlast.hasLast hs, fun c => ?_, fun settings' horder => ?_,
    fun source registry location u n hn hnew s hs => Compilation.lawful_compile hn hnew hs⟩
  · simp [build?, ofKeywords?_eq_ok_iff, hlast.carries_iff]
  · rw [build?, ofKeywords?_eq_error_iff, hlast.conflict?_eq_some_iff]
  · rw [build?, build?, hlast.eq_of_same_order (lastValues_ofSettings settings') horder]

/-- A length of zero is refused for an integer like any other one, also when it is given behind
a flag instead of before it. -/
theorem SimpleSchema.zero_length_refused :
    build? .integer [.minLength 2, .minLength 0, .exclusiveMinimum false]
        = .error (.lengthOnOtherType "minLength") ∧
      build? .integer [.minLength 2, .exclusiveMinimum false, .minLength 0]
        = build? .integer [.minLength 2, .minLength 0, .exclusiveMinimum false] := by
  have hbuild := build?_iff_carries .integer
    [.minLength 2, .minLength 0, .exclusiveMinimum false]
  have hrefused : FirstRefused .integer [.minLength 2, .minLength 0, .exclusiveMinimum false]
      (.lengthOnOtherType "minLength") := by
    refine ⟨[.pattern, .format], .minLength, _, rfl, ?_, ?_⟩
    · exact .minLength ⟨.minLength 0, by simp, rfl⟩ (by decide)
    · intro earlier hearlier d hd
      -- Nothing before the length is given.
      cases hd with
      | pattern hgiven _ => simp [Given, Setting.keyword] at hgiven
      | format hlast _ _ =>
        have hgiven := (hlast.given_iff gives_format).mpr rfl
        simp [Given, Setting.keyword] at hgiven
      | _ => simp at hearlier
  exact ⟨(hbuild.2.2.1 _).mpr hrefused,
    hbuild.2.2.2.1 _ fun keyword => by cases keyword <;> rfl⟩

end DraftSchema
