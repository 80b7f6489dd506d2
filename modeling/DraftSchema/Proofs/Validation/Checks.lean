import DraftSchema.Proofs.Satisfaction.Ranges
import DraftSchema.Proofs.Satisfaction.Simple
import DraftSchema.Validation

/-!
# `DraftSchema.Proofs.Validation.Checks`: single checks and when they fail

A schema without parts, the type of a schema with parts and the size of an array are each
checked by themselves. `Check.Fails` says when a check fails, and with which message. The
theorems:

* `Check.fails_iff`: a check fails with the message that is found for it.
* `SimpleSchema.faults_eq_filterMap`: the faults of a value in a simple schema are what is found
  for the conditions, in their order.
-/

set_option autoImplicit false

namespace DraftSchema

/-- The conditions of a simple schema. -/
inductive Condition where
  | pattern
  | format
  | range (e : RangeEnd)
  | minLength
  | maxLength
  | enumeration
deriving DecidableEq, Repr

/-- The conditions in the order in which they are checked. -/
def Condition.all : List Condition :=
  [.pattern, .format, .range .lower, .range .upper, .minLength, .maxLength, .enumeration]

/-- A check, with what it is about. -/
inductive Check where
  /-- The value is of a simple type. -/
  | ofType (type : SimpleType) (v : Json)
  /-- The value meets a condition of a simple schema. -/
  | condition (c : Condition) (schema : SimpleSchema) (v : Json)
  | isObject (v : Json)
  | isArray (v : Json)
  /-- An array has no more elements than a bound, where zero is no bound. -/
  | atMost (bound count : Nat)
  | atLeast (bound count : Nat)
  /-- A member that an object lacks is not required. -/
  | present (name : String) (required : Bool)
  /-- A member of an object that is not declared is not forbidden. -/
  | expected (forbidden : Bool)

/-- A check fails, with a message. A number is compared with the bounds only if its scale fits a
machine word. -/
inductive Check.Fails : Check → String → Prop where
  | ofType {type : SimpleType} {v : Json} (h : ¬ OfType type v) :
      Fails (.ofType type v) ("Invalid type: must be of type " ++ type.name)
  | pattern {schema : SimpleSchema} {p : Pattern} {text : String}
      (hpattern : schema.pattern = some p) (h : p.isFullMatch text = false) :
      Fails (.condition .pattern schema (.string text))
        (SimpleSchema.Fault.pattern text p.source).message
  | format {schema : SimpleSchema} {name : String} {f : Format} {v : Json}
      (hname : schema.format = some name) (hformat : Format.ofName? name = some f)
      (h : f.holds v = false) :
      Fails (.condition .format schema v) (SimpleSchema.Fault.format v f.name).message
  | range {schema : SimpleSchema} {e : RangeEnd} {literal : Json.Number} {bound : Decimal}
      (hscale : Decimal.scaleInRange literal.scale = true)
      (h : schema.Passes e literal.value bound) :
      Fails (.condition (.range e) schema (.number literal))
        (e.fault literal bound (schema.excludes e)).message
  | minLength {schema : SimpleSchema} {text : String} (h : text.length < schema.minLength) :
      Fails (.condition .minLength schema (.string text))
        (SimpleSchema.Fault.minLength text schema.minLength).message
  | maxLength {schema : SimpleSchema} {text : String} (hset : 0 < schema.maxLength)
      (h : schema.maxLength < text.length) :
      Fails (.condition .maxLength schema (.string text))
        (SimpleSchema.Fault.maxLength text schema.maxLength).message
  | enumeration {schema : SimpleSchema} {allowed : List Json} {v : Json}
      (hallowed : schema.enumeration = some allowed)
      (h : ∀ w ∈ allowed, w.sameValue v = false) :
      Fails (.condition .enumeration schema v) (SimpleSchema.Fault.enumeration v allowed).message
  | isObject {v : Json} (h : ∀ members, v ≠ .object members) :
      Fails (.isObject v) "Invalid type: must be an object"
  | isArray {v : Json} (h : ∀ elements, v ≠ .array elements) :
      Fails (.isArray v) "Invalid type: must be an array"
  | atMost {bound count : Nat} (hset : 0 < bound) (h : bound < count) :
      Fails (.atMost bound count) (StructureFault.tooManyItems count bound).message
  | atLeast {bound count : Nat} (h : count < bound) :
      Fails (.atLeast bound count) (StructureFault.tooFewItems count bound).message
  | present (name : String) :
      Fails (.present name true) ("Missing required property " ++ name)
  | expected : Fails (.expected true) "Unexpected property"

/-! ### What is found -/

namespace SimpleSchema

/-- What is found for a condition. -/
def conditionFault? (schema : SimpleSchema) (v : Json) : Condition → Option Fault
  | .pattern => schema.patternFault? v
  | .format => schema.formatFault? v
  | .range e =>
    match v with
    | .number literal => schema.rangeFault? literal e
    | _ => none
  | .minLength =>
    match v with
    | .string text =>
      if 0 < schema.minLength ∧ text.length < schema.minLength then
        some (.minLength text schema.minLength) else none
    | _ => none
  | .maxLength =>
    match v with
    | .string text =>
      if 0 < schema.maxLength ∧ schema.maxLength < text.length then
        some (.maxLength text schema.maxLength) else none
    | _ => none
  | .enumeration => schema.enumerationFault? v

/-- What is found for the first of some checks comes before what is found for the others. -/
theorem filterMap_cons_eq_append {α β : Type} (f : α → Option β) (a : α) (l : List α) :
    (a :: l).filterMap f = (f a).toList ++ l.filterMap f := by
  rw [List.filterMap_cons]
  cases f a <;> rfl

/-- The faults of a value are what is found for the conditions, in their order. -/
theorem faults_eq_filterMap (schema : SimpleSchema) (v : Json) :
    schema.faults v = Condition.all.filterMap (schema.conditionFault? v) := by
  have hrange : schema.rangeFaults v = (schema.conditionFault? v (.range .lower)).toList
      ++ (schema.conditionFault? v (.range .upper)).toList := by
    cases v with
    | number literal => exact schema.rangeFaults_number literal
    | _ => rfl
  have hlength : schema.lengthFaults v = (schema.conditionFault? v .minLength).toList
      ++ (schema.conditionFault? v .maxLength).toList := by
    cases v with
    | string text =>
      simp only [lengthFaults, conditionFault?]
      split <;> split <;> rfl
    | _ => rfl
  rw [faults, hrange, hlength]
  simp only [Condition.all, filterMap_cons_eq_append, List.filterMap_nil, List.append_nil,
    List.append_assoc]
  rfl

end SimpleSchema

namespace Check

/-- The message that is found for a check. -/
def found? : Check → Option String
  | .ofType type v =>
    if type.accepts v then none else some ("Invalid type: must be of type " ++ type.name)
  | .condition c schema v => (schema.conditionFault? v c).map SimpleSchema.Fault.message
  | .isObject (.object _) => none
  | .isObject _ => some StructureFault.notAnObject.message
  | .isArray (.array _) => none
  | .isArray _ => some StructureFault.notAnArray.message
  | .atMost bound count =>
    if 0 < bound ∧ bound < count then some (StructureFault.tooManyItems count bound).message
    else none
  | .atLeast bound count =>
    if 0 < bound ∧ count < bound then some (StructureFault.tooFewItems count bound).message
    else none
  | .present name required =>
    if required then some (StructureFault.missingProperty name).message else none
  | .expected forbidden =>
    if forbidden then some StructureFault.unexpectedProperty.message else none

/-- What is found for a condition is a failure of it. -/
theorem fails_of_conditionFault? {c : Condition} {schema : SimpleSchema} {v : Json}
    {f : SimpleSchema.Fault} (h : schema.conditionFault? v c = some f) :
    (condition c schema v).Fails f.message := by
  cases c with
  | pattern =>
    simp only [SimpleSchema.conditionFault?, SimpleSchema.patternFault?] at h
    split at h
    · split at h
      · rename_i p hp
        obtain ⟨hmatch, ⟨⟩⟩ := Option.ite_none_left_eq_some.mp h
        exact .pattern hp (Bool.not_eq_true _ ▸ hmatch)
      · cases h
    · cases h
  | format =>
    simp only [SimpleSchema.conditionFault?, SimpleSchema.formatFault?] at h
    split at h
    · rename_i format hformat
      obtain ⟨name, hname, hof⟩ := Option.bind_eq_some_iff.mp hformat
      obtain ⟨hholds, ⟨⟩⟩ := Option.ite_none_left_eq_some.mp h
      exact .format hname hof (Bool.not_eq_true _ ▸ hholds)
    · cases h
  | range e =>
    cases v with
    | number literal =>
      obtain ⟨hscale, bound, hpasses, rfl⟩ := SimpleSchema.rangeFault?_eq_some.mp h
      exact .range hscale hpasses
    | _ => cases h
  | minLength =>
    cases v with
    | string text =>
      obtain ⟨⟨-, hlt⟩, ⟨⟩⟩ := Option.ite_none_right_eq_some.mp h
      exact .minLength hlt
    | _ => cases h
  | maxLength =>
    cases v with
    | string text =>
      obtain ⟨⟨hset, hlt⟩, ⟨⟩⟩ := Option.ite_none_right_eq_some.mp h
      exact .maxLength hset hlt
    | _ => cases h
  | enumeration =>
    simp only [SimpleSchema.conditionFault?, SimpleSchema.enumerationFault?] at h
    split at h
    · cases h
    · rename_i allowed hallowed
      obtain ⟨hnone, ⟨⟩⟩ := Option.ite_none_left_eq_some.mp h
      exact .enumeration hallowed (by simpa using hnone)

/-- A failure of a condition is found. -/
theorem exists_conditionFault? {c : Condition} {schema : SimpleSchema} {v : Json} {m : String}
    (h : (condition c schema v).Fails m) :
    ∃ f, schema.conditionFault? v c = some f ∧ f.message = m := by
  cases h with
  | pattern hpattern h =>
    refine ⟨_, ?_, rfl⟩
    simp [SimpleSchema.conditionFault?, SimpleSchema.patternFault?, hpattern, h]
  | format hname hformat h =>
    refine ⟨_, ?_, rfl⟩
    simp [SimpleSchema.conditionFault?, SimpleSchema.formatFault?, hname, hformat, h]
  | range hscale h => exact ⟨_, SimpleSchema.rangeFault?_eq_some.mpr ⟨hscale, _, h, rfl⟩, rfl⟩
  | minLength h => exact ⟨_, if_pos ⟨by omega, h⟩, rfl⟩
  | maxLength hset h => exact ⟨_, if_pos ⟨hset, h⟩, rfl⟩
  | enumeration hallowed h =>
    refine ⟨_, ?_, rfl⟩
    simpa [SimpleSchema.conditionFault?, SimpleSchema.enumerationFault?, hallowed] using h

/-- A check fails with the message that is found for it. -/
theorem fails_iff {c : Check} {m : String} : c.Fails m ↔ c.found? = some m := by
  constructor
  · intro h
    cases c with
    | ofType type v =>
      cases h with
      | ofType h =>
        rw [← SimpleType.accepts_iff] at h
        exact if_neg h
    | condition c schema v => exact Option.map_eq_some_iff.mpr (exists_conditionFault? h)
    | isObject v =>
      cases h with
      | isObject h =>
        cases v with
        | object members => exact absurd rfl (h members)
        | _ => rfl
    | isArray v =>
      cases h with
      | isArray h =>
        cases v with
        | array elements => exact absurd rfl (h elements)
        | _ => rfl
    | atMost bound count => cases h with | atMost hset h => exact if_pos ⟨hset, h⟩
    | atLeast bound count => cases h with | atLeast h => exact if_pos ⟨by omega, h⟩
    | present name required => cases h with | present => rfl
    | expected forbidden => cases h with | expected => rfl
  · intro h
    cases c with
    | ofType type v =>
      obtain ⟨htype, ⟨⟩⟩ := Option.ite_none_left_eq_some.mp h
      exact .ofType fun hof => htype (SimpleType.accepts_iff.mpr hof)
    | condition c schema v =>
      obtain ⟨f, hf, rfl⟩ := Option.map_eq_some_iff.mp h
      exact fails_of_conditionFault? hf
    | isObject v =>
      cases v with
      | object members => cases h
      | _ =>
        obtain rfl := Option.some.inj h
        exact .isObject (by simp)
    | isArray v =>
      cases v with
      | array elements => cases h
      | _ =>
        obtain rfl := Option.some.inj h
        exact .isArray (by simp)
    | atMost bound count =>
      obtain ⟨⟨hset, hlt⟩, ⟨⟩⟩ := Option.ite_none_right_eq_some.mp h
      exact .atMost hset hlt
    | atLeast bound count =>
      obtain ⟨⟨-, hlt⟩, ⟨⟩⟩ := Option.ite_none_right_eq_some.mp h
      exact .atLeast hlt
    | present name required =>
      obtain ⟨rfl, ⟨⟩⟩ := Option.ite_none_right_eq_some.mp h
      exact .present name
    | expected forbidden =>
      obtain ⟨rfl, ⟨⟩⟩ := Option.ite_none_right_eq_some.mp h
      exact .expected

end Check

end DraftSchema
