import DraftSchema.Proofs.Validation.Answers

/-!
# `DraftSchema.Proofs.Validation.Agreement`: the type that is asked for and the check

Whether a value is of a type that a node accepts is found out by one recursion, and what
the value violates by another. A union relies on the first to leave out the second. The
two agree for every resolver without effects, whatever it knows and however many
references may be followed. The theorems:

* `onlyType_of_rejected`: a value of a type that is not accepted violates its type and
  nothing else.
* `agree`: so a value that violates nothing is of an accepted type.
-/

set_option autoImplicit false

namespace DraftSchema

/-- The list says of the whole value that its type is wrong, and nothing else. -/
def Violation.OnlyType (found : List Violation) : Prop :=
  ∃ expected, found = [⟨"", "Invalid type: " ++ expected⟩]

/-- An answer about the type of a value goes together with what the value violates. -/
structure Agree (accepted : Bool) (found : List Violation) : Prop where
  onlyType : accepted = false → Violation.OnlyType found
  accepted : found = [] → accepted = true

/-- It is enough that a wrong type is reported. -/
theorem Agree.of_onlyType {accepted : Bool} {found : List Violation}
    (h : accepted = false → Violation.OnlyType found) : Agree accepted found where
  onlyType := h
  accepted hnil := by
    cases accepted with
    | true => rfl
    | false =>
      obtain ⟨expected, hfound⟩ := h rfl
      rw [hnil] at hfound
      cases hfound

/-! ### The texts -/

theorem SimpleSchema.onlyType_violations {schema : SimpleSchema} {v : Json}
    (h : schema.type.accepts v = false) : Violation.OnlyType (schema.violations v) := by
  have htext : "Invalid type: must be of type " = "Invalid type: " ++ "must be of type " := rfl
  refine ⟨"must be of type " ++ schema.type.name, ?_⟩
  rw [violations, h, ← String.append_assoc, ← htext]
  rfl

namespace Resolver

theorem onlyType_notAnObject : Violation.OnlyType [violation .notAnObject] :=
  ⟨"must be an object", rfl⟩

theorem onlyType_notAnArray : Violation.OnlyType [violation .notAnArray] :=
  ⟨"must be an array", rfl⟩

theorem onlyType_noAlternative (descriptions : List String) :
    Violation.OnlyType [violation (.noAlternative descriptions)] := by
  have htext : "Invalid type: must be one of: [" = "Invalid type: " ++ "must be one of: [" := rfl
  refine ⟨"must be one of: [" ++ (String.intercalate ", "
    (descriptions.map fun d => "\"" ++ d ++ "\"") ++ "]"), ?_⟩
  rw [← String.append_assoc, ← String.append_assoc, ← htext]
  rfl

/-! ### The two recursions -/

variable {r : Resolver Id} {v : Json}

/-- A union without a member that accepts the type of a value is left at that. -/
theorem onlyType_union {hops : Nat} {members : List Node}
    (h : r.accepts hops (.union members) v = false) :
    Violation.OnlyType (r.validate hops (.union members) v) := by
  rw [accepts] at h
  rw [validate, h]
  exact onlyType_noAlternative _

/-- A value of a type that a node does not accept violates its type and nothing else. -/
theorem onlyType_of_rejected {hops : Nat} {n : Node} (h : r.accepts hops n v = false) :
    Violation.OnlyType (r.validate hops n v) := by
  -- All nodes but references decide for themselves, and a reference leaves fewer hops.
  induction hops using Nat.strong_induction_on generalizing n with
  | _ hops ih =>
    cases n with
    | simple schema =>
      rw [accepts] at h
      rw [validate]
      exact SimpleSchema.onlyType_violations h
    | object properties additional =>
      cases v with
      | object members =>
        rw [accepts] at h
        cases h
      | _ =>
        rw [validate]
        · exact onlyType_notAnObject
        · simp
    | array items minItems maxItems =>
      cases v with
      | array elements =>
        rw [accepts] at h
        cases h
      | _ =>
        rw [validate]
        · exact onlyType_notAnArray
        · simp
    | union members => exact onlyType_union h
    | reference u =>
      rw [accepts] at h
      rw [validate]
      rcases hfollow : r.follow hops u with e | ⟨target, left, hleft⟩
      · rw [hfollow] at h
        cases h
      · rw [hfollow] at h
        exact ih left hleft h

/-- Without effects, the type that is asked for and the check agree. -/
theorem agree (r : Resolver Id) (hops : Nat) (n : Node) (v : Json) :
    Agree (r.accepts hops n v) (r.validate hops n v) :=
  .of_onlyType onlyType_of_rejected

end Resolver
end DraftSchema
