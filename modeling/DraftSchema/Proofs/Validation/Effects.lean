import DraftSchema.Validation

/-!
# `DraftSchema.Proofs.Validation.Effects`: what a check does besides answering

A check does nothing but resolve references. What is true of the resolution of each
reference, of doing nothing and of doing one thing after the other (`Respects`) is
therefore true of every check, against whatever node. The theorems:

* `Respects.validate`, `Respects.accepts` and `Respects.describe`: the three checks.
-/

set_option autoImplicit false

namespace DraftSchema.Resolver

variable {m : Type → Type} [Monad m]

/-- All actions that resolve references are good, and so are those that are put
together from good ones. -/
structure Respects (r : Resolver m) (good : {α : Type} → m α → Prop) : Prop where
  pure {α : Type} (a : α) : good (pure a)
  bind {α β : Type} {x : m α} {f : α → m β} : good x → (∀ a, good (f a)) → good (x >>= f)
  resolve (u : Url) : good (r.resolve u)

namespace Respects

variable {r : Resolver m} {good : {α : Type} → m α → Prop}

theorem follow (h : r.Respects good) (hops : Nat) (u : Url) : good (r.follow hops u) := by
  cases hops with
  | zero => exact h.pure _
  | succ hops =>
    refine h.bind (h.resolve u) fun result => ?_
    cases result <;> exact h.pure _

/-! ### Types -/

mutual

/-- Asking whether a value is of an accepted type resolves references. -/
theorem accepts (h : r.Respects good) (hops : Nat) (n : Node) (v : Json) :
    good (r.accepts hops n v) := by
  cases n with
  | simple schema =>
    rw [Resolver.accepts]
    exact h.pure _
  | object properties additional =>
    cases v with
    | object members =>
      rw [Resolver.accepts]
      exact h.pure _
    | _ =>
      rw [Resolver.accepts]
      · exact h.pure _
      · simp
  | array items minItems maxItems =>
    cases v with
    | array elements =>
      rw [Resolver.accepts]
      exact h.pure _
    | _ =>
      rw [Resolver.accepts]
      · exact h.pure _
      · simp
  | union members =>
    rw [Resolver.accepts]
    exact anyAccepts h hops members v
  | reference u =>
    rw [Resolver.accepts]
    refine h.bind (h.follow hops u) fun result => ?_
    match result with
    | .error e => exact h.pure _
    | .ok (target, ⟨left, _⟩) => exact accepts h left target v
termination_by (hops, sizeOf n)

theorem anyAccepts (h : r.Respects good) (hops : Nat) (members : List Node) (v : Json) :
    good (r.anyAccepts hops members v) := by
  match members with
  | [] =>
    rw [Resolver.anyAccepts]
    exact h.pure _
  | n :: rest =>
    rw [Resolver.anyAccepts]
    refine h.bind (accepts h hops n v) fun b => ?_
    cases b with
    | true => exact h.pure _
    | false => exact anyAccepts h hops rest v
termination_by (hops, sizeOf members)

end

/-- Naming the types that a node accepts resolves references. -/
theorem describe (h : r.Respects good) (hops : Nat) (n : Node) : good (r.describe hops n) := by
  cases n with
  | reference u =>
    rw [Resolver.describe]
    refine h.bind (h.follow hops u) fun result => ?_
    match result with
    | .error e => exact h.pure _
    | .ok (target, ⟨left, _⟩) => exact describe h left target
  | _ =>
    rw [Resolver.describe]
    exact h.pure _
termination_by hops

theorem describeAll (h : r.Respects good) (hops : Nat) (members : List Node) :
    good (r.describeAll hops members) := by
  induction members with
  | nil => exact h.pure _
  | cons n rest ih =>
    exact h.bind (h.describe hops n) fun name => h.bind ih fun names => h.pure _

/-! ### Violations

These follow the recursion of the check, with its measure. -/

mutual

/-- Checking a value resolves references. -/
theorem validate (h : r.Respects good) (hops : Nat) (n : Node) (v : Json) :
    good (r.validate hops n v) := by
  match n, v with
  | .simple schema, v =>
    rw [Resolver.validate]
    exact h.pure _
  | .object properties additional, .object members =>
    rw [Resolver.validate]
    exact h.bind (declaredViolations h properties members) fun declared =>
      h.bind (additionalViolations h properties additional members) fun undeclared => h.pure _
  | .array items minItems maxItems, .array elements =>
    rw [Resolver.validate]
    exact h.bind (elementViolations h items 0 elements) fun found => h.pure _
  | .union members, v =>
    rw [Resolver.validate]
    refine h.bind (h.anyAccepts hops members v) fun b => ?_
    cases b with
    | true => exact h.bind (alternatives h hops members v) fun found => h.pure _
    | false => exact h.bind (h.describeAll hops members) fun names => h.pure _
  | .reference u, v =>
    rw [Resolver.validate]
    refine h.bind (h.follow hops u) fun result => ?_
    match result with
    | .error e => exact h.pure _
    | .ok (target, ⟨left, _⟩) => exact validate h left target v
  | .object properties additional, .null | .object properties additional, .bool _
  | .object properties additional, .number _ | .object properties additional, .string _
  | .object properties additional, .array _ | .array items minItems maxItems, .null
  | .array items minItems maxItems, .bool _ | .array items minItems maxItems, .number _
  | .array items minItems maxItems, .string _ | .array items minItems maxItems, .object _ =>
    rw [Resolver.validate]
    · exact h.pure _
    · simp
termination_by (sizeOf v, hops, sizeOf n)

theorem declaredViolations (h : r.Respects good) (properties : List (Property Node))
    (members : Json.Members) : good (r.declaredViolations properties members) := by
  match properties with
  | [] =>
    rw [Resolver.declaredViolations]
    exact h.pure _
  | p :: rest =>
    rw [Resolver.declaredViolations]
    exact h.bind (propertyViolations h p members) fun here =>
      h.bind (declaredViolations h rest members) fun others => h.pure _
termination_by (sizeOf members, 1, sizeOf properties)

theorem propertyViolations (h : r.Respects good) (p : Property Node) (members : Json.Members) :
    good (r.propertyViolations p members) := by
  rw [Resolver.propertyViolations.eq_def]
  split
  · rename_i v hv
    have hsize := Json.Members.sizeOf_lt_of_get?_eq_some hv
    exact h.bind (validate h r.limit p.schema v) fun found => h.pure _
  · exact h.pure _
termination_by (sizeOf members, 0, 0)

theorem additionalViolations (h : r.Respects good) (properties : List (Property Node))
    (additional : Additional Node) (members : List (String × Json)) :
    good (r.additionalViolations properties additional members) := by
  match members with
  | [] =>
    rw [Resolver.additionalViolations]
    exact h.pure _
  | (name, v) :: rest =>
    have hothers := additionalViolations h properties additional rest
    rw [Resolver.additionalViolations]
    split
    · exact h.bind (h.pure _) fun here => h.bind hothers fun others => h.pure _
    · exact h.bind (undeclaredViolations h additional name v) fun here =>
        h.bind hothers fun others => h.pure _
termination_by (sizeOf members, 0, 0)

theorem undeclaredViolations (h : r.Respects good) (additional : Additional Node) (name : String)
    (v : Json) : good (r.undeclaredViolations additional name v) := by
  match additional with
  | .allowed | .forbidden =>
    rw [Resolver.undeclaredViolations]
    exact h.pure _
  | .schema schema =>
    rw [Resolver.undeclaredViolations]
    exact h.bind (validate h r.limit schema v) fun found => h.pure _
termination_by (sizeOf v, r.limit + 1, 0)

theorem elementViolations (h : r.Respects good) (items : Node) (index : Nat)
    (elements : List Json) : good (r.elementViolations items index elements) := by
  match elements with
  | [] =>
    rw [Resolver.elementViolations]
    exact h.pure _
  | v :: rest =>
    rw [Resolver.elementViolations]
    exact h.bind (validate h r.limit items v) fun here =>
      h.bind (elementViolations h items (index + 1) rest) fun others => h.pure _
termination_by (sizeOf elements, 0, 0)

theorem alternatives (h : r.Respects good) (hops : Nat) (members : List Node) (v : Json) :
    good (r.alternatives hops members v) := by
  match members with
  | [] =>
    rw [Resolver.alternatives]
    exact h.pure _
  | n :: rest =>
    rw [Resolver.alternatives]
    exact h.bind (validate h hops n v) fun here =>
      h.bind (alternatives h hops rest v) fun others => h.pure _
termination_by (sizeOf v, hops, sizeOf members)

end

end Respects
end DraftSchema.Resolver
