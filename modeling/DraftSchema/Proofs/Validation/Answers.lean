import DraftSchema.Proofs.Validation.Resolution

/-!
# `DraftSchema.Proofs.Validation.Answers`: the answers of a sound registry

`violations`, `accepts` and `describe` are the answers of the resolver that looks
references up and does nothing else. The theorems:

* `returns_validate`, `returns_accepts` and `returns_describe`: every server of a sound
  registry gives these answers.
* `violations_reference`, `violations_union`, `violations_object` and the other
  equations: the answer for a node comes from those for its parts, and no bound on the
  number of references is left in it.
-/

set_option autoImplicit false

namespace DraftSchema

/-! ### The fewest violations -/

/-- The list that is kept is one of those that were given. -/
theorem Resolver.fewest_mem {vss : List (List Violation)} (h : vss ≠ []) :
    Resolver.fewest vss ∈ vss := by
  obtain ⟨first, rest, rfl⟩ := List.exists_cons_of_ne_nil h
  simp only [fewest]
  induction rest generalizing first with
  | nil => simp
  | cons vs rest ih =>
    rw [List.foldl_cons]
    split
    · exact List.mem_cons_of_mem _ (ih vs (by simp))
    · rcases List.mem_cons.mp (ih first (by simp)) with heq | hmem
      · rw [heq]
        exact List.mem_cons_self
      · exact List.mem_cons_of_mem _ (List.mem_cons_of_mem _ hmem)

/-- No list that was given is shorter. -/
theorem Resolver.length_fewest_le {vss : List (List Violation)} {vs : List Violation}
    (h : vs ∈ vss) : (Resolver.fewest vss).length ≤ vs.length := by
  obtain ⟨first, rest, rfl⟩ := List.exists_cons_of_ne_nil (List.ne_nil_of_mem h)
  simp only [fewest]
  suffices hfold : (rest.foldl (fun best vs => if vs.length < best.length then vs else best)
      first).length ≤ first.length ∧ ∀ vs ∈ rest, (rest.foldl (fun best vs =>
        if vs.length < best.length then vs else best) first).length ≤ vs.length by
    rcases List.mem_cons.mp h with rfl | h
    · exact hfold.1
    · exact hfold.2 vs h
  clear h
  -- The list that is kept gets shorter only, and is compared with each of the others.
  induction rest generalizing first with
  | nil => simp
  | cons next rest ih =>
    rw [List.foldl_cons]
    split
    · rename_i hlt
      obtain ⟨hnext, hrest⟩ := ih next
      refine ⟨by omega, fun vs hvs => ?_⟩
      rcases List.mem_cons.mp hvs with rfl | hvs
      · exact hnext
      · exact hrest vs hvs
    · rename_i hle
      obtain ⟨hfirst, hrest⟩ := ih first
      refine ⟨hfirst, fun vs hvs => ?_⟩
      rcases List.mem_cons.mp hvs with rfl | hvs
      · omega
      · exact hrest vs hvs

/-- Nothing is violated in a union where nothing is violated in a member of it. -/
theorem Resolver.fewest_eq_nil {vss : List (List Violation)} (h : vss ≠ []) :
    Resolver.fewest vss = [] ↔ [] ∈ vss := by
  refine ⟨fun heq => heq ▸ fewest_mem h, fun hmem => ?_⟩
  exact List.eq_nil_of_length_eq_zero (Nat.le_zero.mp (length_fewest_le hmem))

namespace Registry

/-! ### Looking up -/

/-- The resolver that looks references up and does nothing else. -/
def resolver (r : Registry) : Resolver Id where
  resolve u :=
    match r.get? u with
    | some n => .ok n
    | none => .error (.failed (.notFound u.text))
  limit := r.size

/-- Looking up is a way to resolve references. -/
def server (r : Registry) : r.Server .none where
  m := Id
  monad := inferInstance
  resolver := r.resolver
  returns x a := x = a
  returns_pure _ := rfl
  returns_bind hx hf := by
    subst hx
    exact hf
  resolves h := by simp only [resolver, h]
  refuses _ h := by cases h
  enough := Nat.le_refl _

/-- What a value violates. -/
def violations (r : Registry) (n : Node) (v : Json) : List Violation :=
  Id.run (r.resolver.validate r.size n v)

/-- The value is of a type that the node accepts. -/
def accepts (r : Registry) (n : Node) (v : Json) : Bool := Id.run (r.resolver.accepts r.size n v)

/-- The name of the types that a node accepts. -/
def describe (r : Registry) (n : Node) : String := Id.run (r.resolver.describe r.size n)

variable {r : Registry} {n : Node} {v : Json}

/-! ### Servers -/

/-- What all servers return is what looking up returns. -/
theorem Settles.returns {bound : Nat} {α : Type} {x : (s : r.Server .none) → Nat → s.m α}
    (h : r.Settles .none bound x) (hsize : bound ≤ r.size) (s : r.Server .none) {hops : Nat}
    (hbound : bound ≤ hops) : s.returns (x s hops) (x r.server r.size) := by
  obtain ⟨a, ha⟩ := h
  have hlookup : x r.server r.size = a := ha r.server r.size hsize
  rw [hlookup]
  exact ha s hops hbound

/-- Every server says of what type a value is as the registry does. -/
theorem returns_accepts (h : r.Sound) (hn : n.ClosedIn r) (v : Json) (s : r.Server .none)
    {hops : Nat} (hbound : r.height n ≤ hops) :
    s.returns (s.resolver.accepts hops n v) (r.accepts n v) :=
  (settles_accepts h (Refusals.decides_of_closedIn hn) v).returns
    (height_le_size h.acyclic n) s hbound

/-- Every server names types as the registry does. -/
theorem returns_describe (h : r.Sound) (hn : n.ClosedIn r) (s : r.Server .none) {hops : Nat}
    (hbound : r.height n ≤ hops) : s.returns (s.resolver.describe hops n) (r.describe n) :=
  (settles_describe h (Refusals.decides_of_closedIn hn)).returns
    (height_le_size h.acyclic n) s hbound

/-- Every server finds the violations that the registry finds. -/
theorem returns_validate (h : r.Sound) (hn : n.ClosedIn r) (v : Json) (s : r.Server .none)
    {hops : Nat} (hbound : r.height n ≤ hops) :
    s.returns (s.resolver.validate hops n v) (r.violations n v) :=
  (settles_validate h (Refusals.decides_of_closedIn hn) v).returns
    (height_le_size h.acyclic n) s hbound

/-! ### References -/

/-- A reference to a registered location is followed to its node, and then as many more
can be followed as the node needs. -/
theorem follow_resolver (h : r.Acyclic) {u : Url} (hn : r.get? u = some n) :
    ∃ left, r.size = left + 1 ∧ r.height n ≤ left ∧
      r.resolver.follow (left + 1) u = pure (.ok (n, ⟨left, Nat.lt_succ_self left⟩)) := by
  have hlt := height_target_lt h hn
  have hsize := height_le_size h (.reference u)
  refine ⟨r.size - 1, by omega, by omega, ?_⟩
  simp only [Resolver.follow, resolver, hn]
  rfl

/-- A reference accepts what the node accepts that it leads to. -/
theorem accepts_reference (h : r.Sound) {u : Url} (hn : r.get? u = some n) :
    r.accepts (.reference u) v = r.accepts n v := by
  obtain ⟨left, hleft, hheight, hfollow⟩ := follow_resolver h.acyclic hn
  have htarget : r.resolver.accepts left n v = r.accepts n v :=
    returns_accepts h (h.closed u n hn) v r.server hheight
  rw [accepts, hleft, Resolver.accepts, hfollow, pure_bind]
  exact htarget

/-- A reference is called what the node is called that it leads to. -/
theorem describe_reference (h : r.Sound) {u : Url} (hn : r.get? u = some n) :
    r.describe (.reference u) = r.describe n := by
  obtain ⟨left, hleft, hheight, hfollow⟩ := follow_resolver h.acyclic hn
  have htarget : r.resolver.describe left n = r.describe n :=
    returns_describe h (h.closed u n hn) r.server hheight
  rw [describe, hleft, Resolver.describe, hfollow, pure_bind]
  exact htarget

/-- A value violates a reference where it violates the node that it leads to. -/
theorem violations_reference (h : r.Sound) {u : Url} (hn : r.get? u = some n) :
    r.violations (.reference u) v = r.violations n v := by
  obtain ⟨left, hleft, hheight, hfollow⟩ := follow_resolver h.acyclic hn
  have htarget : r.resolver.validate left n v = r.violations n v :=
    returns_validate h (h.closed u n hn) v r.server hheight
  rw [violations, hleft, Resolver.validate, hfollow, pure_bind]
  exact htarget

/-! ### Other nodes -/

@[simp] theorem accepts_simple (r : Registry) (schema : SimpleSchema) (v : Json) :
    r.accepts (.simple schema) v = schema.type.accepts v := by
  rw [accepts, Resolver.accepts]
  rfl

@[simp] theorem accepts_object (r : Registry) (properties : List (Property Node))
    (additional : Additional Node) (v : Json) :
    r.accepts (.object properties additional) v = (v matches .object _) := by
  cases v with
  | object members =>
    rw [accepts, Resolver.accepts]
    rfl
  | _ =>
    rw [accepts, Resolver.accepts]
    · rfl
    · simp

@[simp] theorem accepts_array (r : Registry) (items : Node) (minItems maxItems : Nat) (v : Json) :
    r.accepts (.array items minItems maxItems) v = (v matches .array _) := by
  cases v with
  | array elements =>
    rw [accepts, Resolver.accepts]
    rfl
  | _ =>
    rw [accepts, Resolver.accepts]
    · rfl
    · simp

/-- Asking the members of a union stops at the first one that accepts the type. -/
theorem anyAccepts_resolver (r : Registry) (members : List Node) (v : Json) :
    r.resolver.anyAccepts r.size members v = pure (members.any (r.accepts · v)) := by
  induction members with
  | nil => rw [Resolver.anyAccepts, List.any_nil]
  | cons n rest ih =>
    have hfirst : r.resolver.accepts r.size n v = pure (r.accepts n v) := rfl
    rw [Resolver.anyAccepts, ih, hfirst, pure_bind, List.any_cons]
    cases r.accepts n v <;> rfl

@[simp] theorem accepts_union (r : Registry) (members : List Node) (v : Json) :
    r.accepts (.union members) v = members.any (r.accepts · v) := by
  rw [accepts, Resolver.accepts, anyAccepts_resolver]
  rfl

@[simp] theorem describe_simple (r : Registry) (schema : SimpleSchema) :
    r.describe (.simple schema) = schema.type.name := by
  rw [describe, Resolver.describe]
  rfl

@[simp] theorem describe_object (r : Registry) (properties : List (Property Node))
    (additional : Additional Node) : r.describe (.object properties additional) = "object" := by
  rw [describe, Resolver.describe]
  rfl

@[simp] theorem describe_array (r : Registry) (items : Node) (minItems maxItems : Nat) :
    r.describe (.array items minItems maxItems) = "array" := by
  rw [describe, Resolver.describe]
  rfl

@[simp] theorem describe_union (r : Registry) (members : List Node) :
    r.describe (.union members) = "union" := by
  rw [describe, Resolver.describe]
  rfl

theorem describeAll_resolver (r : Registry) (members : List Node) :
    r.resolver.describeAll r.size members = pure (members.map r.describe) := by
  induction members with
  | nil => rw [Resolver.describeAll, List.map_nil]
  | cons n rest ih =>
    have hfirst : r.resolver.describe r.size n = pure (r.describe n) := rfl
    rw [Resolver.describeAll, ih, hfirst, pure_bind, pure_bind, List.map_cons]

/-- A value violates the conditions of a simple schema. -/
theorem violations_simple (r : Registry) (schema : SimpleSchema) (v : Json) :
    r.violations (.simple schema) v = schema.violations v := by
  rw [violations, Resolver.validate]
  rfl

theorem alternatives_resolver (r : Registry) (members : List Node) (v : Json) :
    r.resolver.alternatives r.size members v = pure (members.map (r.violations · v)) := by
  induction members with
  | nil => rw [Resolver.alternatives, List.map_nil]
  | cons n rest ih =>
    have hfirst : r.resolver.validate r.size n v = pure (r.violations n v) := rfl
    rw [Resolver.alternatives, ih, hfirst, pure_bind, pure_bind, List.map_cons]

/-- Where a member of a union accepts the type of a value, the value violates what it
violates in the member with the fewest violations. -/
theorem violations_union (r : Registry) (members : List Node) (v : Json) :
    r.violations (.union members) v =
      if members.any (r.accepts · v) then Resolver.fewest (members.map (r.violations · v))
      else [Resolver.violation (.noAlternative (Resolver.distinct (members.map r.describe)))] := by
  rw [violations, Resolver.validate, anyAccepts_resolver, pure_bind]
  cases members.any (r.accepts · v) with
  | true =>
    simp only [if_true, alternatives_resolver]
    rfl
  | false =>
    simp only [describeAll_resolver]
    rfl

/-- A union with a member that accepts the type of a value is not empty. -/
theorem map_violations_ne_nil {members : List Node} (h : members.any (r.accepts · v)) :
    members.map (r.violations · v) ≠ [] := by
  obtain ⟨n, hmem, -⟩ := List.any_eq_true.mp h
  exact List.ne_nil_of_mem (List.mem_map_of_mem hmem)

/-- What the member that a property declares violates. -/
def propertyViolations (r : Registry) (members : Json.Members) (p : Property Node) :
    List Violation :=
  match members.get? p.name with
  | some v => (r.violations p.schema v).map (·.within p.name)
  | none => if p.required then [⟨p.name, (StructureFault.missingProperty p.name).message⟩] else []

/-- What an undeclared member violates. -/
def undeclaredViolations (r : Registry) (additional : Additional Node) (name : String)
    (v : Json) : List Violation :=
  match additional with
  | .allowed => []
  | .forbidden => [⟨name, StructureFault.unexpectedProperty.message⟩]
  | .schema schema => (r.violations schema v).map (·.within name)

theorem declaredViolations_resolver (r : Registry) (properties : List (Property Node))
    (members : Json.Members) :
    r.resolver.declaredViolations properties members
      = pure (properties.flatMap (r.propertyViolations members)) := by
  induction properties with
  | nil => rw [Resolver.declaredViolations, List.flatMap_nil]
  | cons p rest ih =>
    have hhere : r.resolver.propertyViolations p members
        = pure (r.propertyViolations members p) := by
      rw [Resolver.propertyViolations.eq_def, propertyViolations]
      split
      · rename_i v hv
        simp only [hv]
        rfl
      · rename_i hv
        simp only [hv]
    rw [Resolver.declaredViolations, ih, hhere, pure_bind, pure_bind, List.flatMap_cons]

theorem additionalViolations_resolver (r : Registry) (properties : List (Property Node))
    (additional : Additional Node) (members : Json.Members) :
    r.resolver.additionalViolations properties additional members
      = pure (members.flatMap fun entry =>
          if properties.any (·.name = entry.1) then []
          else r.undeclaredViolations additional entry.1 entry.2) := by
  induction members with
  | nil => rw [Resolver.additionalViolations, List.flatMap_nil]
  | cons entry rest ih =>
    obtain ⟨name, v⟩ := entry
    have hhere : r.resolver.undeclaredViolations additional name v
        = pure (r.undeclaredViolations additional name v) := by
      cases additional <;> rw [Resolver.undeclaredViolations] <;> rfl
    rw [Resolver.additionalViolations, ih, hhere, List.flatMap_cons]
    split <;> rfl

/-- An object violates what its declared members and its undeclared ones violate. -/
theorem violations_object (r : Registry) (properties : List (Property Node))
    (additional : Additional Node) (members : Json.Members) :
    r.violations (.object properties additional) (.object members) =
      properties.flatMap (r.propertyViolations members) ++
        members.flatMap fun entry =>
          if properties.any (·.name = entry.1) then []
          else r.undeclaredViolations additional entry.1 entry.2 := by
  rw [violations, Resolver.validate, declaredViolations_resolver, additionalViolations_resolver,
    pure_bind, pure_bind]
  rfl

/-- A value that is no object violates its type. -/
theorem violations_object_of_not (r : Registry) (properties : List (Property Node))
    (additional : Additional Node) {v : Json} (h : ∀ members, v ≠ .object members) :
    r.violations (.object properties additional) v = [Resolver.violation .notAnObject] := by
  cases v with
  | object members => exact absurd rfl (h members)
  | _ =>
    rw [violations, Resolver.validate]
    · rfl
    · simp

theorem elementViolations_resolver (r : Registry) (items : Node) (index : Nat)
    (elements : List Json) :
    r.resolver.elementViolations items index elements
      = pure ((elements.zipIdx index).flatMap fun entry =>
          (r.violations items entry.1).map (·.within s!"[{entry.2}]")) := by
  induction elements generalizing index with
  | nil => rw [Resolver.elementViolations, List.zipIdx_nil, List.flatMap_nil]
  | cons v rest ih =>
    have hhere : r.resolver.validate r.resolver.limit items v = pure (r.violations items v) := rfl
    rw [Resolver.elementViolations, ih, hhere, pure_bind, pure_bind, List.zipIdx_cons,
      List.flatMap_cons]

/-- An array violates the bounds on its size and what its elements violate. -/
theorem violations_array (r : Registry) (items : Node) (minItems maxItems : Nat)
    (elements : List Json) :
    r.violations (.array items minItems maxItems) (.array elements) =
      Resolver.sizeViolations minItems maxItems elements.length ++
        elements.zipIdx.flatMap fun entry =>
          (r.violations items entry.1).map (·.within s!"[{entry.2}]") := by
  rw [violations, Resolver.validate, elementViolations_resolver, pure_bind]
  rfl

/-- A value that is no array violates its type. -/
theorem violations_array_of_not (r : Registry) (items : Node) (minItems maxItems : Nat)
    {v : Json} (h : ∀ elements, v ≠ .array elements) :
    r.violations (.array items minItems maxItems) v = [Resolver.violation .notAnArray] := by
  cases v with
  | array elements => exact absurd rfl (h elements)
  | _ =>
    rw [violations, Resolver.validate]
    · rfl
    · simp

end Registry
end DraftSchema
