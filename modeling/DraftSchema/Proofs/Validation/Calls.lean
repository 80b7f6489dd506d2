import DraftSchema.Proofs.Registry.Gates

/-!
# `DraftSchema.Proofs.Validation.Calls`: which checks a check needs

To check a value against a node, parts of the value are checked against parts of the
node, and the whole value against what the node leaves it to. `Registry.Calls` lists
these checks. In a registry without circles they come to an end, because the value
gets smaller or, for one value, the rank of the node falls. The theorems:

* `decreases_of_calls`: the measure falls with every check that a check needs.
* `wellFounded_calls`: there is no endless chain of checks.
* `CircleFree.ends`: the checks of one value come to an end where no circle is ahead, even
  if there are circles elsewhere.
* `Sound.check_induction_of_known`: what holds of a check if it holds of all that it needs
  holds of all checks against nodes whose references are known.
* `Sound.check_induction`: so it holds of those against nodes whose references are
  registered.
-/

set_option autoImplicit false

namespace DraftSchema.Registry

/-- A check, the first one, that is needed for another one. -/
inductive Calls (r : Registry) : Node × Json → Node × Json → Prop where
  | property {properties : List (Property Node)} {additional : Additional Node}
      {members : Json.Members} {p : Property Node} {value : Json} (hp : p ∈ properties)
      (hvalue : members.get? p.name = some value) :
      Calls r (p.schema, value) (.object properties additional, .object members)
  | undeclared {properties : List (Property Node)} {schema : Node} {members : Json.Members}
      {name : String} {value : Json} (hvalue : (name, value) ∈ members) :
      Calls r (schema, value) (.object properties (.schema schema), .object members)
  | element {items : Node} {minItems maxItems : Nat} {elements : List Json} {value : Json}
      (hvalue : value ∈ elements) :
      Calls r (items, value) (.array items minItems maxItems, .array elements)
  | member {members : List Node} {n : Node} {value : Json} (hn : n ∈ members) :
      Calls r (n, value) (.union members, value)
  | target {location : Url} {n : Node} {value : Json} (hn : r.get? location = some n) :
      Calls r (n, value) (.reference location, value)

/-! ### The measure -/

/-- The size of the largest node. -/
noncomputable def largest (r : Registry) : Nat :=
  (r.entries.map fun entry => sizeOf entry.2).foldr max 0

theorem sizeOf_le_largest {r : Registry} {u : Url} {n : Node} (h : r.get? u = some n) :
    sizeOf n ≤ r.largest := by
  obtain ⟨l₁, l₂, hl, -⟩ := List.lookup_eq_some_iff.mp h
  have hmem : sizeOf n ∈ r.entries.map fun entry => sizeOf entry.2 :=
    List.mem_map.mpr ⟨(u.withoutFragment, n), by simp [hl], rfl⟩
  exact List.le_max_of_le' 0 hmem (Nat.le_refl _)

/-- The rank of a node: the number of references that can be followed from it counts
first, and the size of the node decides between the unions on the way. -/
noncomputable def chainRank (r : Registry) (n : Node) : Nat :=
  r.height n * (r.largest + 1) + sizeOf n

/-- The rank of a member of a union is lower than that of the union. -/
theorem chainRank_member_lt (r : Registry) {members : List Node} {n : Node} (h : n ∈ members) :
    r.chainRank n < r.chainRank (.union members) := by
  have hheight : r.height n * (r.largest + 1) ≤ r.height (.union members) * (r.largest + 1) :=
    Nat.mul_le_mul_right _ (height_member_le h)
  have hsize := List.sizeOf_lt_of_mem h
  unfold chainRank
  simp only [Node.union.sizeOf_spec]
  omega

/-- The rank of what a reference leads to is lower than that of the reference. -/
theorem chainRank_target_lt {r : Registry} (h : r.Acyclic) {location : Url} {n : Node}
    (hn : r.get? location = some n) : r.chainRank n < r.chainRank (.reference location) := by
  have hheight : (r.height n + 1) * (r.largest + 1)
      ≤ r.height (.reference location) * (r.largest + 1) :=
    Nat.mul_le_mul_right _ (height_target_lt h hn)
  have hsize := sizeOf_le_largest hn
  rw [Nat.add_mul, Nat.one_mul] at hheight
  -- One step of height makes up for a node of any size.
  unfold chainRank
  omega

/-- Every check that a check needs has a smaller value, or the same value and a node of
a lower rank. -/
theorem decreases_of_calls {r : Registry} (h : r.Acyclic) {callee caller : Node × Json}
    (hcall : r.Calls callee caller) :
    Prod.Lex (· < ·) (· < ·) (sizeOf callee.2, r.chainRank callee.1)
      (sizeOf caller.2, r.chainRank caller.1) := by
  -- The value stays the same in unions and behind references only.
  cases hcall with
  | property hp hvalue =>
    have hsize := Json.Members.sizeOf_lt_of_get?_eq_some hvalue
    refine .left _ _ ?_
    simp only [Json.object.sizeOf_spec]
    omega
  | undeclared hvalue =>
    have hsize := Json.Members.sizeOf_lt_of_mem hvalue
    refine .left _ _ ?_
    simp only [Json.object.sizeOf_spec]
    omega
  | element hvalue =>
    have hsize := List.sizeOf_lt_of_mem hvalue
    refine .left _ _ ?_
    simp only [Json.array.sizeOf_spec]
    omega
  | member hn => exact .right _ (r.chainRank_member_lt hn)
  | target hn => exact .right _ (chainRank_target_lt h hn)

/-- There is no endless chain of checks, each of which is needed for the one before. -/
theorem wellFounded_calls {r : Registry} (h : r.Acyclic) : WellFounded r.Calls :=
  Subrelation.wf (fun hcall => decreases_of_calls h hcall)
    (InvImage.wf (fun check : Node × Json => (sizeOf check.2, r.chainRank check.1))
      (Prod.lex ⟨_, wellFounded_lt⟩ ⟨_, wellFounded_lt⟩).wf)

/-! ### One value -/

/-- Checking the same value against a node, then against what the node leaves it to and so
on, comes to an end. -/
def Ends (r : Registry) (n : Node) (v : Json) : Prop :=
  Acc (fun callee caller => r.Calls (callee, v) (caller, v)) n

/-- A check ends for the same value if it does for all nodes that the node leaves it to. -/
theorem ends_of_gates {r : Registry} {n : Node} {v : Json}
    (h : ∀ t ∈ n.gates, ∀ target, r.get? t = some target → r.Ends target v) : r.Ends n v := by
  -- A member of a union is a smaller node, and what a reference leads to is assumed to end.
  induction hsize : sizeOf n using Nat.strong_induction_on generalizing n with
  | _ size ih =>
    refine .intro n fun callee hcall => ?_
    cases hcall with
    | property hp hvalue =>
      have hlt := Json.Members.sizeOf_lt_of_get?_eq_some hvalue
      simp only [Json.object.sizeOf_spec] at hlt
      omega
    | undeclared hvalue =>
      have hlt := Json.Members.sizeOf_lt_of_mem hvalue
      simp only [Json.object.sizeOf_spec] at hlt
      omega
    | element hvalue =>
      have hlt := List.sizeOf_lt_of_mem hvalue
      simp only [Json.array.sizeOf_spec] at hlt
      omega
    | @member members _ _ hmem =>
      have hlt := List.sizeOf_lt_of_mem hmem
      simp only [Node.union.sizeOf_spec] at hsize
      refine ih (sizeOf callee) (by omega) (fun t ht => h t ?_) rfl
      simp only [Node.gates, Node.mem_memberGates]
      exact ⟨callee, hmem, ht⟩
    | @target location _ _ htarget => exact h location (by simp [Node.gates]) callee htarget

/-- From a location without a circle ahead, a check ends for the same value. -/
theorem CircleFree.ends {r : Registry} {u : Url} {n : Node} (h : r.CircleFree u)
    (hn : r.get? u = some n) (v : Json) : r.Ends n v := by
  have hacc := h.acc
  clear h
  induction hacc generalizing n with
  | intro u _ ih =>
    refine ends_of_gates fun t ht target htarget => ?_
    rw [← get?_withoutFragment] at htarget
    exact ih t.withoutFragment ⟨n, hn, t, ht, rfl⟩ htarget

/-! ### Induction -/

/-- What is true of registered locations and of those that the start refers to is true of
all locations that are referred to on the way. -/
theorem Closed.references_of_calls {r : Registry} (h : r.Closed) {known : Url → Prop}
    (hknown : ∀ u, r.has u → known u) {callee caller : Node × Json}
    (hcall : r.Calls callee caller) (hn : ∀ u ∈ caller.1.references, known u) :
    ∀ u ∈ callee.1.references, known u := by
  cases hcall with
  | property hp hvalue =>
    refine fun u hu => hn u ?_
    simp only [Node.references, List.mem_append, Node.mem_propertyReferences]
    exact .inr ⟨_, hp, hu⟩
  | undeclared hvalue =>
    refine fun u hu => hn u ?_
    simp only [Node.references, List.mem_append, Node.additionalReferences]
    exact .inl hu
  | element hvalue => exact fun u hu => hn u (by simpa only [Node.references] using hu)
  | member hmem =>
    refine fun u hu => hn u ?_
    simp only [Node.references, Node.mem_memberReferences]
    exact ⟨_, hmem, hu⟩
  | target htarget => exact fun u hu => hknown u (h _ _ htarget u hu)

/-- What is checked on the way refers to registered locations if the start does. -/
theorem Closed.of_calls {r : Registry} (h : r.Closed) {callee caller : Node × Json}
    (hcall : r.Calls callee caller) (hn : caller.1.ClosedIn r) : callee.1.ClosedIn r :=
  h.references_of_calls (fun _ hu => hu) hcall hn

/-- What holds of a check if it holds of all checks that it needs holds of all checks
against nodes whose references are known, as those to registered locations are. -/
theorem Sound.check_induction_of_known {r : Registry} (h : r.Sound) {known : Url → Prop}
    (hknown : ∀ u, r.has u → known u) {motive : Node → Json → Prop}
    (step : ∀ n v, (∀ u ∈ n.references, known u) →
      (∀ n' v', r.Calls (n', v') (n, v) → motive n' v') → motive n v)
    {n : Node} (hn : ∀ u ∈ n.references, known u) (v : Json) : motive n v := by
  suffices hall : ∀ check : Node × Json, (∀ u ∈ check.1.references, known u) →
      motive check.1 check.2 from hall (n, v) hn
  intro check
  induction check using (wellFounded_calls h.acyclic).induction with
  | _ check ih =>
    intro hreferences
    exact step check.1 check.2 hreferences fun n' v' hcall =>
      ih (n', v') hcall (h.closed.references_of_calls hknown hcall hreferences)

/-- What holds of a check if it holds of all checks that it needs holds of all checks
against nodes that refer to registered locations. -/
theorem Sound.check_induction {r : Registry} (h : r.Sound) {motive : Node → Json → Prop}
    (step : ∀ n v, n.ClosedIn r →
      (∀ n' v', r.Calls (n', v') (n, v) → motive n' v') → motive n v)
    {n : Node} (hn : n.ClosedIn r) (v : Json) : motive n v :=
  h.check_induction_of_known (fun _ hu => hu) step hn v

end DraftSchema.Registry
