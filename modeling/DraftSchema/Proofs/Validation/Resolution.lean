import DraftSchema.Proofs.Validation.Calls
import DraftSchema.Validation

/-!
# `DraftSchema.Proofs.Validation.Resolution`: checks that depend on the registry only

A resolver may look references up in any monad, and it bounds how many are followed
one after the other. `Registry.Server` lists the resolvers that know the nodes of a
registry, refuse some other locations with the same reasons, and allow as many references
as that takes. The theorems:

* `settles_accepts`, `settles_describe` and `settles_validate`: for a sound registry
  all servers give the same answer and do nothing else, however many references may be
  followed beyond the height of the node.

Each function over a list has a lemma that assumes the same of the nodes in it, and
`Sound.check_induction_of_known` puts them together.
-/

set_option autoImplicit false

namespace DraftSchema

/-- The locations that are refused, with the reasons. To be refused takes a reference that
may be followed. -/
structure Refusals where
  reason : Url → Option Unresolved
  hops : Nat
  hops_pos : ∀ u e, reason u = some e → 0 < hops

namespace Refusals

/-- No location is refused. -/
def none : Refusals := ⟨fun _ => .none, 0, by simp⟩

variable (refusals : Refusals) (r : Registry)

/-- The location is registered or refused. -/
def Decides (u : Url) : Prop := r.has u ∨ (refusals.reason u).isSome

/-- The most references that are followed one after the other from a node. -/
noncomputable def need (n : Node) : Nat := r.height n + refusals.hops

variable {refusals r}

/-- A node that refers to registered locations meets no refusal. -/
theorem decides_of_closedIn {n : Node} (hn : n.ClosedIn r) :
    ∀ u ∈ n.references, refusals.Decides r u := fun u hu => .inl (hn u hu)

/-- From a member of a union no more references are followed than from the union. -/
theorem need_member_le {members : List Node} {n : Node} (h : n ∈ members) :
    refusals.need r n ≤ refusals.need r (.union members) :=
  Nat.add_le_add_right (Registry.height_member_le h) _

/-- From what a reference leads to fewer references are followed. -/
theorem need_target_lt (h : r.Acyclic) {u : Url} {n : Node} (hn : r.get? u = some n) :
    refusals.need r n < refusals.need r (.reference u) :=
  Nat.add_lt_add_right (Registry.height_target_lt h hn) _

/-- No more references are followed than there are nodes, and to be refused. -/
theorem need_le_size (h : r.Acyclic) (n : Node) : refusals.need r n ≤ r.size + refusals.hops :=
  Nat.add_le_add_right (Registry.height_le_size h n) _

end Refusals

namespace Registry

/-- A resolver that knows the nodes of a registry and the refusals, with what it means for
an action to return a value and to do nothing else. -/
structure Server (r : Registry) (refusals : Refusals) where
  m : Type → Type
  monad : Monad m
  resolver : Resolver m
  returns : {α : Type} → m α → α → Prop
  returns_pure {α : Type} (a : α) : returns (pure a) a
  returns_bind {α β : Type} {x : m α} {f : α → m β} {a : α} {b : β} :
    returns x a → returns (f a) b → returns (x >>= f) b
  resolves {u : Url} {n : Node} : r.get? u = some n → returns (resolver.resolve u) (.ok n)
  refuses {u : Url} {e : Unresolved} : r.get? u = none → refusals.reason u = some e →
    returns (resolver.resolve u) (.error e)
  enough : r.size + refusals.hops ≤ resolver.limit

attribute [instance] Server.monad

variable {r : Registry} {refusals : Refusals}

/-- All servers return the same, if `bound` references may be followed. -/
def Settles (r : Registry) (refusals : Refusals) (bound : Nat) {α : Type}
    (x : (s : r.Server refusals) → Nat → s.m α) : Prop :=
  ∃ a, ∀ (s : r.Server refusals) (hops : Nat), bound ≤ hops → s.returns (x s hops) a

namespace Settles

variable {bound : Nat} {α β : Type}

/-- A value is returned as it is. -/
theorem pure (a : α) : r.Settles refusals bound fun s _ => (Pure.pure a : s.m α) :=
  ⟨a, fun s _ _ => s.returns_pure a⟩

/-- What is the same comes of what is the same. -/
theorem bind {x : (s : r.Server refusals) → Nat → s.m α}
    {f : (s : r.Server refusals) → Nat → α → s.m β} (hx : r.Settles refusals bound x)
    (hf : ∀ a, r.Settles refusals bound fun s hops => f s hops a) :
    r.Settles refusals bound fun s hops => x s hops >>= f s hops := by
  obtain ⟨a, ha⟩ := hx
  obtain ⟨b, hb⟩ := hf a
  exact ⟨b, fun s hops hbound => s.returns_bind (ha s hops hbound) (hb s hops hbound)⟩

/-- More references may be followed than need be. -/
theorem mono {bound' : Nat} {x : (s : r.Server refusals) → Nat → s.m α}
    (hx : r.Settles refusals bound x) (hle : bound ≤ bound') : r.Settles refusals bound' x := by
  obtain ⟨a, ha⟩ := hx
  exact ⟨a, fun s hops hbound => ha s hops (Nat.le_trans hle hbound)⟩

/-- For a part of a value the references are counted anew. -/
theorem anew {bound' : Nat} {x : (s : r.Server refusals) → Nat → s.m α}
    (hx : r.Settles refusals bound x) (hle : bound ≤ r.size + refusals.hops) :
    r.Settles refusals bound' fun s _ => x s s.resolver.limit := by
  obtain ⟨a, ha⟩ := hx
  exact ⟨a, fun s _ _ => ha s s.resolver.limit (Nat.le_trans hle s.enough)⟩

/-- A reference is followed to the node of its location or refused. -/
theorem follow (h : r.Acyclic) {u : Url} (hu : refusals.Decides r u)
    {x : Node → (s : r.Server refusals) → Nat → s.m α}
    (hx : ∀ n, r.get? u = some n → r.Settles refusals (refusals.need r n) (x n))
    {f : (s : r.Server refusals) → (hops : Nat) →
      Except Unresolved (Node × { left : Nat // left < hops }) → s.m α}
    (hok : ∀ s hops n left hleft, f s hops (.ok (n, ⟨left, hleft⟩)) = x n s left)
    {refused : Unresolved → α} (herror : ∀ s hops e, f s hops (.error e) = Pure.pure (refused e)) :
    r.Settles refusals (refusals.need r (.reference u)) fun s hops =>
      s.resolver.follow hops u >>= f s hops := by
  rcases hget : r.get? u with _ | n
  · obtain ⟨e, he⟩ := Option.isSome_iff_exists.mp (hu.resolve_left (by simp [has, hget]))
    have hpos : 0 < refusals.need r (.reference u) :=
      Nat.add_pos_right _ (refusals.hops_pos u e he)
    refine ⟨refused e, fun s hops hbound => ?_⟩
    obtain ⟨left, rfl⟩ : ∃ left, hops = left + 1 := ⟨hops - 1, by omega⟩
    have hfollow : s.returns (s.resolver.follow (left + 1) u) (.error e) :=
      s.returns_bind (s.refuses hget he) (s.returns_pure _)
    refine s.returns_bind hfollow ?_
    rw [herror]
    exact s.returns_pure _
  · obtain ⟨a, ha⟩ := hx n hget
    refine ⟨a, fun s hops hbound => ?_⟩
    -- From the node fewer references are followed, so that one can be followed to it.
    have hlt := refusals.need_target_lt h hget
    obtain ⟨left, rfl⟩ : ∃ left, hops = left + 1 := ⟨hops - 1, by omega⟩
    have hfollow : s.returns (s.resolver.follow (left + 1) u)
        (.ok (n, ⟨left, Nat.lt_succ_self left⟩)) :=
      s.returns_bind (s.resolves hget) (s.returns_pure _)
    refine s.returns_bind hfollow ?_
    rw [hok]
    exact ha s left (by omega)

end Settles

/-! ### Types -/

/-- Asking the members of a union one after the other. -/
theorem settles_anyAccepts {bound : Nat} {members : List Node} {v : Json}
    (h : ∀ n ∈ members, r.Settles refusals bound fun s hops => s.resolver.accepts hops n v) :
    r.Settles refusals bound fun s hops => s.resolver.anyAccepts hops members v := by
  induction members with
  | nil =>
    simp only [Resolver.anyAccepts]
    exact .pure false
  | cons n rest ih =>
    simp only [Resolver.anyAccepts]
    refine .bind (h n List.mem_cons_self) fun b => ?_
    cases b with
    | true => exact .pure true
    | false => exact ih fun n' hn' => h n' (List.mem_cons_of_mem _ hn')

/-- Whether a value is of an accepted type is the same for all servers. -/
theorem settles_accepts (h : r.Sound) {n : Node}
    (hn : ∀ u ∈ n.references, refusals.Decides r u) (v : Json) :
    r.Settles refusals (refusals.need r n) fun s hops => s.resolver.accepts hops n v := by
  refine h.check_induction_of_known (fun _ => .inl) (motive := fun n v =>
    r.Settles refusals (refusals.need r n) fun s hops => s.resolver.accepts hops n v)
    (fun n v hn ih => ?_) hn v
  cases n with
  | simple schema =>
    simp only [Resolver.accepts]
    exact .pure _
  | object properties additional =>
    cases v <;> simp only [Resolver.accepts] <;> exact .pure _
  | array items minItems maxItems =>
    cases v <;> simp only [Resolver.accepts] <;> exact .pure _
  | union members =>
    simp only [Resolver.accepts]
    exact settles_anyAccepts fun n hmem =>
      (ih n v (.member hmem)).mono (refusals.need_member_le hmem)
  | reference u =>
    simp only [Resolver.accepts]
    exact .follow h.acyclic (hn u (by simp [Node.references]))
      (fun n hget => ih n v (.target hget)) (fun _ _ _ _ _ => rfl) fun _ _ _ => rfl

/-- The name of the types that a node accepts is the same for all servers. -/
theorem settles_describe (h : r.Sound) {n : Node}
    (hn : ∀ u ∈ n.references, refusals.Decides r u) :
    r.Settles refusals (refusals.need r n) fun s hops => s.resolver.describe hops n := by
  refine h.check_induction_of_known (fun _ => .inl) (motive := fun n _ =>
    r.Settles refusals (refusals.need r n) fun s hops => s.resolver.describe hops n)
    (fun n v hn ih => ?_) hn .null
  cases n with
  | simple schema =>
    simp only [Resolver.describe]
    exact .pure _
  | object properties additional =>
    simp only [Resolver.describe]
    exact .pure _
  | array items minItems maxItems =>
    simp only [Resolver.describe]
    exact .pure _
  | union members =>
    simp only [Resolver.describe]
    exact .pure _
  | reference u =>
    simp only [Resolver.describe]
    exact .follow h.acyclic (hn u (by simp [Node.references]))
      (fun n hget => ih n v (.target hget)) (fun _ _ _ _ _ => rfl) fun _ _ _ => rfl

/-- The names of the types that some nodes accept. -/
theorem settles_describeAll {bound : Nat} {members : List Node}
    (h : ∀ n ∈ members, r.Settles refusals bound fun s hops => s.resolver.describe hops n) :
    r.Settles refusals bound fun s hops => s.resolver.describeAll hops members := by
  induction members with
  | nil =>
    simp only [Resolver.describeAll]
    exact .pure []
  | cons n rest ih =>
    simp only [Resolver.describeAll]
    exact .bind (h n List.mem_cons_self) fun name =>
      .bind (ih fun n' hn' => h n' (List.mem_cons_of_mem _ hn')) fun names => .pure (name :: names)

/-! ### Violations -/

/-- Checking the members of a union one after the other. -/
theorem settles_alternatives {bound : Nat} {members : List Node} {v : Json}
    (h : ∀ n ∈ members, r.Settles refusals bound fun s hops => s.resolver.validate hops n v) :
    r.Settles refusals bound fun s hops => s.resolver.alternatives hops members v := by
  induction members with
  | nil =>
    simp only [Resolver.alternatives]
    exact .pure []
  | cons n rest ih =>
    simp only [Resolver.alternatives]
    exact .bind (h n List.mem_cons_self) fun here =>
      .bind (ih fun n' hn' => h n' (List.mem_cons_of_mem _ hn')) fun others =>
        .pure (here :: others)

/-- Checking the declared members of an object one after the other. -/
theorem settles_declared {bound : Nat} {properties : List (Property Node)}
    {members : Json.Members}
    (h : ∀ p ∈ properties, ∀ v, members.get? p.name = some v →
      r.Settles refusals bound fun s _ => s.resolver.validate s.resolver.limit p.schema v) :
    r.Settles refusals bound fun s _ => s.resolver.declaredViolations properties members := by
  induction properties with
  | nil =>
    simp only [Resolver.declaredViolations]
    exact .pure []
  | cons p rest ih =>
    have hhere : r.Settles refusals bound fun s _ => s.resolver.propertyViolations p members := by
      simp only [Resolver.propertyViolations.eq_def]
      split
      · rename_i v hv
        exact .bind (h p List.mem_cons_self v hv) fun found => .pure _
      · exact .pure _
    simp only [Resolver.declaredViolations]
    exact .bind hhere fun here =>
      .bind (ih fun p' hp' => h p' (List.mem_cons_of_mem _ hp')) fun others =>
        .pure (here ++ others)

/-- Checking the undeclared members of an object one after the other. -/
theorem settles_additional {bound : Nat} {properties : List (Property Node)}
    {additional : Additional Node} {members : Json.Members}
    (h : ∀ entry ∈ members, ∀ schema, additional = .schema schema →
      r.Settles refusals bound fun s _ => s.resolver.validate s.resolver.limit schema entry.2) :
    r.Settles refusals bound fun s _ =>
      s.resolver.additionalViolations properties additional members := by
  induction members with
  | nil =>
    simp only [Resolver.additionalViolations]
    exact .pure []
  | cons entry rest ih =>
    obtain ⟨name, v⟩ := entry
    have hhere : r.Settles refusals bound fun s _ =>
        s.resolver.undeclaredViolations additional name v := by
      cases additional with
      | allowed =>
        simp only [Resolver.undeclaredViolations]
        exact .pure []
      | forbidden =>
        simp only [Resolver.undeclaredViolations]
        exact .pure _
      | schema schema =>
        simp only [Resolver.undeclaredViolations]
        exact .bind (h (name, v) List.mem_cons_self schema rfl) fun found => .pure _
    have hothers := ih fun e he => h e (List.mem_cons_of_mem _ he)
    simp only [Resolver.additionalViolations]
    split
    · -- A declared member was checked before.
      exact .bind (.pure []) fun here => hothers.bind fun others => .pure (here ++ others)
    · exact hhere.bind fun here => hothers.bind fun others => .pure (here ++ others)

/-- Checking the elements of an array one after the other. -/
theorem settles_elements {bound : Nat} {items : Node} {index : Nat} {elements : List Json}
    (h : ∀ v ∈ elements, r.Settles refusals bound fun s _ =>
      s.resolver.validate s.resolver.limit items v) :
    r.Settles refusals bound fun s _ => s.resolver.elementViolations items index elements := by
  induction elements generalizing index with
  | nil =>
    simp only [Resolver.elementViolations]
    exact .pure []
  | cons v rest ih =>
    simp only [Resolver.elementViolations]
    exact .bind (h v List.mem_cons_self) fun here =>
      .bind (ih fun v' hv' => h v' (List.mem_cons_of_mem _ hv')) fun others => .pure _

/-- What a value violates is the same for all servers. -/
theorem settles_validate (h : r.Sound) {n : Node}
    (hn : ∀ u ∈ n.references, refusals.Decides r u) (v : Json) :
    r.Settles refusals (refusals.need r n) fun s hops => s.resolver.validate hops n v := by
  refine h.check_induction_of_known (fun _ => .inl) (motive := fun n v =>
    r.Settles refusals (refusals.need r n) fun s hops => s.resolver.validate hops n v)
    (fun n v hn ih => ?_) hn v
  -- The parts of a value are checked with all references a server allows, so that the
  -- height of the whole node does not count for them.
  have hpart : ∀ {n' : Node} {v' : Json} {bound : Nat}, r.Calls (n', v') (n, v) →
      r.Settles refusals bound fun s _ => s.resolver.validate s.resolver.limit n' v' :=
    fun hcall => (ih _ _ hcall).anew (refusals.need_le_size h.acyclic _)
  cases n with
  | simple schema =>
    simp only [Resolver.validate]
    exact .pure _
  | object properties additional =>
    cases v with
    | object members =>
      simp only [Resolver.validate]
      refine .bind (settles_declared fun p hp v hv => hpart (.property hp hv)) fun declared =>
        .bind (settles_additional fun entry he schema hadditional => ?_) fun undeclared => .pure _
      obtain ⟨name, value⟩ := entry
      subst hadditional
      exact hpart (.undeclared he)
    | _ =>
      simp only [Resolver.validate]
      exact .pure _
  | array items minItems maxItems =>
    cases v with
    | array elements =>
      simp only [Resolver.validate]
      exact .bind (settles_elements fun v hv => hpart (.element hv)) fun found => .pure _
    | _ =>
      simp only [Resolver.validate]
      exact .pure _
  | union members =>
    have hmember : ∀ n ∈ members, ∀ u ∈ n.references, refusals.Decides r u :=
      fun n hmem => h.closed.references_of_calls (fun _ => .inl)
        (show r.Calls (n, v) _ from .member hmem) hn
    simp only [Resolver.validate]
    -- All servers agree on whether a member accepts the type, so they go the same way.
    refine .bind (settles_anyAccepts fun n hmem =>
      (settles_accepts h (hmember n hmem) v).mono (refusals.need_member_le hmem)) fun b => ?_
    cases b with
    | true =>
      exact .bind (settles_alternatives fun n hmem =>
        (ih n v (.member hmem)).mono (refusals.need_member_le hmem)) fun found => .pure _
    | false =>
      exact .bind (settles_describeAll fun n hmem =>
        (settles_describe h (hmember n hmem)).mono (refusals.need_member_le hmem)) fun names =>
          .pure _
  | reference u =>
    simp only [Resolver.validate]
    exact .follow h.acyclic (hn u (by simp [Node.references]))
      (fun n hget => ih n v (.target hget)) (fun _ _ _ _ _ => rfl) fun _ _ _ => rfl

end Registry
end DraftSchema
