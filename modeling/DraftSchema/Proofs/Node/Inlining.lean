import DraftSchema.Proofs.Node.References

/-!
# `DraftSchema.Proofs.Node.Inlining`: a node in the place of the references to it

`Node.inline n u t` is the node `n` with `t` wherever `n` refers to `u`; what `t` refers to
stays as it is. The theorems:

* `Node.induction`: what holds of a node if it holds of its parts holds of all nodes.
* `references_inline` and `gates_inline`: the locations of the node, with those of the one
  that was put in.
* `inline_of_avoids`: nothing changes in a node that does not refer to the location.
-/

set_option autoImplicit false

namespace DraftSchema.Node

/-- What holds of a node if it holds of all nodes right in it holds of all nodes. -/
theorem induction {motive : Node → Prop} (simple : ∀ schema, motive (.simple schema))
    (object : ∀ properties additional, (∀ p ∈ properties, motive p.schema) →
      (∀ schema, additional = .schema schema → motive schema) →
        motive (.object properties additional))
    (array : ∀ items minItems maxItems, motive items → motive (.array items minItems maxItems))
    (union : ∀ members, (∀ n ∈ members, motive n) → motive (.union members))
    (reference : ∀ location, motive (.reference location)) : ∀ n, motive n
  | .simple schema => simple schema
  | .object properties additional => by
    refine object properties additional (fun p hp => ?_) fun schema heq => ?_
    · have hsize := List.sizeOf_lt_of_mem hp
      exact induction simple object array union reference p.schema
    · subst heq
      exact induction simple object array union reference schema
  | .array items minItems maxItems =>
    array items minItems maxItems (induction simple object array union reference items)
  | .union members =>
    union members fun n hn => induction simple object array union reference n
  | .reference location => reference location
termination_by n => sizeOf n
decreasing_by
  -- A schema in a list or beside one is smaller than the node around it.
  · obtain ⟨name, required, schema⟩ := p
    simp only [Property.mk.sizeOf_spec, Node.object.sizeOf_spec] at hsize ⊢
    omega
  · subst heq
    simp only [Node.object.sizeOf_spec, Additional.schema.sizeOf_spec]
    omega
  · decreasing_tactic
  · have hsize := List.sizeOf_lt_of_mem hn
    simp only [Node.union.sizeOf_spec]
    omega

mutual

/-- The node with another one in the place of its references to a location. -/
def inline (n : Node) (u : Url) (t : Node) : Node :=
  match n with
  | .simple schema => .simple schema
  | .object properties additional =>
    .object (inlineProperties properties u t) (inlineAdditional additional u t)
  | .array items minItems maxItems => .array (items.inline u t) minItems maxItems
  | .union members => .union (inlineMembers members u t)
  | .reference location => if location.withoutFragment = u then t else .reference location

/-- The same for some nodes. -/
def inlineMembers (members : List Node) (u : Url) (t : Node) : List Node :=
  match members with
  | [] => []
  | n :: rest => n.inline u t :: inlineMembers rest u t

/-- The same for the schemas of declared properties. -/
def inlineProperties (properties : List (Property Node)) (u : Url) (t : Node) :
    List (Property Node) :=
  match properties with
  | [] => []
  | ⟨name, required, schema⟩ :: rest =>
    ⟨name, required, schema.inline u t⟩ :: inlineProperties rest u t

/-- The same for the schema of undeclared members. -/
def inlineAdditional (additional : Additional Node) (u : Url) (t : Node) : Additional Node :=
  match additional with
  | .allowed => .allowed
  | .forbidden => .forbidden
  | .schema schema => .schema (schema.inline u t)

end

variable {u : Url} {t n : Node}

@[simp] theorem inlineMembers_eq_map (members : List Node) :
    inlineMembers members u t = members.map (·.inline u t) := by
  induction members with
  | nil => rfl
  | cons n rest ih => rw [inlineMembers, ih, List.map_cons]

@[simp] theorem inlineProperties_eq_map (properties : List (Property Node)) :
    inlineProperties properties u t
      = properties.map fun p => { p with schema := p.schema.inline u t } := by
  induction properties with
  | nil => rfl
  | cons p rest ih => rw [inlineProperties, ih, List.map_cons]

/-! ### Locations -/

/-- Some locations in the place of those that are the same as `u` up to the fragment. -/
def splice (u : Url) (inner : List Url) (locations : List Url) : List Url :=
  locations.flatMap fun w => if w.withoutFragment = u then inner else [w]

theorem mem_splice {inner locations : List Url} {w : Url} : w ∈ splice u inner locations ↔
    (w ∈ locations ∧ w.withoutFragment ≠ u) ∨
      ((∃ x ∈ locations, x.withoutFragment = u) ∧ w ∈ inner) := by
  simp only [splice, List.mem_flatMap]
  refine ⟨?_, ?_⟩
  · rintro ⟨x, hx, hw⟩
    split at hw
    · rename_i heq
      exact .inr ⟨⟨x, hx, heq⟩, hw⟩
    · rename_i hne
      rw [List.mem_singleton.mp hw]
      exact .inl ⟨hx, hne⟩
  · rintro (⟨hw, hne⟩ | ⟨⟨x, hx, heq⟩, hw⟩)
    · exact ⟨w, hw, by simp [hne]⟩
    · exact ⟨x, hx, by simpa [heq] using hw⟩

theorem splice_append (inner front back : List Url) :
    splice u inner (front ++ back) = splice u inner front ++ splice u inner back :=
  List.flatMap_append

theorem splice_singleton (inner : List Url) (w : Url) :
    splice u inner [w] = if w.withoutFragment = u then inner else [w] := by
  simp [splice]

/-- The locations that the node refers to, with those of the other one put in. -/
theorem references_inline : (n.inline u t).references = splice u t.references n.references := by
  induction n using Node.induction with
  | simple schema => rfl
  | object properties additional hproperties hadditional =>
    have hundeclared : additionalReferences (inlineAdditional additional u t)
        = splice u t.references (additionalReferences additional) := by
      cases additional with
      | schema schema => exact hadditional schema rfl
      | _ => rfl
    have hdeclared : propertyReferences (inlineProperties properties u t)
        = splice u t.references (propertyReferences properties) := by
      -- The hypothesis about undeclared members would be taken into the second induction.
      clear hadditional
      induction properties with
      | nil => rfl
      | cons p rest ih =>
        have hrest := ih fun q hq => hproperties q (List.mem_cons_of_mem _ hq)
        rw [inlineProperties, propertyReferences, propertyReferences, splice_append,
          hproperties p List.mem_cons_self, hrest]
    rw [inline, references, references, splice_append, hdeclared, hundeclared]
  | array items minItems maxItems ih =>
    rw [inline, references, references, ih]
  | union members ih =>
    have hmembers : memberReferences (inlineMembers members u t)
        = splice u t.references (memberReferences members) := by
      induction members with
      | nil => rfl
      | cons n rest ihrest =>
        rw [inlineMembers, memberReferences, memberReferences, splice_append,
          ih n List.mem_cons_self, ihrest fun q hq => ih q (List.mem_cons_of_mem _ hq)]
    rw [inline, references, references, hmembers]
  | reference location =>
    rw [inline, references, splice_singleton]
    split <;> rfl

/-- The locations that decide on types, with those of the other node put in. -/
theorem gates_inline : (n.inline u t).gates = splice u t.gates n.gates := by
  induction n using Node.induction with
  | simple schema => rfl
  | object properties additional _ _ => rfl
  | array items minItems maxItems _ => rfl
  | union members ih =>
    have hmembers : memberGates (inlineMembers members u t)
        = splice u t.gates (memberGates members) := by
      induction members with
      | nil => rfl
      | cons n rest ihrest =>
        rw [inlineMembers, memberGates, memberGates, splice_append, ih n List.mem_cons_self,
          ihrest fun q hq => ih q (List.mem_cons_of_mem _ hq)]
    rw [inline, gates, gates, hmembers]
  | reference location =>
    rw [inline, gates, splice_singleton]
    split <;> rfl

/-! ### Nodes that do not refer to the location -/

/-- The node does not refer to the location, with whatever fragment. -/
def Avoids (n : Node) (u : Url) : Prop := ∀ w ∈ n.references, w.withoutFragment ≠ u

theorem avoids_object_iff {properties : List (Property Node)} {additional : Additional Node} :
    (Node.object properties additional).Avoids u ↔ (∀ p ∈ properties, p.schema.Avoids u) ∧
      ∀ schema, additional = .schema schema → schema.Avoids u := by
  have hadditional : (∀ w ∈ additionalReferences additional, w.withoutFragment ≠ u) ↔
      ∀ schema, additional = .schema schema → schema.Avoids u := by
    cases additional <;> simp [additionalReferences, Avoids]
  rw [← hadditional]
  simp only [Avoids, references, List.mem_append, mem_propertyReferences]
  refine ⟨fun h => ⟨fun p hp w hw => h w (.inr ⟨p, hp, hw⟩), fun w hw => h w (.inl hw)⟩, ?_⟩
  rintro ⟨hp, ha⟩ w (hw | ⟨p, hmem, hw⟩)
  · exact ha w hw
  · exact hp p hmem w hw

theorem avoids_array_iff {items : Node} {minItems maxItems : Nat} :
    (Node.array items minItems maxItems).Avoids u ↔ items.Avoids u := by
  simp only [Avoids, references]

theorem avoids_union_iff {members : List Node} :
    (Node.union members).Avoids u ↔ ∀ n ∈ members, n.Avoids u := by
  simp only [Avoids, references, mem_memberReferences]
  constructor
  · intro h n hn w hw
    exact h w ⟨n, hn, hw⟩
  · rintro h w ⟨n, hn, hw⟩
    exact h n hn w hw

/-- Nothing is put into a node that does not refer to the location. -/
theorem inline_of_avoids (h : n.Avoids u) : n.inline u t = n := by
  induction n using Node.induction with
  | simple schema => rfl
  | object properties additional hproperties hadditional =>
    rw [avoids_object_iff] at h
    have hdeclared : inlineProperties properties u t = properties := by
      rw [inlineProperties_eq_map, List.map_congr_left (g := id), List.map_id]
      intro p hp
      rw [hproperties p hp (h.1 p hp)]
      rfl
    have hundeclared : inlineAdditional additional u t = additional := by
      cases additional with
      | schema schema => rw [inlineAdditional, hadditional schema rfl (h.2 schema rfl)]
      | _ => rfl
    rw [inline, hdeclared, hundeclared]
  | array items minItems maxItems ih => rw [inline, ih (avoids_array_iff.mp h)]
  | union members ih =>
    rw [avoids_union_iff] at h
    rw [inline, inlineMembers_eq_map, List.map_congr_left (g := id), List.map_id]
    exact fun n hn => ih n hn (h n hn)
  | reference location =>
    rw [inline, if_neg]
    exact h location (by simp [references])

theorem inlineAdditional_of_avoids {additional : Additional Node}
    (h : ∀ schema, additional = .schema schema → schema.Avoids u) :
    inlineAdditional additional u t = additional := by
  cases additional with
  | schema schema => rw [inlineAdditional, inline_of_avoids (h schema rfl)]
  | _ => rfl

theorem inlineMembers_of_avoids {members : List Node} (h : ∀ n ∈ members, n.Avoids u) :
    inlineMembers members u t = members := by
  have hunion := inline_of_avoids (t := t) (avoids_union_iff.mpr h)
  rw [inline] at hunion
  exact Node.union.inj hunion

theorem inlineProperties_of_avoids {properties : List (Property Node)}
    (h : ∀ p ∈ properties, p.schema.Avoids u) : inlineProperties properties u t = properties := by
  have hobject := inline_of_avoids (t := t) (n := .object properties .allowed)
    (avoids_object_iff.mpr ⟨h, by simp⟩)
  rw [inline] at hobject
  exact (Node.object.inj hobject).1

/-- A list stays as it is around the node in it that does refer to the location. -/
theorem inlineMembers_append_cons {front back : List Node} (hfront : ∀ n ∈ front, n.Avoids u)
    (hback : ∀ n ∈ back, n.Avoids u) (n : Node) :
    inlineMembers (front ++ n :: back) u t = front ++ n.inline u t :: back := by
  rw [inlineMembers_eq_map, List.map_append, List.map_cons, ← inlineMembers_eq_map,
    ← inlineMembers_eq_map, inlineMembers_of_avoids hfront, inlineMembers_of_avoids hback]

theorem inlineProperties_append_cons {front back : List (Property Node)}
    (hfront : ∀ p ∈ front, p.schema.Avoids u) (hback : ∀ p ∈ back, p.schema.Avoids u)
    (name : String) (required : Bool) (n : Node) :
    inlineProperties (front ++ ⟨name, required, n⟩ :: back) u t
      = front ++ ⟨name, required, n.inline u t⟩ :: back := by
  rw [inlineProperties_eq_map, List.map_append, List.map_cons, ← inlineProperties_eq_map,
    ← inlineProperties_eq_map, inlineProperties_of_avoids hfront,
    inlineProperties_of_avoids hback]

end DraftSchema.Node
