import DraftSchema.Proofs.Json.Reordering
import DraftSchema.Proofs.Node.Built
import DraftSchema.Proofs.Validation.Answers
import DraftSchema.Proofs.Validation.Calls

/-!
# `DraftSchema.Proofs.Validation.Reordering`: answers up to the order of members

A check reports undeclared members in the order of the document, and a union keeps the
first of the shortest lists of violations. The order of members makes nevertheless no
difference to what is found, only to where it stands in the list (`Registry.Alike`). The
theorems:

* `Alike.union` and `Alike.reference`: what a node leaves to others is alike if those are.
* `alike_of_hasParts`: so two values with parts are alike for all nodes if they are for
  objects and arrays.
* `alike_of_reordered`: a value in another order is alike for every built node.
-/

set_option autoImplicit false

namespace DraftSchema

open List (Forall₂)

/-- Lists that are the same up to order have the same length, and so the same one is kept. -/
theorem Resolver.perm_fewest {vss wss : List (List Violation)} (h : Forall₂ List.Perm vss wss) :
    (Resolver.fewest vss).Perm (Resolver.fewest wss) := by
  cases h with
  | nil => rfl
  | @cons vs ws vss wss hfirst hrest =>
    simp only [fewest]
    induction hrest generalizing vs ws with
    | nil => exact hfirst
    | @cons vs' ws' vss wss hnext _ ih =>
      rw [List.foldl_cons, List.foldl_cons, hnext.length_eq, hfirst.length_eq]
      split
      · exact ih hnext
      · exact ih hfirst

namespace Registry

variable {r : Registry}

/-- The node accepts both values or none, and finds the same in both up to order. -/
structure Alike (r : Registry) (n : Node) (v w : Json) : Prop where
  accepts : r.accepts n v = r.accepts n w
  violations : (r.violations n v).Perm (r.violations n w)

namespace Alike

variable {n : Node} {u v w : Json}

theorem refl (r : Registry) (n : Node) (v : Json) : r.Alike n v v := ⟨rfl, .refl _⟩

theorem trans (huv : r.Alike n u v) (hvw : r.Alike n v w) : r.Alike n u w :=
  ⟨huv.accepts.trans hvw.accepts, huv.violations.trans hvw.violations⟩

/-- A union asks its members only. -/
theorem union {members : List Node} (h : ∀ n ∈ members, r.Alike n v w) :
    r.Alike (.union members) v w := by
  have hany : members.any (r.accepts · v) = members.any (r.accepts · w) := by
    rw [Bool.eq_iff_iff, List.any_eq_true, List.any_eq_true]
    exact exists_congr fun n => and_congr_right fun hn => by rw [(h n hn).accepts]
  refine ⟨by rw [accepts_union, accepts_union, hany], ?_⟩
  rw [violations_union, violations_union, hany]
  split
  · refine Resolver.perm_fewest ?_
    rw [List.forall₂_map_left_iff, List.forall₂_map_right_iff, List.forall₂_same]
    exact fun n hn => (h n hn).violations
  · rfl

/-- A reference asks what it leads to. -/
theorem reference (hsound : r.Sound) {location : Url} (hn : r.get? location = some n)
    (h : r.Alike n v w) : r.Alike (.reference location) v w := by
  constructor
  · rw [accepts_reference hsound hn, accepts_reference hsound hn]
    exact h.accepts
  · rw [violations_reference hsound hn, violations_reference hsound hn]
    exact h.violations

/-- A built simple schema does not look into values with parts. -/
theorem simple {schema : SimpleSchema} (h : schema.IsBuilt) (hv : v.hasParts) (hw : w.hasParts) :
    r.Alike (.simple schema) v w := by
  constructor
  · rw [accepts_simple, accepts_simple, Bool.eq_iff_iff, SimpleType.accepts_of_hasParts hv,
      SimpleType.accepts_of_hasParts hw]
  · rw [violations_simple, violations_simple, h.violations_of_hasParts hv,
      h.violations_of_hasParts hw]

end Alike

/-- What a check against a built node needs are checks against built nodes. -/
theorem Built.of_calls (hbuilt : r.Built) {callee caller : Node × Json}
    (hcall : r.Calls callee caller) (hn : caller.1.IsBuilt) : callee.1.IsBuilt := by
  cases hcall with
  | property hp hvalue => cases hn with | object hproperties _ => exact hproperties _ hp
  | undeclared hvalue => cases hn with | object _ hadditional => exact hadditional _ rfl
  | element hvalue => cases hn with | array _ _ hitems => exact hitems
  | member hmem => cases hn with | union hmembers => exact hmembers _ hmem
  | target htarget => exact hbuilt _ _ htarget

section

variable (hsound : r.Sound) (hbuilt : r.Built)

include hsound hbuilt

/-- Two values with parts are alike for a node if they are for the objects and arrays that
it leaves them to. -/
theorem alike_of_hasParts {v w : Json} (hv : v.hasParts) (hw : w.hasParts)
    (hobject : ∀ properties additional, (Node.object properties additional).ClosedIn r →
      (Node.object properties additional).IsBuilt → r.Alike (.object properties additional) v w)
    (harray : ∀ items minItems maxItems, (Node.array items minItems maxItems).ClosedIn r →
      (Node.array items minItems maxItems).IsBuilt → r.Alike (.array items minItems maxItems) v w)
    {n : Node} (hclosed : n.ClosedIn r) (hn : n.IsBuilt) : r.Alike n v w := by
  -- The checks that the check of the first value needs tell which nodes are asked.
  suffices hall : ∀ u, u = v → n.IsBuilt → r.Alike n v w from hall v rfl hn
  intro u
  refine hsound.check_induction (motive := fun n u => u = v → n.IsBuilt → r.Alike n v w) ?_
    hclosed u
  rintro n u hclosed ih rfl hn
  cases n with
  | simple schema =>
    cases hn with | simple hschema => exact .simple hschema hv hw
  | object properties additional => exact hobject properties additional hclosed hn
  | array items minItems maxItems => exact harray items minItems maxItems hclosed hn
  | union members =>
    refine .union fun n hmem => ?_
    have hcall : r.Calls (n, u) (.union members, u) := .member hmem
    exact ih n u hcall rfl (hbuilt.of_calls hcall hn)
  | reference location =>
    obtain ⟨n, htarget⟩ := has_iff.mp (hclosed location (by simp [Node.references]))
    exact .reference hsound htarget (ih n u (.target htarget) rfl (hbuilt _ _ htarget))

/-- The members of an object are found at any place, and what undeclared ones violate
is listed in their order. -/
theorem alike_of_perm {ms ns : Json.Members} (h : ms.Perm ns) (hnames : (ms.map (·.1)).Nodup)
    {n : Node} (hclosed : n.ClosedIn r) (hn : n.IsBuilt) :
    r.Alike n (.object ms) (.object ns) := by
  refine alike_of_hasParts hsound hbuilt rfl rfl (fun properties additional _ _ => ?_)
    (fun items minItems maxItems _ _ => ?_) hclosed hn
  · refine ⟨by simp, ?_⟩
    have hdeclared : r.propertyViolations ms = r.propertyViolations ns := by
      funext p
      rw [propertyViolations, propertyViolations, Json.Members.get?_of_perm h hnames]
    rw [violations_object, violations_object, hdeclared]
    exact (List.Perm.refl _).append (h.flatMap_right _)
  · refine ⟨by simp, ?_⟩
    rw [violations_array_of_not _ _ _ _ (by simp), violations_array_of_not _ _ _ _ (by simp)]

/-- The value of a member is checked only against nodes that it is alike for. -/
theorem alike_member (before after : Json.Members) (name : String) {v w : Json}
    (hnames : ((before ++ (name, v) :: after).map (·.1)).Nodup)
    (h : ∀ n : Node, n.ClosedIn r → n.IsBuilt → r.Alike n v w)
    {n : Node} (hclosed : n.ClosedIn r) (hn : n.IsBuilt) :
    r.Alike n (.object (before ++ (name, v) :: after))
      (.object (before ++ (name, w) :: after)) := by
  have hmem : (name, v) ∈ before ++ (name, v) :: after := by simp
  have hvalue := (Json.Members.get?_eq_some_iff_mem hnames).mpr hmem
  have hvalue' : Json.Members.get? (before ++ (name, w) :: after) name = some w :=
    (Json.Members.get?_eq_some_iff_mem (by simpa using hnames)).mpr (by simp)
  refine alike_of_hasParts hsound hbuilt rfl rfl (fun properties additional hclosed hn => ?_)
    (fun items minItems maxItems _ _ => ?_) hclosed hn
  · have hpart : ∀ m : Node, r.Calls (m, v) (.object properties additional,
        .object (before ++ (name, v) :: after)) → (r.violations m v).Perm (r.violations m w) :=
      fun m hcall => (h m (hsound.closed.of_calls hcall hclosed)
        (hbuilt.of_calls hcall hn)).violations
    refine ⟨by simp, ?_⟩
    rw [violations_object, violations_object]
    refine List.Perm.append (List.Perm.flatMap_left _ fun p hp => ?_) ?_
    · by_cases hname : p.name = name
      · subst hname
        rw [propertyViolations, propertyViolations, hvalue, hvalue']
        exact (hpart p.schema (.property hp hvalue)).map _
      · rw [propertyViolations, propertyViolations, Json.Members.get?_append_cons_of_ne hname,
          Json.Members.get?_append_cons_of_ne hname]
    · -- The other members are the same, before and after this one.
      rw [List.flatMap_append, List.flatMap_append, List.flatMap_cons, List.flatMap_cons]
      refine (List.Perm.refl _).append (List.Perm.append ?_ (.refl _))
      split
      · rfl
      · cases additional with
        | schema schema => exact (hpart schema (.undeclared hmem)).map _
        | _ => rfl
  · refine ⟨by simp, ?_⟩
    rw [violations_array_of_not _ _ _ _ (by simp), violations_array_of_not _ _ _ _ (by simp)]

/-- An element is checked only against a node that it is alike for. -/
theorem alike_element (before after : List Json) {v w : Json}
    (h : ∀ n : Node, n.ClosedIn r → n.IsBuilt → r.Alike n v w)
    {n : Node} (hclosed : n.ClosedIn r) (hn : n.IsBuilt) :
    r.Alike n (.array (before ++ v :: after)) (.array (before ++ w :: after)) := by
  refine alike_of_hasParts hsound hbuilt rfl rfl (fun properties additional _ _ => ?_)
    (fun items minItems maxItems hclosed hn => ?_) hclosed hn
  · refine ⟨by simp, ?_⟩
    rw [violations_object_of_not _ _ _ (by simp), violations_object_of_not _ _ _ (by simp)]
  · have hcall : r.Calls (items, v)
        (.array items minItems maxItems, .array (before ++ v :: after)) := .element (by simp)
    have hitems := h items (hsound.closed.of_calls hcall hclosed) (hbuilt.of_calls hcall hn)
    refine ⟨by simp, ?_⟩
    rw [violations_array, violations_array]
    -- Neither the number of elements nor their indices change.
    simp only [List.length_append, List.length_cons, List.zipIdx_append, List.zipIdx_cons,
      List.flatMap_append, List.flatMap_cons]
    refine (List.Perm.refl _).append ((List.Perm.refl _).append (List.Perm.append ?_ (.refl _)))
    exact hitems.violations.map _

/-- A value in another order is alike for every built node. -/
theorem alike_of_reordered {v w : Json} (hnames : v.NamesOnce) (h : v.Reordered w) {n : Node}
    (hclosed : n.ClosedIn r) (hn : n.IsBuilt) : r.Alike n v w := by
  induction h generalizing n with
  | refl v => exact .refl r n v
  | trans huv _ ihuv ihvw =>
    exact (ihuv hnames hclosed hn).trans (ihvw (hnames.of_reordered huv) hclosed hn)
  | members h =>
    cases hnames with
    | object hdistinct _ => exact alike_of_perm hsound hbuilt h hdistinct hclosed hn
  | member before after name h ih =>
    cases hnames with
    | object hdistinct hvalues =>
      have hvalue := hvalues (name, _) (List.mem_append_right before List.mem_cons_self)
      exact alike_member hsound hbuilt before after name hdistinct (fun _ => ih hvalue) hclosed hn
  | element before after h ih =>
    cases hnames with
    | array helements =>
      have helement := helements _ (List.mem_append_right before List.mem_cons_self)
      exact alike_element hsound hbuilt before after (fun _ => ih helement) hclosed hn

end

end Registry
end DraftSchema
