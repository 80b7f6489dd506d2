import DraftSchema.Proofs.Registry.Inlining
import DraftSchema.Proofs.Validation.Answers
import Mathlib.Data.List.Basic

/-!
# `DraftSchema.Proofs.Validation.Inlining`: a reference or the node that it leads to

Of two registries the first one has a node in the place of references that the second one has
to it (`Registry.Inlines`). A reference adds nothing to what is violated: neither a step to a
path nor a name to a list of types. The theorems:

* `Inlines.accepts_inline`, `Inlines.describe_inline` and `Inlines.violations_inline`: both
  registries give the same answers.
-/

set_option autoImplicit false

namespace DraftSchema.Registry

namespace Inlines

variable {r r' : Registry} {u : Url} {t n : Node} {v : Json}

/-- An answer for a reference is the one for what it leads to, and so both registries answer
alike for a reference if they do for what it leads to. -/
theorem reference {α : Type} (answer : Registry → Node → α) (h : Inlines r r' u t)
    (hanswer : ∀ (r : Registry) (w : Url) (n : Node), r.Sound → r.get? w = some n →
      answer r (.reference w) = answer r n) {w : Url} (hget : r'.get? w = some n)
    (hsame : answer r (n.inline u t) = answer r' n) :
    answer r ((Node.reference w).inline u t) = answer r' (.reference w) := by
  rw [hanswer r' w n h.sound' hget, ← hsame, Node.inline]
  by_cases hw : w.withoutFragment = u
  · -- The node itself stands there in the first registry.
    rw [← get?_withoutFragment, hw] at hget
    rw [if_pos hw, h.target n hget, Node.inline_of_avoids h.avoids]
  · have hget' : r.get? w = some (n.inline u t) := by rw [h.get?_eq w hw, hget, Option.map_some]
    rw [if_neg hw, hanswer r w _ h.sound hget']

/-- Some nodes accept a value where the others do. -/
theorem any_accepts_inline {members : List Node}
    (hsame : ∀ n ∈ members, r.accepts (n.inline u t) v = r'.accepts n v) :
    (members.map (·.inline u t)).any (r.accepts · v) = members.any (r'.accepts · v) := by
  induction members with
  | nil => rfl
  | cons n rest ih =>
    rw [List.map_cons, List.any_cons, List.any_cons, hsame n List.mem_cons_self,
      ih fun n hn => hsame n (List.mem_cons_of_mem _ hn)]

/-- Both registries accept values of the same types. -/
theorem accepts_inline (h : Inlines r r' u t) (hn : n.ClosedIn r') :
    r.accepts (n.inline u t) v = r'.accepts n v := by
  -- The induction is on the checks of the second registry: a reference there leads to a node
  -- for which the answers are known to agree.
  refine h.sound'.check_induction (motive := fun n v =>
    r.accepts (n.inline u t) v = r'.accepts n v) (fun n v hn ih => ?_) hn v
  cases n with
  | simple schema => rw [Node.inline, accepts_simple, accepts_simple]
  | object properties additional => rw [Node.inline, accepts_object, accepts_object]
  | array items minItems maxItems => rw [Node.inline, accepts_array, accepts_array]
  | union members =>
    rw [Node.inline, Node.inlineMembers_eq_map, accepts_union, accepts_union]
    exact any_accepts_inline fun n hmem => ih n v (.member hmem)
  | reference w =>
    obtain ⟨n, hget⟩ := has_iff.mp (hn w (by simp [Node.references]))
    exact h.reference (fun r n => r.accepts n v)
      (fun _ _ _ hsound => accepts_reference hsound) hget
      (ih n v (.target hget))

/-- Both registries have the same names for the types that are accepted. -/
theorem describe_inline (h : Inlines r r' u t) (hn : n.ClosedIn r') :
    r.describe (n.inline u t) = r'.describe n := by
  -- The names do not depend on a value, so that any one serves for the induction.
  refine h.sound'.check_induction (motive := fun n _ =>
    r.describe (n.inline u t) = r'.describe n) (fun n v hn ih => ?_) hn .null
  cases n with
  | simple schema => rw [Node.inline, describe_simple, describe_simple]
  | object properties additional => rw [Node.inline, describe_object, describe_object]
  | array items minItems maxItems => rw [Node.inline, describe_array, describe_array]
  | union members => rw [Node.inline, describe_union, describe_union]
  | reference w =>
    obtain ⟨n, hget⟩ := has_iff.mp (hn w (by simp [Node.references]))
    exact h.reference describe (fun _ _ _ hsound => describe_reference hsound) hget
      (ih n v (.target hget))

/-- A member violates the same in the schema of a declared property. -/
theorem propertyViolations_inline {members : Json.Members} {p : Property Node}
    (hsame : ∀ v, members.get? p.name = some v →
      r.violations (p.schema.inline u t) v = r'.violations p.schema v) :
    r.propertyViolations members { p with schema := p.schema.inline u t }
      = r'.propertyViolations members p := by
  unfold propertyViolations
  rcases hvalue : members.get? p.name with _ | v
  · rfl
  · simp only [hsame v hvalue]

/-- A member that is not declared violates the same. -/
theorem undeclaredViolations_inline {additional : Additional Node} {name : String}
    (hsame : ∀ schema, additional = .schema schema →
      r.violations (schema.inline u t) v = r'.violations schema v) :
    r.undeclaredViolations (Node.inlineAdditional additional u t) name v
      = r'.undeclaredViolations additional name v := by
  cases additional with
  | schema schema => simp only [Node.inlineAdditional, undeclaredViolations, hsame schema rfl]
  | _ => rfl

/-- Both registries find the same violations, in the same order. -/
theorem violations_inline (h : Inlines r r' u t) (hn : n.ClosedIn r') (v : Json) :
    r.violations (n.inline u t) v = r'.violations n v := by
  refine h.sound'.check_induction (motive := fun n v =>
    r.violations (n.inline u t) v = r'.violations n v) (fun n v hn ih => ?_) hn v
  cases n with
  | simple schema => rw [Node.inline, violations_simple, violations_simple]
  | object properties additional =>
    rw [Node.inline]
    cases v with
    | object members =>
      rw [violations_object, violations_object, Node.inlineProperties_eq_map, List.flatMap_map]
      refine congrArg₂ (· ++ ·) (List.flatMap_congr fun p hp => ?_)
        (List.flatMap_congr fun entry hentry => ?_)
      · exact propertyViolations_inline fun v hv => ih p.schema v (.property hp hv)
      · obtain ⟨name, v⟩ := entry
        simp only [List.any_map]
        refine if_congr Iff.rfl rfl (undeclaredViolations_inline fun schema heq => ?_)
        subst heq
        exact ih schema v (.undeclared hentry)
    | _ => rw [violations_object_of_not r _ _ (by simp), violations_object_of_not r' _ _ (by simp)]
  | array items minItems maxItems =>
    rw [Node.inline]
    cases v with
    | array elements =>
      rw [violations_array, violations_array]
      refine congrArg _ (List.flatMap_congr fun entry hentry => ?_)
      rw [ih items entry.1 (.element (List.fst_mem_of_mem_zipIdx hentry))]
    | _ =>
      rw [violations_array_of_not r _ _ _ (by simp), violations_array_of_not r' _ _ _ (by simp)]
  | union members =>
    -- A union asks its members for all three answers.
    have hmember : ∀ n ∈ members, n.ClosedIn r' := fun n hmem =>
      h.sound'.closed.of_calls (show r'.Calls (n, v) _ from .member hmem) hn
    have hviolations : (members.map (·.inline u t)).map (r.violations · v)
        = members.map (r'.violations · v) := by
      rw [List.map_map]
      exact List.map_congr_left fun n hmem => ih n v (.member hmem)
    have hdescribe : (members.map (·.inline u t)).map r.describe = members.map r'.describe := by
      rw [List.map_map]
      exact List.map_congr_left fun n hmem => h.describe_inline (hmember n hmem)
    rw [Node.inline, Node.inlineMembers_eq_map, violations_union, violations_union, hviolations,
      hdescribe, any_accepts_inline fun n hmem => h.accepts_inline (hmember n hmem)]
  | reference w =>
    obtain ⟨n, hget⟩ := has_iff.mp (hn w (by simp [Node.references]))
    exact h.reference (fun r n => r.violations n v)
      (fun _ _ _ hsound => violations_reference hsound) hget
      (ih n v (.target hget))

end Inlines
end DraftSchema.Registry
