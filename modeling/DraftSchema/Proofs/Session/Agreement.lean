import DraftSchema.Proofs.Session.Runs
import DraftSchema.Proofs.Validation.Agreement

/-!
# `DraftSchema.Proofs.Session.Agreement`: a session's answers about types and violations

A node can be asked for the types that it accepts and for what a value violates, in a
session whose registry has all that the node refers to or after the registry is gone. The
theorem:

* `accepts_agrees_with_validate`: a value of a type that is not accepted violates its type
  and nothing else, and one that violates nothing is of an accepted type.
-/

set_option autoImplicit false

namespace DraftSchema.Session

/-- What a session with a sound registry says of the type of a value goes together with
the violations that it finds, and both questions leave it as it was. After the registry is
gone the answers go together as well, and so they do for every other way to resolve
references that has no effects, such as one that has lost some schemas and not others. -/
theorem accepts_agrees_with_validate (n : Node) (v : Json) :
    (∀ (source : Source) (s : Session), s.registry.Sound → n.ClosedIn s.registry →
      ∃ accepted found, (accepts source n v).run s = (accepted, s) ∧
        (validate source n v).run s = (found, s) ∧ Agree accepted found) ∧
    Agree (Resolver.gone.accepts Resolver.gone.limit n v)
      (Resolver.gone.validate Resolver.gone.limit n v) ∧
    ∀ (r : Resolver Id) (hops : Nat), Agree (r.accepts hops n v) (r.validate hops n v) := by
  refine ⟨fun source s hsound hclosed => ?_, Resolver.gone.agree _ n v, fun r hops =>
    r.agree hops n v⟩
  have hagree : Agree (s.registry.accepts n v) (s.registry.violations n v) :=
    s.registry.resolver.agree s.registry.size n v
  exact ⟨_, _, run_accepts hsound hclosed source v, run_validate hsound hclosed source v, hagree⟩

/-- A value that is no object violates its type in the schema of linked lists. -/
theorem linkedList_rejects_null :
    ∃ expected, ((validate LinkedList.source LinkedList.node .null).run
        (after [(LinkedList.source, .get LinkedList.location)])).1
      = [⟨"", "Invalid type: " ++ expected⟩] := by
  have hsound : (after [(LinkedList.source, .get LinkedList.location)]).registry.Sound :=
    sound_after (by simp [Request.byHand])
  have hclosed := hsound.closed LinkedList.location LinkedList.node LinkedList.get?_after
  obtain ⟨accepted, found, haccepts, hvalidate, hagree⟩ :=
    (accepts_agrees_with_validate LinkedList.node .null).1 LinkedList.source _ hsound hclosed
  have hrejected : accepted = false := by
    rw [run_accepts hsound hclosed] at haccepts
    rw [← (Prod.mk.inj haccepts).1, LinkedList.node, Registry.accepts_object]
  rw [hvalidate]
  exact hagree.onlyType hrejected

end DraftSchema.Session
