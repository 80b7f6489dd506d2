import DraftSchema.Proofs.Session.Closure

/-!
# `DraftSchema.Proofs.Session.Termination`: checks come to an end

The recursion of a check is bounded by the number of references that may be followed
between two parts of a value. Against a registered schema the bound has no effect,
because the references that decide on types do not run in circles: the recursion would
end without it. `ChecksEnd` says what this means for a session. The theorem:

* `checksEnd_after`: it holds after every run that registers nothing by hand.
-/

set_option autoImplicit false

namespace DraftSchema.Session

/-- Checks against registered nodes come to an end by themselves. -/
structure ChecksEnd (s : Session) : Prop where
  /-- No location leaves it to itself, by way of others, which types it accepts. -/
  acyclic : s.registry.Acyclic
  /-- With every check that a check needs, what remains of the value gets smaller, or it
  stays and the rank of the node falls. -/
  decreasing : ∃ rank : Node → Nat, ∀ callee caller : Node × Json,
    s.registry.Calls callee caller →
      Prod.Lex (· < ·) (· < ·) (sizeOf callee.2, rank callee.1) (sizeOf caller.2, rank caller.1)
  /-- A reference is followed to its node, for which as many references may be followed
  as for any other node. -/
  followed : ∀ (location : Url) (node : Node), s.registry.get? location = some node →
    ∀ (source : Source) (document : Json),
      (validate source (.reference location) document).run s
          = (validate source node document).run s ∧
        (accepts source (.reference location) document).run s
          = (accepts source node document).run s ∧
        (describe source (.reference location)).run s = (describe source node).run s
  /-- The outcome is the same for all bounds from the number of nodes upward. -/
  unbounded : ∀ (location : Url) (node : Node), s.registry.get? location = some node →
    ∀ (source : Source) (document : Json) (limit : Nat), s.registry.size ≤ limit →
      let bounded : Resolver (StateM Session) := { resolver source s.registry with limit }
      (bounded.validate limit node document).run s = (validate source node document).run s ∧
        (bounded.accepts limit node document).run s = (accepts source node document).run s ∧
        (bounded.describe limit node).run s = (describe source node).run s
  /-- The bound is not met. -/
  notEndless : ∀ (location : Url) (node : Node), s.registry.get? location = some node →
    ∀ (source : Source) (document : Json),
      ∀ x ∈ ((validate source node document).run s).1, ∀ u,
        x.message ≠ (StructureFault.unresolved u .endless).message

/-- Checks against the nodes of a sound registry come to an end by themselves. -/
theorem checksEnd_of_sound {s : Session} (h : s.registry.Sound) : ChecksEnd s where
  acyclic := h.acyclic
  decreasing := ⟨s.registry.chainRank, fun _ _ hcall =>
    Registry.decreases_of_calls h.acyclic hcall⟩
  followed location node hnode source document := by
    have hclosed : node.ClosedIn s.registry := h.closed location node hnode
    have hreference : (Node.reference location).ClosedIn s.registry :=
      Node.closedIn_reference hnode
    refine ⟨?_, ?_, ?_⟩
    · rw [run_validate h hreference, run_validate h hclosed,
        Registry.violations_reference h hnode]
    · rw [run_accepts h hreference, run_accepts h hclosed, Registry.accepts_reference h hnode]
    · rw [run_describe h hreference, run_describe h hclosed, Registry.describe_reference h hnode]
  unbounded location node hnode source document limit hlimit := by
    have hclosed : node.ClosedIn s.registry := h.closed location node hnode
    refine ⟨?_, ?_, ?_⟩
    · rw [run_validate h hclosed]
      exact run_validate_bounded h hclosed source document hlimit
    · rw [run_accepts h hclosed]
      exact run_accepts_bounded h hclosed source document hlimit
    · rw [run_describe h hclosed]
      exact run_describe_bounded h hclosed source hlimit
  notEndless location node hnode source document x hx u hmessage := by
    have hclosed : node.ClosedIn s.registry := h.closed location node hnode
    -- A bound that is met is told as a reference that could not be resolved.
    rw [run_validate h hclosed] at hx
    exact Registry.violations_resolved h hclosed x hx ⟨u, .endless, hmessage⟩

/-- After every run without a node made by hand, whatever the source answered and
however it changed, checks against registered nodes come to an end by themselves. -/
theorem checksEnd_after {requests : List (Source × Request)}
    (h : ∀ request ∈ requests, request.2.byHand = false) : ChecksEnd (after requests) :=
  checksEnd_of_sound (sound_after h)

/-- The schema of linked lists refers to itself, and checks against it come to an end. -/
theorem checksEnd_linkedList :
    ChecksEnd (after [(LinkedList.source, .get LinkedList.location)]) :=
  checksEnd_after (by simp [Request.byHand])

end DraftSchema.Session
