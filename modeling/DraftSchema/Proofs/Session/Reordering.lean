import DraftSchema.Proofs.Session.Runs
import DraftSchema.Proofs.Validation.Reordering

/-!
# `DraftSchema.Proofs.Session.Reordering`: documents up to the order of members

Two documents that differ in the order of members only are checked in a session whose
registry has all that the node refers to. The theorems:

* `built_after`: compilations register built nodes only.
* `reordering_immaterial`: for a built node the two documents are of an accepted type or
  not alike, and the same is violated in both, if not in the same order.
-/

set_option autoImplicit false

namespace DraftSchema
namespace Session

/-- A registry that was filled by compilations has built nodes only. -/
theorem built_after {requests : List (Source × Request)}
    (h : ∀ request ∈ requests, request.2.byHand = false) : (after requests).registry.Built :=
  after_keeps (fun _ _ hn => by simp at hn) fun request hrequest =>
    ⟨fun _ location hbuilt => Compilation.built_compile request.1 hbuilt location,
      h request hrequest⟩

/-- What a session compiles are built nodes. A session with a sound registry of built nodes
that is asked about two documents in which every object has every name once, and which differ
in the order of the members of objects only, gives for a built node the same answer about
their types and lists of violations that are the same up to order, so that both are valid or
none is and the numbers of violations are equal. The session stays as it was. -/
theorem reordering_immaterial (source : Source) (s : Session) (hbuilt : s.registry.Built) :
    (∀ location : Url, ((compile source location).run s).2.registry.Built ∧
      ∀ n, ((compile source location).run s).1 = .ok n → n.IsBuilt) ∧
    ∀ (n : Node) (v w : Json), s.registry.Sound → n.ClosedIn s.registry → n.IsBuilt →
      v.NamesOnce → v.Reordered w →
        ∃ accepted found found',
          (accepts source n v).run s = (accepted, s) ∧
          (accepts source n w).run s = (accepted, s) ∧
          (validate source n v).run s = (found, s) ∧
          (validate source n w).run s = (found', s) ∧
          found.Perm found' ∧ (found = [] ↔ found' = []) ∧ found.length = found'.length := by
  refine ⟨fun location => ?_, fun n v w hsound hclosed hn hnames hreordered => ?_⟩
  · rw [run_compile]
    have hregistry := Compilation.built_compile source hbuilt location
    exact ⟨hregistry, fun n hn => hregistry location n (Compilation.get?_of_compile hn)⟩
  · have halike : s.registry.Alike n v w :=
      Registry.alike_of_reordered hsound hbuilt hnames hreordered hclosed hn
    refine ⟨s.registry.accepts n v, s.registry.violations n v, s.registry.violations n w,
      run_accepts hsound hclosed source v, ?_, run_validate hsound hclosed source v,
      run_validate hsound hclosed source w, halike.violations, ?_, halike.violations.length_eq⟩
    · rw [halike.accepts]
      exact run_accepts hsound hclosed source w
    · rw [← List.length_eq_zero_iff, halike.violations.length_eq, List.length_eq_zero_iff]

end Session

/-! ### Two members that are not declared -/

namespace LinkedList

/-- A linked list whose second cell has two members that are not declared. -/
def surplus : Json := .object [("next", .object [("a", .null), ("b", .null)])]

/-- The same list with the two members in the other order. -/
def surplus' : Json := .object [("next", .object [("b", .null), ("a", .null)])]

/-- Both are reported in the order of the document. -/
theorem surplus_reordered :
    [⟨"next.b", "Unexpected property"⟩, ⟨"next.a", "Unexpected property"⟩].Perm
      ((Session.validate source node surplus).run (Session.after [(source, .get location)])).1 := by
  have hcompiled : ∀ request ∈ [(source, Request.get location)], request.2.byHand = false := by
    simp [Request.byHand]
  have hsound := Session.sound_after hcompiled
  have hbuilt := Session.built_after hcompiled
  have hclosed := hsound.closed location node get?_after
  have hnames : surplus'.NamesOnce := by
    refine .object (by decide) fun m hm => ?_
    obtain rfl := List.mem_singleton.mp hm
    refine .object (by decide) fun m hm => ?_
    simp only [List.mem_cons, List.not_mem_nil, or_false] at hm
    rcases hm with rfl | rfl <;> exact .null
  have hreordered : surplus'.Reordered surplus :=
    .values (.cons ⟨rfl, .members (List.Perm.swap _ _ [])⟩ .nil)
  obtain ⟨-, found, found', -, -, hfound, hfound', hperm, -⟩ :=
    (Session.reordering_immaterial source _ hbuilt).2 node surplus' surplus hsound hclosed
      (hbuilt location node get?_after) hnames hreordered
  have hinner : (Session.after [(source, .get location)]).registry.violations node
      (.object [("b", .null), ("a", .null)])
        = [⟨"b", "Unexpected property"⟩, ⟨"a", "Unexpected property"⟩] := by
    rw [node, Registry.violations_object]
    rfl
  have hlist : found = [⟨"next.b", "Unexpected property"⟩, ⟨"next.a", "Unexpected property"⟩] := by
    rw [Session.run_validate hsound hclosed] at hfound
    rw [← (Prod.mk.inj hfound).1, surplus', node, Registry.violations_object]
    simp only [List.flatMap_cons, List.flatMap_nil, List.append_nil, Registry.propertyViolations,
      Json.Members.get?, List.lookup_cons_self, Registry.violations_reference hsound get?_after,
      hinner]
    rfl
  rw [hfound', ← hlist]
  exact hperm

end LinkedList
end DraftSchema
