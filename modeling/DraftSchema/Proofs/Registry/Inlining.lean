import DraftSchema.Proofs.Node.Inlining
import DraftSchema.Proofs.Registry.Gates

/-!
# `DraftSchema.Proofs.Registry.Inlining`: a node at a location of its own

A registry may hold a node `t` at a location `u` of its own, with references to it in other
nodes, or it may hold the other nodes with `t` in the place of the references (`Inlines`).
Either registry can be made from the other one, and it is sound if the other one is: a
reference between two registered nodes stays one, or becomes two by way of `u`. The theorems:

* `inlines_inlined`: `inlined` puts the node in the place of the references.
* `sound_outlined`: `outlined` puts a reference in the place of the node.
-/

set_option autoImplicit false

namespace DraftSchema.Registry

open Relation

/-- The first registry has the nodes of the second one, with the node `t` in the place of
the references to `u`, where the second one has `t` if it has a node there. -/
structure Inlines (r r' : Registry) (u : Url) (t : Node) : Prop where
  sound : r.Sound
  sound' : r'.Sound
  target : ∀ n, r'.get? u = some n → n = t
  /-- The node does not refer to its own location. -/
  avoids : t.Avoids u
  get?_eq : ∀ w, w.withoutFragment ≠ u → r.get? w = (r'.get? w).map (·.inline u t)

variable {r : Registry} {u v w home : Url} {n t : Node}

/-- What is on the way along references that decide on types has no fragment. -/
theorem Gate.plain (h : r.Gate v w) : w.withoutFragment = w := by
  obtain ⟨n, -, x, -, rfl⟩ := h
  exact Url.withoutFragment_withoutFragment x

/-! ### The node in the place of the references -/

/-- The nodes at other locations than `u`, with the node `t` in the place of references to
it. -/
def inlined (r : Registry) (u : Url) (t : Node) : Registry :=
  ⟨(r.entries.filter (·.1 ≠ u)).map fun entry => (entry.1, entry.2.inline u t)⟩

theorem get?_inlined (r : Registry) (u : Url) (t : Node) (w : Url) :
    (r.inlined u t).get? w
      = if w.withoutFragment = u then none else (r.get? w).map (·.inline u t) := by
  unfold inlined get?
  induction r.entries with
  | nil => simp
  | cons entry rest ih =>
    obtain ⟨key, n⟩ := entry
    by_cases hkey : key = u
    · rw [List.filter_cons_of_neg (by simpa using hkey), ih, lookup_cons_eq_ite]
      by_cases hw : w.withoutFragment = u
      · rw [if_pos hw, if_pos hw]
      · rw [if_neg hw, if_neg hw, if_neg fun heq => hw (heq.trans hkey)]
    · rw [List.filter_cons_of_pos (by simpa using hkey), List.map_cons, lookup_cons_eq_ite,
        lookup_cons_eq_ite, ih]
      by_cases hw : w.withoutFragment = key
      · rw [if_pos hw, if_pos hw, if_neg fun heq => hkey (hw.symm.trans heq), Option.map_some]
      · rw [if_neg hw, if_neg hw]

theorem get?_inlined_eq_some_iff : (r.inlined u t).get? w = some n ↔
    w.withoutFragment ≠ u ∧ ∃ m, r.get? w = some m ∧ m.inline u t = n := by
  rw [get?_inlined]
  by_cases hw : w.withoutFragment = u <;> simp [hw]

theorem has_inlined (hw : w.withoutFragment ≠ u) (hhas : r.has w) : (r.inlined u t).has w := by
  obtain ⟨n, hn⟩ := has_iff.mp hhas
  exact has_iff.mpr ⟨_, get?_inlined_eq_some_iff.mpr ⟨hw, n, hn, rfl⟩⟩

section

variable (h : r.Sound) (htarget : ∀ n, r.get? u = some n → n = t)

include h htarget

/-- Where a registered node refers to `u`, there is the node that is put in. -/
theorem get?_of_mem_references (hn : r.get? w = some n) (hv : v ∈ n.references)
    (hu : v.withoutFragment = u) : r.get? u = some t := by
  obtain ⟨m, hm⟩ := has_iff.mp (h.closed w n hn v hv)
  rw [← get?_withoutFragment, hu] at hm
  rw [hm, htarget m hm]

/-- The references of the node that is put in lead somewhere, as those of the others do. -/
theorem closed_inlined (havoids : t.Avoids u) : (r.inlined u t).Closed := by
  intro w n hn x hx
  obtain ⟨hw, m, hm, rfl⟩ := get?_inlined_eq_some_iff.mp hn
  rw [Node.references_inline, Node.mem_splice] at hx
  rcases hx with ⟨hx, hne⟩ | ⟨⟨y, hy, hyu⟩, hx⟩
  · exact has_inlined hne (h.closed w m hm x hx)
  · have hu := get?_of_mem_references h htarget hm hy hyu
    exact has_inlined (havoids x hx) (h.closed u t hu x hx)

/-- A circle would be one with the node at its own location. -/
theorem acyclic_inlined : (r.inlined u t).Acyclic := by
  -- A step over the node that is put in is two steps by way of its location.
  have hstep : ∀ a b, (r.inlined u t).Gate a b → TransGen r.Gate a b := by
    rintro a b ⟨n, hn, x, hx, rfl⟩
    obtain ⟨-, m, hm, rfl⟩ := get?_inlined_eq_some_iff.mp hn
    rw [Node.gates_inline, Node.mem_splice] at hx
    rcases hx with ⟨hx, -⟩ | ⟨⟨y, hy, hyu⟩, hx⟩
    · exact .single ⟨m, hm, x, hx, rfl⟩
    · have hu := get?_of_mem_references h htarget hm (Node.mem_references_of_mem_gates hy) hyu
      exact .tail (.single ⟨m, hm, y, hy, hyu⟩) ⟨t, hu, x, hx, rfl⟩
  exact fun a hcircle => h.acyclic a (hcircle.lift' id hstep)

theorem inlines_inlined (havoids : t.Avoids u) : Inlines (r.inlined u t) r u t where
  sound := ⟨closed_inlined h htarget havoids, acyclic_inlined h htarget⟩
  sound' := h
  target := htarget
  avoids := havoids
  get?_eq w hw := by rw [get?_inlined, if_neg hw]

end

/-! ### References in the place of the node -/

/-- The node `t` at a location `u` of its own, and a node at `home` that refers to it. -/
def outlined (r : Registry) (home u : Url) (n t : Node) : Registry :=
  ⟨(u, t) :: (home, n) :: r.entries⟩

theorem get?_outlined (r : Registry) (home u : Url) (n t : Node) (w : Url) :
    (r.outlined home u n t).get? w
      = if w.withoutFragment = u then some t
        else if w.withoutFragment = home then some n else r.get? w := by
  unfold outlined get?
  rw [lookup_cons_eq_ite, lookup_cons_eq_ite]

theorem has_outlined (hhas : r.has w) : (r.outlined home u n t).has w := by
  rw [has, get?_outlined]
  split
  · rfl
  · split
    · rfl
    · exact hhas

/-- In the registry that a node is taken out from, the node of `home` has it in the place of
the reference to `u`, and nothing else refers to `u`. -/
structure Outlines (r : Registry) (home u : Url) (n t : Node) : Prop where
  sound : r.Sound
  plain : u.withoutFragment = u
  node : r.get? home = some (n.inline u t)
  refers : u ∈ n.references
  avoids : t.Avoids u
  unreferred : ∀ w m, r.get? w = some m → m.Avoids u

namespace Outlines

variable (h : Outlines r home u n t)

include h

/-- The references of both nodes lead somewhere. -/
theorem closed : (r.outlined home u n t).Closed := by
  intro w m hm x hx
  rw [get?_outlined] at hm
  split at hm
  · cases hm
    refine has_outlined (h.sound.closed home _ h.node x ?_)
    rw [Node.references_inline, Node.mem_splice]
    exact .inr ⟨⟨u, h.refers, h.plain⟩, hx⟩
  · split at hm
    · cases hm
      by_cases hxu : x.withoutFragment = u
      · rw [has, get?_outlined, if_pos hxu]
        rfl
      · refine has_outlined (h.sound.closed home _ h.node x ?_)
        rw [Node.references_inline, Node.mem_splice]
        exact .inl ⟨hx, hxu⟩
    · exact has_outlined (h.sound.closed w m hm x hx)

/-- A step from another location is one as before, or it leads from `home` to the node that is
taken out. -/
theorem gate_cases (hv : v.withoutFragment ≠ u) (hgate : (r.outlined home u n t).Gate v w) :
    (w ≠ u ∧ r.Gate v w) ∨
      (w = u ∧ v.withoutFragment = home ∧ ∃ y ∈ n.gates, y.withoutFragment = u) := by
  obtain ⟨m, hm, x, hx, rfl⟩ := hgate
  rw [get?_outlined, if_neg hv] at hm
  split at hm
  · rename_i hhome
    cases hm
    by_cases hxu : x.withoutFragment = u
    · exact .inr ⟨hxu, hhome, x, hx, hxu⟩
    · refine .inl ⟨hxu, n.inline u t, ?_, x, ?_, rfl⟩
      · rw [← get?_withoutFragment, hhome, h.node]
      · rw [Node.gates_inline, Node.mem_splice]
        exact .inl ⟨hx, hxu⟩
  · exact .inl ⟨h.unreferred v m hm x (Node.mem_references_of_mem_gates hx), m, hm, x, hx, rfl⟩

/-- A step from the node that is taken out leads elsewhere, and comes from `home` if it was a
step there to the node. -/
theorem gate_of_gate_away (hgate : (r.outlined home u n t).Gate u w) :
    w ≠ u ∧ ((∃ y ∈ n.gates, y.withoutFragment = u) → r.Gate home w) := by
  obtain ⟨m, hm, x, hx, rfl⟩ := hgate
  rw [get?_outlined, if_pos h.plain] at hm
  cases hm
  refine ⟨h.avoids x (Node.mem_references_of_mem_gates hx), fun hy => ?_⟩
  refine ⟨n.inline u t, h.node, x, ?_, rfl⟩
  rw [Node.gates_inline, Node.mem_splice]
  exact .inr ⟨hy, hx⟩

/-- A way from another location is one as before, or it ends at the node that is taken out and
comes there from `home`. -/
theorem transGen_cases (hv : v.withoutFragment = v) (hne : v ≠ u)
    (hpath : TransGen (r.outlined home u n t).Gate v w) :
    (w ≠ u ∧ TransGen r.Gate v w) ∨
      (w = u ∧ ReflTransGen r.Gate v home ∧ ∃ y ∈ n.gates, y.withoutFragment = u) := by
  induction hpath with
  | single hgate =>
    rcases h.gate_cases (hv.symm ▸ hne) hgate with ⟨hw, hold⟩ | ⟨hw, hhome, hy⟩
    · exact .inl ⟨hw, .single hold⟩
    · rw [hv] at hhome
      exact .inr ⟨hw, hhome ▸ .refl, hy⟩
  | @tail a b hpath hgate ih =>
    rcases ih with ⟨ha, hold⟩ | ⟨rfl, hreach, hy⟩
    · have hplain : a.withoutFragment = a := by
        obtain ⟨_, -, hlast⟩ := TransGen.tail'_iff.mp hpath
        exact hlast.plain
      rcases h.gate_cases (hplain.symm ▸ ha) hgate with ⟨hw, hstep⟩ | ⟨hw, hhome, hy⟩
      · exact .inl ⟨hw, hold.tail hstep⟩
      · rw [hplain] at hhome
        exact .inr ⟨hw, hhome ▸ hold.to_reflTransGen, hy⟩
    · obtain ⟨hw, hstep⟩ := h.gate_of_gate_away hgate
      exact .inl ⟨hw, .tail' hreach (hstep hy)⟩

/-- A circle would be one before the node was taken out. -/
theorem acyclic : (r.outlined home u n t).Acyclic := by
  have hother : ∀ a, a.withoutFragment = a → a ≠ u →
      ¬ TransGen (r.outlined home u n t).Gate a a := by
    intro a hplain hne hcircle
    rcases h.transGen_cases hplain hne hcircle with ⟨-, hold⟩ | ⟨heq, -⟩
    · exact h.sound.acyclic a hold
    · exact hne heq
  intro a hcircle
  by_cases ha : a = u
  · -- A circle through the new location goes through another one.
    subst ha
    obtain ⟨b, hgate, hback⟩ := TransGen.head'_iff.mp hcircle
    exact hother b hgate.plain (h.gate_of_gate_away hgate).1 (.tail' hback hgate)
  · obtain ⟨_, -, hlast⟩ := TransGen.tail'_iff.mp hcircle
    exact hother a hlast.plain ha hcircle

theorem sound_outlined : (r.outlined home u n t).Sound := ⟨h.closed, h.acyclic⟩

end Outlines
end DraftSchema.Registry
