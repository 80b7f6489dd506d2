import DraftSchema.Compilation
import DraftSchema.Proofs.Compilation.Search
import DraftSchema.Proofs.Node.References
import Mathlib.Data.List.Chain

/-!
# `DraftSchema.Proofs.Compilation.Loops`: which batches are refused for a loop

A schema leaves it to another one which types of values it accepts if it is a reference to
it, or a union with such a schema among its members. A batch is refused if these references
lead in a circle that can be reached from it. References are followed as they are written,
which is where they lead if they have no fragments. The theorems:

* `leavesTo_iff`: the references that are followed are those that decide on types.
* `closes_of_firstLoop`: what the search finds goes along references and ends where it
  starts.
* `found_iff_circle`: a loop is found if and only if there is a circle, and it is one.
-/

set_option autoImplicit false

namespace DraftSchema

open Relation

/-! ### References that decide on types -/

/-- A schema leaves it to the one at a location which types of values it accepts. -/
inductive Node.LeavesTo : Node → Url → Prop where
  | reference (u : Url) : LeavesTo (.reference u) u
  | union {members : List Node} {n : Node} {u : Url} (member : n ∈ members)
      (leaves : n.LeavesTo u) : LeavesTo (.union members) u

/-- What a schema leaves the types to are the locations that decide on them. -/
theorem Node.leavesTo_iff {n : Node} {u : Url} : n.LeavesTo u ↔ u ∈ n.gates := by
  constructor
  · intro h
    induction h with
    | reference u => simp [gates]
    | union hmem _ ih =>
      simp only [gates, mem_memberGates]
      exact ⟨_, hmem, ih⟩
  · exact of_gates
where
  of_gates : ∀ {n : Node}, u ∈ n.gates → n.LeavesTo u
    | .simple _, h | .object _ _, h | .array _ _ _, h => by simp [gates] at h
    | .reference v, h => by
      obtain rfl : u = v := by simpa [gates] using h
      exact .reference u
    | .union members, h => by
      simp only [gates, mem_memberGates] at h
      obtain ⟨n, hmem, hgate⟩ := h
      exact .union hmem (of_gates hgate)

/-- Only references and unions leave anything to other schemas. -/
theorem Node.LeavesTo.cases {n : Node} {u : Url} (h : n.LeavesTo u) :
    n = .reference u ∨ ∃ members, n = .union members := by
  cases h with
  | reference => exact .inl rfl
  | union => exact .inr ⟨_, rfl⟩

namespace Compilation

/-- A search through a batch meets the schema at a location: the one of the batch, or the
registered one if the batch has none for the location. -/
def Meets (registry : Registry) (batch : List (Url × Node)) (u : Url) (n : Node) : Prop :=
  batch.lookup u = some n ∨ batch.lookup u = none ∧ registry.get? u = some n

/-- The schema that is met at a location leaves the types to another location. -/
def LeadsTo (registry : Registry) (batch : List (Url × Node)) (u v : Url) : Prop :=
  ∃ n, Meets registry batch u n ∧ n.LeavesTo v

variable {registry : Registry} {batch : List (Url × Node)}

/-- The search follows the references that decide on types. -/
theorem leadsTo_iff {u v : Url} : LeadsTo registry batch u v ↔ v ∈ gates registry batch u := by
  simp only [LeadsTo, Meets, gates, Node.leavesTo_iff]
  rcases batch.lookup u with _ | n
  · rcases registry.get? u with _ | n <;> simp
  · simp

/-- The references of the search, as a relation. -/
theorem leadsTo_eq :
    (fun a b => b ∈ gates registry batch a) = LeadsTo registry batch :=
  funext fun _ => funext fun _ => propext leadsTo_iff.symm

/-- References lead away only from references and unions. -/
theorem Meets.of_leadsTo {u v : Url} {n : Node} (hn : Meets registry batch u n)
    (h : LeadsTo registry batch u v) : n = .reference v ∨ ∃ members, n = .union members := by
  obtain ⟨m, hm, hleaves⟩ := h
  have heq : n = m := by
    rcases hn with hn | ⟨hnone, hn⟩ <;> rcases hm with hm | ⟨hnone', hm⟩ <;> simp_all
  exact heq ▸ hleaves.cases

/-! ### What the search finds -/

/-- The locations of a loop: it ends where it starts, and each location leads to the next
one. -/
structure Closes (edge : Url → Url → Prop) (loop : List Url) (u : Url) : Prop where
  ends : ∃ inner, loop = u :: (inner ++ [u])
  follows : loop.IsChain edge

/-- A path from the first visit of a location on, closed by the second visit. -/
theorem closes_dropWhile {edge : Url → Url → Prop} {path : List Url} {u : Url} (hmem : u ∈ path)
    (hpath : (path ++ [u]).IsChain edge) :
    Closes edge (path.dropWhile (· ≠ u) ++ [u]) u := by
  obtain ⟨front, back, rfl, hfront⟩ := List.eq_append_cons_of_mem hmem
  have hskip : ∀ x ∈ front, decide (x ≠ u) = true := by
    intro x hx
    have hne : x ≠ u := fun heq => hfront (heq ▸ hx)
    simpa using hne
  have hdrop : (front ++ u :: back).dropWhile (· ≠ u) = u :: back := by
    rw [List.dropWhile_append_of_pos hskip]
    simp
  rw [hdrop]
  rw [List.append_assoc] at hpath
  exact ⟨⟨back, rfl⟩, hpath.right_of_append⟩

/-- Each location of a loop leads to some location. -/
theorem Closes.exists_next {edge : Url → Url → Prop} {loop : List Url} {u x : Url}
    (h : Closes edge loop u) (hx : x ∈ loop) : ∃ y, edge x y := by
  obtain ⟨⟨inner, rfl⟩, hfollows⟩ := h
  -- The last location is the first one, so it is enough to look at the others.
  have hmem : x ∈ u :: inner := by simpa [or_comm, or_assoc] using hx
  obtain ⟨front, back, heq, -⟩ := List.eq_append_cons_of_mem hmem
  have hloop : u :: (inner ++ [u]) = front ++ x :: (back ++ [u]) := by
    rw [← List.cons_append, heq, List.append_assoc, List.cons_append]
  rw [hloop] at hfollows
  obtain ⟨y, rest, hback⟩ : ∃ y rest, back ++ [u] = y :: rest :=
    List.exists_cons_of_ne_nil (by simp)
  rw [hback] at hfollows
  exact ⟨y, (List.isChain_cons_cons.mp hfollows.right_of_append).1⟩

/-- What the search finds closes. It closes on the path that led to the search or on a
location that can be reached from there. -/
theorem closes_of_firstLoop {edge : Url → Url → Prop} {targets : Url → List Url}
    (hedge : ∀ a, ∀ b ∈ targets a, edge a b) {depth : Nat} {path : List Url} {u : Url}
    {loop : List Url} (hpath : (path ++ [u]).IsChain edge)
    (h : firstLoop targets depth path u = some loop) :
    ∃ x, Closes edge loop x ∧ (x ∈ path ∨ ReflTransGen edge u x) := by
  -- The path stays a chain of references, longer by the one that is followed.
  induction depth generalizing path u with
  | zero =>
    by_cases hmem : u ∈ path
    · obtain rfl := Option.some.inj ((firstLoop_of_mem targets 0 hmem).symm.trans h)
      exact ⟨u, closes_dropWhile hmem hpath, .inl hmem⟩
    · simp [firstLoop, hmem] at h
  | succ depth ih =>
    by_cases hmem : u ∈ path
    · obtain rfl := Option.some.inj ((firstLoop_of_mem targets (depth + 1) hmem).symm.trans h)
      exact ⟨u, closes_dropWhile hmem hpath, .inl hmem⟩
    · rw [firstLoop_succ targets depth hmem] at h
      obtain ⟨t, ht, hloop⟩ := List.exists_of_findSome?_eq_some h
      have hnext : ((path ++ [u]) ++ [t]).IsChain edge := by
        refine hpath.append (List.isChain_singleton t) ?_
        simpa using hedge u t ht
      obtain ⟨x, hcloses, hx⟩ := ih hnext hloop
      refine ⟨x, hcloses, ?_⟩
      rcases hx with hx | hx
      · rcases List.mem_append.mp hx with hx | hx
        · exact .inl hx
        · rw [List.mem_singleton.mp hx]
          exact .inr .refl
      · exact .inr (.head (hedge u t ht) hx)

/-- What is found in a batch closes, at a location that can be reached from the batch. -/
theorem closes_of_findLoop? {loop : List Url} (h : findLoop? registry batch = some loop) :
    ∃ u, Closes (LeadsTo registry batch) loop u ∧
      ∃ start ∈ batch.map (·.1), ReflTransGen (LeadsTo registry batch) start u := by
  rw [findLoop?_eq_findSome?] at h
  obtain ⟨start, hstart, hloop⟩ := List.exists_of_findSome?_eq_some h
  have hedge : ∀ a, ∀ b ∈ gates registry batch a, LeadsTo registry batch a b :=
    fun _ _ hb => leadsTo_iff.mpr hb
  obtain ⟨u, hcloses, hu⟩ := closes_of_firstLoop hedge (List.isChain_singleton start) hloop
  rcases hu with hu | hu
  · simp at hu
  · exact ⟨u, hcloses, start, hstart, hu⟩

/-- The error for a loop is about the location on which the loop closes. -/
theorem loopError_of_closes {edge : Url → Url → Prop} {loop : List Url} {u : Url}
    (h : Closes edge loop u) : loopError loop = ⟨u.text, .loop (loop.map Url.text)⟩ := by
  obtain ⟨⟨inner, rfl⟩, -⟩ := h
  have hlast : ((u :: (inner ++ [u])).map Url.text).getLast? = some u.text := by
    have hshape : (u :: (inner ++ [u])).map Url.text = (u :: inner).map Url.text ++ [u.text] := by
      simp
    rw [hshape, List.getLast?_concat]
  simp only [loopError, hlast, Option.getD_some]

/-- Let some locations be about to be registered with their schemas, in any registry. None
of them is refused if and only if no circle of references can be reached from them, where
a reference is followed if it decides on types: a schema that is a reference or a union with
such a member. Otherwise the error is about a location to which the references of its chain
lead back, one after the other. Every location in the chain has a reference or a union:
schemas that come back to themselves by way of properties or elements are not refused. -/
theorem found_iff_circle (registry : Registry) (batch : List (Url × Node)) :
    (findLoop? registry batch = none ↔
      ∀ u ∈ batch.map (·.1), ∀ v, ReflTransGen (LeadsTo registry batch) u v →
        ¬ TransGen (LeadsTo registry batch) v v) ∧
    ∀ loop, findLoop? registry batch = some loop →
      ∃ u, Closes (LeadsTo registry batch) loop u ∧
        (∃ start ∈ batch.map (·.1), ReflTransGen (LeadsTo registry batch) start u) ∧
        loopError loop = ⟨u.text, .loop (loop.map Url.text)⟩ ∧
        (loopError loop).message =
          "Schema " ++ u.text ++ " refers back to itself without constraining anything: " ++
            String.intercalate " -> " (loop.map Url.text) ∧
        ∀ x ∈ loop, ∀ n, Meets registry batch x n →
          (∃ v, n = .reference v) ∨ ∃ members, n = .union members := by
  refine ⟨⟨fun hnone u hu v hv => ?_, fun hfree => ?_⟩, fun loop hloop => ?_⟩
  · rw [← leadsTo_eq] at hv ⊢
    exact not_loop_of_findLoop?_eq_none hnone hu hv
  · rcases hfound : findLoop? registry batch with _ | loop
    · rfl
    · rw [findLoop?_eq_findSome?] at hfound
      obtain ⟨start, hstart, hloop⟩ := List.exists_of_findSome?_eq_some hfound
      obtain ⟨x, hreach, hcircle⟩ := exists_loop_of_firstLoop hloop (by simp)
      rw [leadsTo_eq] at hreach hcircle
      exact absurd hcircle (hfree start hstart x hreach)
  · obtain ⟨u, hcloses, hreach⟩ := closes_of_findLoop? hloop
    have herror := loopError_of_closes hcloses
    refine ⟨u, hcloses, hreach, herror, by rw [herror]; rfl, fun x hx n hn => ?_⟩
    obtain ⟨y, hy⟩ := hcloses.exists_next hx
    rcases hn.of_leadsTo hy with href | hunion
    · exact .inl ⟨y, href⟩
    · exact .inr hunion

end Compilation
end DraftSchema
