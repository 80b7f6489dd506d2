import DraftSchema.Proofs.Node.References
import DraftSchema.Registry
import Mathlib.Data.Finset.Card
import Mathlib.Data.List.MinMax
import Mathlib.Order.Nat
import Mathlib.Logic.Relation

/-!
# `DraftSchema.Proofs.Registry.Gates`: registries whose references lead somewhere

A registry is sound if all locations that its nodes refer to are registered and no
node leaves it to itself, by way of others, which types of values it accepts. The
theorems:

* `get?_register` and `get?_registerAll`: the first node of a location stays.
* `rank_lt_rank` and `rank_lt_size`: without circles, each location has a rank that
  falls along the references that decide on types and stays below the number of
  nodes.
* `CircleFree.acc`: where no circle can be reached from a location, following references
  from it comes to an end.
* `height_target_lt`: the height of a node, the number of references that can be
  followed one after the other from it, falls with each of them.
-/

set_option autoImplicit false

namespace DraftSchema

open Relation

/-! ### Looking up nodes -/

namespace Registry

/-- The first entry is found at its own key, and the others are looked up at all other
keys. -/
theorem lookup_cons_eq_ite {α : Type} (key u : Url) (value : α) (rest : List (Url × α)) :
    ((key, value) :: rest).lookup u = if u = key then some value else rest.lookup u := by
  by_cases h : u = key
  · simp [h]
  · rw [List.lookup_cons, beq_false_of_ne h, if_neg h]

@[simp] theorem get?_empty (u : Url) : (∅ : Registry).get? u = none := rfl

@[simp] theorem has_empty (u : Url) : (∅ : Registry).has u = false := rfl

theorem has_iff {r : Registry} {u : Url} : r.has u ↔ ∃ n, r.get? u = some n :=
  Option.isSome_iff_exists

theorem has_eq_false_iff {r : Registry} {u : Url} : r.has u = false ↔ r.get? u = none := by
  simp [has]

@[simp] theorem has_withoutFragment (r : Registry) (u : Url) :
    r.has u.withoutFragment = r.has u := by
  simp [has, get?_withoutFragment]

/-- A location has the node that it had, or else the one that is registered for
it. -/
theorem get?_register (r : Registry) (location : Url) (node : Node) (u : Url) :
    (r.register location node).get? u
      = (r.get? u).or
          (if u.withoutFragment = location.withoutFragment then some node else none) := by
  unfold register
  by_cases hhas : r.has location
  · rw [if_pos hhas]
    obtain ⟨n, hn⟩ := has_iff.mp hhas
    by_cases hu : u.withoutFragment = location.withoutFragment
    · have : r.get? u = some n := by rw [← hn, get?, get?, hu]
      simp [this]
    · simp [hu]
  · rw [if_neg hhas]
    rw [get?, List.lookup_append, lookup_cons_eq_ite, List.lookup_nil]
    rfl

/-- A location has the node that it had, or else the first one of the batch. -/
theorem get?_registerAll (r : Registry) (batch : List (Url × Node)) (u : Url) :
    (r.registerAll batch).get? u
      = (r.get? u).or
          ((batch.map fun entry => (entry.1.withoutFragment, entry.2)).lookup
            u.withoutFragment) := by
  unfold registerAll
  induction batch generalizing r with
  | nil => simp
  | cons entry rest ih =>
    rw [List.foldl_cons, ih, get?_register, List.map_cons, lookup_cons_eq_ite, Option.or_assoc]
    by_cases hu : u.withoutFragment = entry.1.withoutFragment <;> simp [hu]

/-- Every location has one entry, without its fragment. -/
structure Keyed (r : Registry) : Prop where
  nodup : (r.entries.map (·.1)).Nodup
  plain : ∀ u ∈ r.entries.map (·.1), u.withoutFragment = u

theorem keyed_empty : (∅ : Registry).Keyed where
  nodup := List.nodup_nil
  plain u h := by cases h

namespace Keyed

variable {r : Registry}

/-- What has an entry has a node. -/
theorem has (h : r.Keyed) {u : Url} (hu : u ∈ r.entries.map (·.1)) : r.has u := by
  obtain ⟨entry, hentry, rfl⟩ := List.mem_map.mp hu
  rw [Registry.has, get?, h.plain entry.1 hu, List.lookup_isSome_iff]
  exact ⟨entry, hentry, by simp⟩

theorem register (h : r.Keyed) (location : Url) (node : Node) :
    (r.register location node).Keyed := by
  unfold Registry.register
  split
  · exact h
  · rename_i hnew
    have hfresh : location.withoutFragment ∉ r.entries.map (·.1) := fun hmem =>
      hnew (by simpa using h.has hmem)
    constructor
    · rw [List.map_append, List.nodup_append]
      refine ⟨h.nodup, List.nodup_singleton _, fun u hu v hv heq => hfresh ?_⟩
      obtain rfl : v = location.withoutFragment := List.mem_singleton.mp hv
      exact heq ▸ hu
    · intro u hu
      rw [List.map_append, List.mem_append] at hu
      rcases hu with hu | hu
      · exact h.plain u hu
      · rw [List.mem_singleton.mp hu, Url.withoutFragment_withoutFragment]

theorem registerAll (h : r.Keyed) (batch : List (Url × Node)) : (r.registerAll batch).Keyed := by
  unfold Registry.registerAll
  induction batch generalizing r with
  | nil => exact h
  | cons entry rest ih => exact ih (h.register entry.1 entry.2)

/-- No more nodes are registered than there are locations for them. -/
theorem size_le (h : r.Keyed) {locations : List Url}
    (hsub : ∀ u, u.withoutFragment = u → r.has u → u ∈ locations) :
    r.size ≤ locations.length := by
  have hkeys : r.entries.map (·.1) ⊆ locations := fun u hu => hsub u (h.plain u hu) (h.has hu)
  have hle := (h.nodup.subperm hkeys).length_le
  rwa [List.length_map] at hle

end Keyed

end Registry

/-! ### Sound registries -/

/-- All locations that a node refers to are registered. -/
def Node.ClosedIn (r : Registry) (n : Node) : Prop := ∀ u ∈ n.references, r.has u

theorem Node.closedIn_reference {r : Registry} {u : Url} {n : Node} (h : r.get? u = some n) :
    (Node.reference u).ClosedIn r := by
  intro v hv
  rw [references, List.mem_singleton] at hv
  rw [hv]
  exact Registry.has_iff.mpr ⟨n, h⟩

namespace Registry

/-- All locations that registered nodes refer to are registered. -/
def Closed (r : Registry) : Prop := ∀ u n, r.get? u = some n → n.ClosedIn r

/-- The node at a location leaves it to another location, among others, which types
of values it accepts. What a reference leads to is known without its fragment. -/
def Gate (r : Registry) (u v : Url) : Prop :=
  ∃ n, r.get? u = some n ∧ ∃ t ∈ n.gates, t.withoutFragment = v

/-- No location leaves it to itself, by way of others, which types of values it
accepts. -/
def Acyclic (r : Registry) : Prop := ∀ u, ¬ TransGen r.Gate u u

/-- References lead to nodes and, where they decide on types, not in circles. -/
structure Sound (r : Registry) : Prop where
  closed : r.Closed
  acyclic : r.Acyclic

/-- There is no reference in an empty registry. -/
theorem sound_empty : (∅ : Registry).Sound where
  closed u n h := by simp at h
  acyclic u h := by
    obtain ⟨v, ⟨n, hn, -⟩, -⟩ := TransGen.head'_iff.mp h
    simp at hn

/-! ### Ranks -/

/-- The locations that have a node. -/
def keys (r : Registry) : Finset Url := (r.entries.map (·.1)).toFinset

theorem mem_keys_of_has {r : Registry} {u : Url} (h : r.has u) : u.withoutFragment ∈ r.keys := by
  obtain ⟨n, hn⟩ := has_iff.mp h
  obtain ⟨l₁, l₂, hl, -⟩ := List.lookup_eq_some_iff.mp hn
  simp [keys, hl]

theorem card_keys_le (r : Registry) : r.keys.card ≤ r.size := by
  have hle := List.toFinset_card_le (r.entries.map (·.1))
  rwa [List.length_map] at hle

open scoped Classical in
/-- The locations with a node that a location can come to by references that decide
on types. -/
noncomputable def below (r : Registry) (u : Url) : Finset Url :=
  r.keys.filter fun v => TransGen r.Gate u v

@[simp] theorem mem_below {r : Registry} {u v : Url} :
    v ∈ r.below u ↔ v ∈ r.keys ∧ TransGen r.Gate u v := by
  classical
  simp [below]

/-- Fragments do not count where a reference starts. -/
theorem gate_withoutFragment {r : Registry} {u v : Url} :
    r.Gate u.withoutFragment v ↔ r.Gate u v := by
  simp only [Gate, get?_withoutFragment]

theorem transGen_withoutFragment {r : Registry} {u v : Url} :
    TransGen r.Gate u.withoutFragment v ↔ TransGen r.Gate u v := by
  rw [TransGen.head'_iff, TransGen.head'_iff]
  simp only [gate_withoutFragment]

/-- The number of locations that a location can come to by references that decide on
types. -/
noncomputable def rank (r : Registry) (u : Url) : Nat := (r.below u).card

@[simp] theorem rank_withoutFragment (r : Registry) (u : Url) :
    r.rank u.withoutFragment = r.rank u := by
  unfold rank
  congr 1
  ext v
  simp only [mem_below, transGen_withoutFragment]

/-- A reference that decides on types leads to a location of a lower rank, unless that
location comes back to itself. -/
theorem rank_lt_rank {r : Registry} {u v : Url} (h : ¬ TransGen r.Gate v v) (hgate : r.Gate u v)
    (hv : r.has v) : r.rank v < r.rank u := by
  obtain ⟨n, hn, t, ht, rfl⟩ := hgate
  refine Finset.card_lt_card (Finset.ssubset_iff_subset_ne.mpr ⟨fun x hx => ?_, fun heq => ?_⟩)
  · rw [mem_below] at hx ⊢
    exact ⟨hx.1, hx.2.head ⟨n, hn, t, ht, rfl⟩⟩
  · -- The location itself is counted for `u`, and would be for itself in a circle.
    have hmem : t.withoutFragment ∈ r.below u := by
      have hkey := mem_keys_of_has hv
      rw [Url.withoutFragment_withoutFragment] at hkey
      exact mem_below.mpr ⟨hkey, .single ⟨n, hn, t, ht, rfl⟩⟩
    rw [← heq, mem_below] at hmem
    exact h hmem.2

/-- No circle can be reached from the location. -/
def CircleFree (r : Registry) (u : Url) : Prop :=
  ∀ v, ReflTransGen r.Gate u v → ¬ TransGen r.Gate v v

/-- Where no circle can be reached, following references comes to an end. -/
theorem CircleFree.acc {r : Registry} {u : Url} (h : r.CircleFree u) :
    Acc (fun b a => r.Gate a b) u := by
  -- Each step leads to a lower rank or to a location without a node.
  induction hrank : r.rank u using Nat.strong_induction_on generalizing u with
  | _ rank ih =>
    refine .intro u fun v hgate => ?_
    rcases hv : r.has v
    · refine .intro v fun w hnext => ?_
      obtain ⟨n, hn, -⟩ := hnext
      rw [has_eq_false_iff.mp hv] at hn
      cases hn
    · have hlt : r.rank v < rank := hrank ▸ rank_lt_rank (h v (.single hgate)) hgate hv
      exact ih (r.rank v) hlt (fun w hw => h w (hw.head hgate)) rfl

/-- The rank of a registered location is below the number of nodes. -/
theorem rank_lt_size {r : Registry} (h : r.Acyclic) {u : Url} (hu : r.has u) :
    r.rank u < r.size := by
  have hsub : r.below u ⊂ r.keys := by
    -- The location itself is a key and not below itself.
    refine Finset.ssubset_iff_subset_ne.mpr ⟨fun x hx => (mem_below.mp hx).1, fun heq => ?_⟩
    have hmem := mem_keys_of_has hu
    rw [← heq, mem_below] at hmem
    exact h _ (transGen_withoutFragment.mpr hmem.2)
  exact lt_of_lt_of_le (Finset.card_lt_card hsub) r.card_keys_le

/-! ### Heights -/

/-- The most references that can be followed one after the other from a node without
going into a part of the value. -/
noncomputable def height (r : Registry) (n : Node) : Nat :=
  ((n.gates.filter r.has).map fun t => r.rank t + 1).foldr max 0

/-- A registered location that decides on types is lower than the node. -/
theorem rank_lt_height {r : Registry} {n : Node} {t : Url} (ht : t ∈ n.gates) (hhas : r.has t) :
    r.rank t < r.height n := by
  have hmem : r.rank t + 1 ∈ (n.gates.filter r.has).map fun t => r.rank t + 1 :=
    List.mem_map_of_mem (List.mem_filter.mpr ⟨ht, hhas⟩)
  exact List.le_max_of_le' 0 hmem (Nat.le_refl _)

/-- The height of a node is below a bound if the locations are that decide on
types. -/
theorem height_le {r : Registry} {n : Node} {bound : Nat}
    (h : ∀ t ∈ n.gates, r.has t → r.rank t < bound) : r.height n ≤ bound := by
  have hranks : ∀ x ∈ (n.gates.filter r.has).map fun t => r.rank t + 1, x ≤ bound := by
    intro x hx
    obtain ⟨t, ht, rfl⟩ := List.mem_map.mp hx
    exact h t (List.mem_filter.mp ht).1 (List.mem_filter.mp ht).2
  exact List.max_le_of_forall_le _ bound hranks

/-- No more references can be followed one after the other than there are nodes. -/
theorem height_le_size {r : Registry} (h : r.Acyclic) (n : Node) : r.height n ≤ r.size :=
  height_le fun _ _ hhas => rank_lt_size h hhas

/-- A member of a union is no higher than the union. -/
theorem height_member_le {r : Registry} {members : List Node} {n : Node} (h : n ∈ members) :
    r.height n ≤ r.height (.union members) := by
  refine height_le fun t ht hhas => rank_lt_height ?_ hhas
  simp only [Node.gates, Node.mem_memberGates]
  exact ⟨n, h, ht⟩

/-- What a reference leads to is lower than the reference. -/
theorem height_target_lt {r : Registry} (h : r.Acyclic) {location : Url} {n : Node}
    (hn : r.get? location = some n) : r.height n < r.height (.reference location) := by
  have hhas : r.has location := has_iff.mpr ⟨n, hn⟩
  -- The height of a reference is the rank of its location and one more.
  refine lt_of_le_of_lt (height_le fun t ht htarget => ?_)
    (rank_lt_height (t := location) (by simp [Node.gates]) hhas)
  have hgate : r.Gate location t.withoutFragment := ⟨n, hn, t, ht, rfl⟩
  simpa using rank_lt_rank (h _) hgate (by simpa using htarget)

end Registry
end DraftSchema
