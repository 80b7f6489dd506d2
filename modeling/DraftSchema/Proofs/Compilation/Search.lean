import DraftSchema.Compilation.Loops
import Mathlib.Data.Finset.Card
import Mathlib.Logic.Relation

/-!
# `DraftSchema.Proofs.Compilation.Search`: what the search for loops finds

`findLoop?` walks the references of a batch and remembers the locations from which
no loop can be reached. `firstLoop` is the same search without that memory: it
tries every path. The theorems:

* `walk_tells`: a walk and the search without memory agree, and what a walk
  remembers is settled, so that it cannot change an answer.
* `findLoop?_eq_findSome?`: the loop that is found is the first one, in the order of
  the batch and, from each location, in the order of its references.
* `firstLoop_congr`: the answer depends neither on the bound on the depth nor on the
  references of locations that cannot be reached.
* `Settled.not_loop` and `exists_loop_of_firstLoop`: no loop goes through what a walk
  has settled, and where the search finds a loop there is one.
-/

set_option autoImplicit false

namespace DraftSchema.Compilation

open Relation

/-- The first loop on the paths that start at a location, with the path that led
there. -/
def firstLoop (targets : Url → List Url) : Nat → List Url → Url → Option (List Url)
  | 0, path, u => if u ∈ path then some (path.dropWhile (· ≠ u) ++ [u]) else none
  | depth + 1, path, u =>
    if u ∈ path then some (path.dropWhile (· ≠ u) ++ [u])
    else (targets u).findSome? (firstLoop targets depth (path ++ [u]))

/-- A location that is met again closes a loop, at whatever depth. -/
theorem firstLoop_of_mem (targets : Url → List Url) (depth : Nat) {path : List Url} {u : Url}
    (h : u ∈ path) :
    firstLoop targets depth path u = some (path.dropWhile (· ≠ u) ++ [u]) := by
  cases depth <;> simp only [firstLoop, if_pos h]

/-- Where no location is met again, the search goes on at the references. -/
theorem firstLoop_succ (targets : Url → List Url) (depth : Nat) {path : List Url} {u : Url}
    (h : u ∉ path) :
    firstLoop targets (depth + 1) path u
      = (targets u).findSome? (firstLoop targets depth (path ++ [u])) := by
  simp only [firstLoop, if_neg h]

/-! ### Settled locations -/

/-- Each location of the list stands in front of all that it refers to, and stands
there once. -/
def Settled (targets : Url → List Url) : List Url → Prop
  | [] => True
  | u :: rest => u ∉ rest ∧ (∀ t ∈ targets u, t ∈ rest) ∧ Settled targets rest

/-- What a settled location refers to is settled as well. -/
theorem Settled.targets_mem {targets : Url → List Url} {finished : List Url}
    (h : Settled targets finished) {u t : Url} (hu : u ∈ finished) (ht : t ∈ targets u) :
    t ∈ finished := by
  induction finished with
  | nil => simp at hu
  | cons x rest ih =>
    obtain ⟨-, hx, hrest⟩ := h
    rcases List.mem_cons.mp hu with rfl | hu
    · exact List.mem_cons_of_mem _ (hx t ht)
    · exact List.mem_cons_of_mem _ (ih hrest hu)

/-- All that can be reached from a settled location is settled. -/
theorem Settled.reach_mem {targets : Url → List Url} {finished : List Url}
    (h : Settled targets finished) {u v : Url} (hu : u ∈ finished)
    (hv : ReflTransGen (fun a b => b ∈ targets a) u v) : v ∈ finished := by
  induction hv with
  | refl => exact hu
  | tail _ hstep ih => exact h.targets_mem ih hstep

/-- No loop goes through a settled location. -/
theorem Settled.not_loop {targets : Url → List Url} {finished : List Url}
    (h : Settled targets finished) {u : Url} (hu : u ∈ finished) :
    ¬ TransGen (fun a b => b ∈ targets a) u u := by
  induction finished with
  | nil => simp at hu
  | cons x rest ih =>
    obtain ⟨hx, htargets, hrest⟩ := h
    intro hloop
    rcases List.mem_cons.mp hu with rfl | hu
    · -- The loop leaves `u` for the rest, which leads back to the rest only.
      obtain ⟨t, hut, htu⟩ := TransGen.head'_iff.mp hloop
      exact hx (hrest.reach_mem (htargets t hut) htu)
    · exact ih hrest hu hloop

/-- The search finds nothing at a settled location, if the path to it goes through
none. -/
theorem Settled.firstLoop_eq_none {targets : Url → List Url} {finished : List Url}
    (h : Settled targets finished) (depth : Nat) {path : List Url}
    (hpath : ∀ x ∈ path, x ∉ finished) {u : Url} (hu : u ∈ finished) :
    firstLoop targets depth path u = none := by
  -- The list gets shorter with each reference, whatever the depth is.
  induction finished generalizing depth path u with
  | nil => simp at hu
  | cons x rest ih =>
    obtain ⟨hx, htargets, hrest⟩ := h
    have hpath' : ∀ y ∈ path, y ∉ rest := fun y hy hmem =>
      hpath y hy (List.mem_cons_of_mem _ hmem)
    rcases List.mem_cons.mp hu with rfl | hu
    · have hfresh : u ∉ path := fun hmem => hpath u hmem (List.mem_cons_self)
      cases depth with
      | zero => simp only [firstLoop, if_neg hfresh]
      | succ depth =>
        rw [firstLoop_succ targets depth hfresh, List.findSome?_eq_none_iff]
        intro t ht
        refine ih hrest depth ?_ (htargets t ht)
        intro y hy
        rcases List.mem_append.mp hy with hy | hy
        · exact hpath' y hy
        · rw [List.mem_singleton.mp hy]
          exact hx
    · exact ih hrest depth hpath' hu

/-! ### Depth -/

/-- The depth suffices for all paths that go on from `path` inside `known`. -/
def HasRoom (known : Finset Url) (path : List Url) (depth : Nat) : Prop :=
  (known \ path.toFinset).card ≤ depth

/-- Where a path can be made longer, there is depth for one more location. -/
theorem HasRoom.next {known : Finset Url} {path : List Url} {depth : Nat} {u : Url}
    (h : HasRoom known path depth) (hknown : u ∈ known) (hfresh : u ∉ path) :
    ∃ rest, depth = rest + 1 ∧ HasRoom known (path ++ [u]) rest := by
  have hmem : u ∈ known \ path.toFinset := by simp [hknown, hfresh]
  have hsub : known \ (path ++ [u]).toFinset ⊂ known \ path.toFinset := by
    refine Finset.ssubset_iff_subset_ne.mpr ⟨?_, fun heq => ?_⟩
    · intro x hx
      simp only [Finset.mem_sdiff, List.mem_toFinset, List.mem_append, not_or] at hx ⊢
      exact ⟨hx.1, hx.2.1⟩
    · rw [← heq] at hmem
      simp at hmem
  have hlt := Finset.card_lt_card hsub
  unfold HasRoom at h
  refine ⟨depth - 1, by omega, ?_⟩
  unfold HasRoom
  omega

/-- The locations that are known lead to known ones only. -/
def Known (targets : Url → List Url) (known : Finset Url) : Prop :=
  ∀ u ∈ known, ∀ t ∈ targets u, t ∈ known

/-- Searches that agree on the members of a list find the same in it. -/
theorem findSome?_congr_of_mem {α β : Type} {f g : α → Option β} {l : List α}
    (h : ∀ x ∈ l, f x = g x) : l.findSome? f = l.findSome? g := by
  induction l with
  | nil => rfl
  | cons x rest ih =>
    rw [List.findSome?_cons, List.findSome?_cons, h x List.mem_cons_self,
      ih fun y hy => h y (List.mem_cons_of_mem _ hy)]

/-- With enough depth the search depends on the references of known locations
only. -/
theorem firstLoop_congr {targets targets' : Url → List Url} {known : Finset Url}
    (hclosed : Known targets known) (hsame : ∀ u ∈ known, targets' u = targets u)
    {depth depth' : Nat} {path : List Url} (hroom : HasRoom known path depth)
    (hroom' : HasRoom known path depth') {u : Url} (hu : u ∈ known) :
    firstLoop targets' depth' path u = firstLoop targets depth path u := by
  -- Both depths fall with each reference, and both suffice for the longer path.
  induction depth generalizing depth' path u with
  | zero =>
    by_cases hmem : u ∈ path
    · rw [firstLoop_of_mem _ _ hmem, firstLoop_of_mem _ _ hmem]
    · -- The path holds all known locations, and `u` is one of them.
      obtain ⟨_, hdepth, _⟩ := hroom.next hu hmem
      omega
  | succ depth ih =>
    by_cases hmem : u ∈ path
    · rw [firstLoop_of_mem _ _ hmem, firstLoop_of_mem _ _ hmem]
    · obtain ⟨rest, hdepth, hnext⟩ := hroom.next hu hmem
      obtain ⟨rest', rfl, hnext'⟩ := hroom'.next hu hmem
      obtain rfl : rest = depth := by omega
      rw [firstLoop_succ _ _ hmem, firstLoop_succ _ _ hmem, hsame u hu]
      exact findSome?_congr_of_mem fun t ht => ih hnext hnext' (hclosed u hu t ht)

/-- Where the search finds a loop, there is one that can be reached. -/
theorem exists_loop_of_firstLoop {targets : Url → List Url} {depth : Nat} {path : List Url}
    {u : Url} {loop : List Url} (h : firstLoop targets depth path u = some loop)
    (hpath : ∀ x ∈ path, TransGen (fun a b => b ∈ targets a) x u) :
    ∃ x, ReflTransGen (fun a b => b ∈ targets a) u x ∧
      TransGen (fun a b => b ∈ targets a) x x := by
  induction depth generalizing path u with
  | zero =>
    by_cases hmem : u ∈ path
    · exact ⟨u, .refl, hpath u hmem⟩
    · simp [firstLoop, hmem] at h
  | succ depth ih =>
    by_cases hmem : u ∈ path
    · exact ⟨u, .refl, hpath u hmem⟩
    · rw [firstLoop_succ _ _ hmem] at h
      obtain ⟨t, ht, hloop⟩ := List.exists_of_findSome?_eq_some h
      have hext : ∀ x ∈ path ++ [u], TransGen (fun a b => b ∈ targets a) x t := by
        intro x hx
        rcases List.mem_append.mp hx with hx | hx
        · exact (hpath x hx).tail ht
        · rw [List.mem_singleton.mp hx]
          exact .single ht
      obtain ⟨x, htx, hxx⟩ := ih hloop hext
      exact ⟨x, htx.head ht, hxx⟩

/-! ### Walks -/

/-- What a walk over some locations tells: the loop that the search finds first, or
that it finds none, with what is settled by then. -/
def Tells (targets : Url → List Url) (depth : Nat) (path finished us : List Url) : Walk → Prop
  | .error loop => us.findSome? (firstLoop targets depth path) = some loop
  | .ok finished' =>
    us.findSome? (firstLoop targets depth path) = none ∧ Settled targets finished' ∧
      finished ⊆ finished' ∧ us ⊆ finished' ∧ ∀ x ∈ path, x ∉ finished'

/-- Walks over single locations tell what a walk over all of them tells. -/
theorem walkAll_tells_of_walk {targets : Url → List Url} (known : Finset Url) {depth : Nat}
    {path : List Url}
    (hwalk : ∀ (finished : List Url) (u : Url), u ∈ known → Settled targets finished →
      (∀ x ∈ path, x ∉ finished) →
      Tells targets depth path finished [u] (walk targets depth path finished u))
    {finished us : List Url} (hus : ∀ u ∈ us, u ∈ known) (hsettled : Settled targets finished)
    (hpath : ∀ x ∈ path, x ∉ finished) :
    Tells targets depth path finished us (walkAll targets depth path finished us) := by
  induction us generalizing finished with
  | nil =>
    rw [walkAll]
    exact ⟨rfl, hsettled, List.Subset.refl _, by simp, hpath⟩
  | cons u rest ih =>
    have hu := hwalk finished u (hus u List.mem_cons_self) hsettled hpath
    rw [walkAll]
    rcases hfirst : walk targets depth path finished u with loop | finished'
    · -- The rest is not searched any more.
      rw [hfirst] at hu
      simp only [Tells, List.findSome?_cons, List.findSome?_nil] at hu
      show (u :: rest).findSome? (firstLoop targets depth path) = some loop
      rw [List.findSome?_cons]
      split at hu <;> simp_all
    · rw [hfirst] at hu
      obtain ⟨hnone, hsettled', hsub, hmem, hpath'⟩ := hu
      have hrest := ih (fun v hv => hus v (List.mem_cons_of_mem _ hv)) hsettled' hpath'
      have hnone' : firstLoop targets depth path u = none := by simpa using hnone
      show Tells targets depth path finished (u :: rest) (walkAll targets depth path finished' rest)
      rcases hwalked : walkAll targets depth path finished' rest with loop | finished''
      · rw [hwalked] at hrest
        show (u :: rest).findSome? (firstLoop targets depth path) = some loop
        rw [List.findSome?_cons, hnone']
        exact hrest
      · rw [hwalked] at hrest
        obtain ⟨hnone'', hsettled'', hsub', hmem', hpath''⟩ := hrest
        refine ⟨?_, hsettled'', fun x hx => hsub' (hsub hx), ?_, hpath''⟩
        · rw [List.findSome?_cons, hnone']
          exact hnone''
        · intro x hx
          rcases List.mem_cons.mp hx with rfl | hx
          · exact hsub' (hmem List.mem_cons_self)
          · exact hmem' hx

/-- A walk tells what the search without memory finds. -/
theorem walk_tells {targets : Url → List Url} {known : Finset Url}
    (hclosed : Known targets known) (depth : Nat) {path finished : List Url} {u : Url}
    (hroom : HasRoom known path depth) (hu : u ∈ known) (hsettled : Settled targets finished)
    (hpath : ∀ x ∈ path, x ∉ finished) :
    Tells targets depth path finished [u] (walk targets depth path finished u) := by
  -- A walk at some depth is made of walks at the depth below, put together by
  -- `walkAll_tells_of_walk`, so that no induction over both functions is needed.
  induction depth generalizing path finished u with
  | zero =>
    rw [walk]
    by_cases hfin : u ∈ finished
    · rw [if_pos hfin]
      refine ⟨?_, hsettled, List.Subset.refl _, by simpa using hfin, hpath⟩
      simpa using hsettled.firstLoop_eq_none 0 hpath hfin
    · by_cases hmem : u ∈ path
      · simp [Tells, hfin, hmem, firstLoop_of_mem _ _ hmem]
      · obtain ⟨_, hdepth, _⟩ := hroom.next hu hmem
        omega
  | succ depth ih =>
    rw [walk]
    by_cases hfin : u ∈ finished
    · rw [if_pos hfin]
      refine ⟨?_, hsettled, List.Subset.refl _, by simpa using hfin, hpath⟩
      simpa using hsettled.firstLoop_eq_none (depth + 1) hpath hfin
    · by_cases hmem : u ∈ path
      · simp [Tells, hfin, hmem, firstLoop_of_mem _ _ hmem]
      · obtain ⟨rest, hdepth, hnext⟩ := hroom.next hu hmem
        obtain rfl : rest = depth := by omega
        have hpath' : ∀ x ∈ path ++ [u], x ∉ finished := by
          intro x hx
          rcases List.mem_append.mp hx with hx | hx
          · exact hpath x hx
          · rw [List.mem_singleton.mp hx]
            exact hfin
        have hall := walkAll_tells_of_walk known
          (fun fin v hv hset hp => ih hnext hv hset hp) (hclosed u hu) hsettled hpath'
        rw [if_neg hfin, if_neg hmem]
        rcases hwalked : walkAll targets rest (path ++ [u]) finished (targets u)
          with loop | finished'
        · rw [hwalked] at hall
          simp only [Tells] at hall
          simpa [Tells, bind, Except.bind, firstLoop_succ _ _ hmem] using hall
        · rw [hwalked] at hall
          obtain ⟨hnone, hsettled', hsub, htargets, hpath''⟩ := hall
          -- All that `u` refers to is settled, and `u` is not, since it was on the path.
          have hnot : u ∉ finished' := hpath'' u (by simp)
          refine ⟨?_, ⟨hnot, fun t ht => htargets ht, hsettled'⟩, fun x hx => .tail _ (hsub hx),
            by simp, ?_⟩
          · simpa [firstLoop_succ _ _ hmem] using hnone
          · intro x hx hxfin
            rcases List.mem_cons.mp hxfin with rfl | hxfin
            · exact hmem hx
            · exact hpath'' x (List.mem_append_left _ hx) hxfin

/-! ### Batches -/

/-- The locations that a search through a batch can come to. -/
def searched (registry : Registry) (batch : List (Url × Node)) : Finset Url :=
  (batch.map (·.1) ++ (batch ++ registry.entries).flatMap (·.2.gates)).toFinset

/-- The references of a location are those of a node of the batch or the registry. -/
theorem exists_entry_of_mem_gates {registry : Registry} {batch : List (Url × Node)} {u t : Url}
    (h : t ∈ gates registry batch u) :
    ∃ entry ∈ batch ++ registry.entries, t ∈ entry.2.gates := by
  unfold gates at h
  split at h
  · rename_i node hnode
    obtain ⟨l₁, l₂, hl, -⟩ := List.lookup_eq_some_iff.mp hnode
    exact ⟨(u, node), by simp [hl], h⟩
  · rcases hnode : registry.get? u with _ | node
    · simp [hnode] at h
    · obtain ⟨l₁, l₂, hl, -⟩ := List.lookup_eq_some_iff.mp hnode
      exact ⟨(u.withoutFragment, node), by simp [hl], by simpa [hnode] using h⟩

/-- A search through a batch stays among the locations that it can come to. -/
theorem known_searched (registry : Registry) (batch : List (Url × Node)) :
    Known (gates registry batch) (searched registry batch) := by
  intro u _ t ht
  obtain ⟨entry, hentry, hgate⟩ := exists_entry_of_mem_gates ht
  simp only [searched, List.toFinset_append, Finset.mem_union, List.mem_toFinset]
  exact .inr (List.mem_flatMap.mpr ⟨entry, hentry, hgate⟩)

/-- The locations of a batch are among those that a search through it can come to. -/
theorem mem_searched {registry : Registry} {batch : List (Url × Node)} {u : Url}
    (h : u ∈ batch.map (·.1)) : u ∈ searched registry batch := by
  simp only [searched, List.toFinset_append, Finset.mem_union, List.mem_toFinset]
  exact .inl h

/-- The bound on the depth suffices for every path. -/
theorem hasRoom_depthBound (registry : Registry) (batch : List (Url × Node)) :
    HasRoom (searched registry batch) [] (depthBound registry batch) := by
  have hcard := List.toFinset_card_le
    (batch.map (·.1) ++ (batch ++ registry.entries).flatMap (·.2.gates))
  simp only [HasRoom, depthBound, searched, List.length_append, List.length_map,
    List.toFinset_nil, Finset.sdiff_empty] at hcard ⊢
  omega

/-- The walk over a batch tells what the search without memory finds in it. -/
theorem walkAll_batch_tells (registry : Registry) (batch : List (Url × Node)) :
    Tells (gates registry batch) (depthBound registry batch) [] [] (batch.map (·.1))
      (walkAll (gates registry batch) (depthBound registry batch) [] [] (batch.map (·.1))) := by
  refine walkAll_tells_of_walk (searched registry batch) ?_
    (fun u hu => mem_searched hu) trivial (by simp)
  intro finished u hu hsettled hpath
  exact walk_tells (known_searched registry batch) _ (hasRoom_depthBound registry batch) hu
    hsettled hpath

/-- The loop that is found in a batch is the first one that the search without memory
meets. -/
theorem findLoop?_eq_findSome? (registry : Registry) (batch : List (Url × Node)) :
    findLoop? registry batch
      = (batch.map (·.1)).findSome?
          (firstLoop (gates registry batch) (depthBound registry batch) []) := by
  have h := walkAll_batch_tells registry batch
  unfold findLoop?
  split
  · rename_i finished hwalk
    rw [hwalk] at h
    exact h.1.symm
  · rename_i loop hwalk
    rw [hwalk] at h
    exact h.symm

/-- Where no loop is found in a batch, none can be reached from it. -/
theorem not_loop_of_findLoop?_eq_none {registry : Registry} {batch : List (Url × Node)}
    (h : findLoop? registry batch = none) {u v : Url} (hu : u ∈ batch.map (·.1))
    (hv : ReflTransGen (fun a b => b ∈ gates registry batch a) u v) :
    ¬ TransGen (fun a b => b ∈ gates registry batch a) v v := by
  have htells := walkAll_batch_tells registry batch
  unfold findLoop? at h
  split at h
  · rename_i finished hwalk
    rw [hwalk] at htells
    -- The walk has settled the batch, and with it all that can be reached from it.
    obtain ⟨-, hsettled, -, hmem, -⟩ := htells
    exact hsettled.not_loop (hsettled.reach_mem (hmem hu) hv)
  · simp at h

end DraftSchema.Compilation
