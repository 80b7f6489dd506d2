import DraftSchema.Proofs.Compilation.History

/-!
# `DraftSchema.Proofs.Compilation.Independence`: outcomes do not depend on the registry

What is registered from the documents of a source does not change how the compilation of
another document ends: no loop goes through it, so that the same loop is found among the
rest, and in the end each location has the one node that its document has. The theorems:

* `findLoop?_without`: the same loop is found with a registry and without one.
* `compile_independent`: a compilation has the same result, and what it registers is
  added to the registry.
-/

set_option autoImplicit false

namespace DraftSchema.Compilation

open Relation

/-! ### Loops -/

section

variable {source : Source} {registry : Registry} {batch : List (Url × Node)}

/-- A batch that is compiled with an empty registry refers to itself only. -/
theorem IsBatch.mem_keys (h : IsBatch source ∅ batch) {entry : Url × Node} (hentry : entry ∈ batch)
    {t : Url} (ht : t ∈ entry.2.references) : t ∈ batch.map (·.1) := by
  simpa using h.covered entry hentry t ht

/-- The node of a location of a batch. -/
theorem IsBatch.exists_lookup (h : IsBatch source ∅ batch) {u : Url} (hu : u ∈ batch.map (·.1)) :
    ∃ n, batch.lookup u = some n ∧ Makes source u n ∧
      ∀ t ∈ n.references, t ∈ batch.map (·.1) := by
  obtain ⟨⟨key, n⟩, hentry, rfl⟩ := List.mem_map.mp hu
  have hsome : (batch.lookup key).isSome := by
    rw [List.lookup_isSome_iff]
    exact ⟨(key, n), hentry, by simp⟩
  obtain ⟨n', hn'⟩ := Option.isSome_iff_exists.mp hsome
  obtain ⟨l₁, l₂, hl, -⟩ := List.lookup_eq_some_iff.mp hn'
  have hmem : (key, n') ∈ batch := by simp [hl]
  exact ⟨n', hn', h.made _ hmem, fun t ht => h.mem_keys hmem ht⟩

/-- Looking up among the entries that are not registered. -/
theorem lookup_without {u : Url} (hu : registry.has u = false) :
    (batch.filter fun entry => !registry.has entry.1).lookup u = batch.lookup u := by
  induction batch with
  | nil => rfl
  | cons entry rest ih =>
    obtain ⟨key, n⟩ := entry
    by_cases hkey : u = key
    · subst hkey
      simp [hu]
    · rw [Registry.lookup_cons_eq_ite, if_neg hkey, ← ih, List.filter_cons]
      split
      · rw [Registry.lookup_cons_eq_ite, if_neg hkey]
      · rfl

/-- No registered entry is left. -/
theorem lookup_without_of_has {u : Url} (hu : registry.has u) :
    (batch.filter fun entry => !registry.has entry.1).lookup u = none := by
  rw [List.lookup_eq_none_iff]
  intro entry hentry
  have hfresh := (List.mem_filter.mp hentry).2
  rw [bne_iff_ne]
  rintro rfl
  simp [hu] at hfresh

/-- References lead to the same locations, whether they are looked up in the batch or
in the registry. -/
theorem gates_without (h : History source registry) (hbatch : IsBatch source ∅ batch) {u : Url}
    (hu : u ∈ batch.map (·.1)) :
    gates registry (batch.filter fun entry => !registry.has entry.1) u = gates ∅ batch u := by
  obtain ⟨n, hn, hmakes, -⟩ := hbatch.exists_lookup hu
  rcases hhas : registry.has u
  · simp only [gates, lookup_without hhas, hn]
  · obtain ⟨n', hn', hmakes'⟩ := h.makes (hbatch.plain u hu) hhas
    obtain rfl := hmakes.unique hmakes'
    simp only [gates, lookup_without_of_has hhas, hn, hn', Option.map_some, Option.getD_some]

/-- No loop can be reached from a registered location. -/
theorem firstLoop_of_has (h : History source registry) (hbatch : IsBatch source ∅ batch) {u : Url}
    (hu : u ∈ batch.map (·.1)) (hhas : registry.has u) (depth : Nat) :
    firstLoop (gates ∅ batch) depth [] u = none := by
  have hstep : ∀ {a b : Url}, a ∈ batch.map (·.1) → registry.has a → b ∈ gates ∅ batch a →
      registry.Gate a b ∧ b ∈ batch.map (·.1) ∧ registry.has b := by
    intro a b ha hreg hgate
    obtain ⟨n, hn, hmakes, hreferences⟩ := hbatch.exists_lookup ha
    obtain ⟨n', hn', hmakes'⟩ := h.makes (hbatch.plain a ha) hreg
    obtain rfl := hmakes.unique hmakes'
    have hmem : b ∈ n.gates := by simpa only [gates, hn] using hgate
    have href := Node.mem_references_of_mem_gates hmem
    exact ⟨⟨n, hn', b, hmem, hmakes.plain href⟩, hreferences b href,
      h.sound.closed a n hn' b href⟩
  have hreach : ∀ {a b : Url}, a ∈ batch.map (·.1) → registry.has a →
      ReflTransGen (fun a b => b ∈ gates ∅ batch a) a b →
        b ∈ batch.map (·.1) ∧ registry.has b := by
    intro a b ha hreg hpath
    induction hpath with
    | refl => exact ⟨ha, hreg⟩
    | tail _ hgate ih => exact (hstep ih.1 ih.2 hgate).2
  rcases hloop : firstLoop (gates ∅ batch) depth [] u with _ | loop
  · rfl
  · -- A loop would lie among registered locations, whose nodes are those of the batch.
    obtain ⟨x, hux, hxx⟩ := exists_loop_of_firstLoop hloop (by simp)
    obtain ⟨hx, hxhas⟩ := hreach hu hhas hux
    refine absurd ?_ (h.sound.acyclic x)
    have hcircle : ∀ {b : Url}, TransGen (fun a b => b ∈ gates ∅ batch a) x b →
        TransGen registry.Gate x b := by
      intro b hpath
      induction hpath with
      | single hgate => exact .single (hstep hx hxhas hgate).1
      | tail hpath hgate ih =>
        obtain ⟨hb, hbhas⟩ := hreach hx hxhas hpath.to_reflTransGen
        exact ih.tail (hstep hb hbhas hgate).1
    exact hcircle hxx

/-- A search that finds nothing among the entries that are left out finds the same
without them. -/
theorem findSome?_without {f g : Url → Option (List Url)}
    (hsame : ∀ u ∈ batch.map (·.1), registry.has u = false → f u = g u)
    (hnone : ∀ u ∈ batch.map (·.1), registry.has u → g u = none) :
    ((batch.filter fun entry => !registry.has entry.1).map (·.1)).findSome? f
      = (batch.map (·.1)).findSome? g := by
  induction batch with
  | nil => rfl
  | cons entry rest ih =>
    have hrest := ih (fun u hu => hsame u (List.mem_cons_of_mem _ hu))
      fun u hu => hnone u (List.mem_cons_of_mem _ hu)
    rw [List.map_cons, List.findSome?_cons, List.filter_cons]
    rcases hhas : registry.has entry.1
    · simp only [Bool.not_false, if_true, List.map_cons, List.findSome?_cons, hrest,
        hsame entry.1 List.mem_cons_self hhas]
    · simp only [Bool.not_true, Bool.false_eq_true, if_false, hrest,
        hnone entry.1 List.mem_cons_self hhas]

/-- The same loop is found in a batch with a registry and without one. -/
theorem findLoop?_without (h : History source registry) (hbatch : IsBatch source ∅ batch) :
    findLoop? registry (batch.filter fun entry => !registry.has entry.1) = findLoop? ∅ batch := by
  rw [findLoop?_eq_findSome?, findLoop?_eq_findSome?]
  refine findSome?_without (fun u hu hhas => ?_)
    fun u hu hhas => firstLoop_of_has h hbatch hu hhas _
  -- Both searches stay among the locations of the batch that the first one can come to.
  let left := batch.filter fun entry => !registry.has entry.1
  let known := (batch.map (·.1)).toFinset ∩ searched registry left
  have hmem : ∀ {a : Url}, a ∈ known → a ∈ batch.map (·.1) := fun ha =>
    List.mem_toFinset.mp (Finset.mem_inter.mp ha).1
  have hsame : ∀ a ∈ known, gates registry left a = gates ∅ batch a := fun a ha =>
    gates_without h hbatch (hmem ha)
  have hclosed : Known (gates ∅ batch) known := by
    intro a ha t ht
    obtain ⟨n, hn, -, hreferences⟩ := hbatch.exists_lookup (hmem ha)
    have href : t ∈ n.references :=
      Node.mem_references_of_mem_gates (by simpa only [gates, hn] using ht)
    refine Finset.mem_inter.mpr ⟨List.mem_toFinset.mpr (hreferences t href), ?_⟩
    exact known_searched registry left a (Finset.mem_inter.mp ha).2 t ((hsame a ha) ▸ ht)
  have hroom : HasRoom known [] (depthBound ∅ batch) := by
    have hcard : known.card ≤ (batch.map (·.1)).length :=
      (Finset.card_le_card Finset.inter_subset_left).trans (List.toFinset_card_le _)
    rw [List.length_map] at hcard
    simp only [HasRoom, depthBound, List.toFinset_nil, Finset.sdiff_empty]
    omega
  have hroom' : HasRoom known [] (depthBound registry left) := by
    have hcard := hasRoom_depthBound registry left
    simp only [HasRoom, List.toFinset_nil, Finset.sdiff_empty] at hcard ⊢
    exact (Finset.card_le_card Finset.inter_subset_right).trans hcard
  refine firstLoop_congr hclosed hsame hroom hroom'
    (Finset.mem_inter.mpr ⟨List.mem_toFinset.mpr hu, mem_searched ?_⟩)
  obtain ⟨entry, hentry, rfl⟩ := List.mem_map.mp hu
  exact List.mem_map_of_mem (List.mem_filter.mpr ⟨hentry, by simp [hhas]⟩)

end

/-! ### Compiling -/

/-- With a history a compilation has the result that it has without one, and a location
has then the node of the history or the one that the compilation registers without a
history. -/
theorem compile_independent {source : Source} {registry : Registry} (h : History source registry)
    (hsized : source.Sized) (location : Url) :
    (compile source registry location).result = (compile source ∅ location).result ∧
      ∀ v, (compile source registry location).registry.get? v
        = (registry.get? v).or ((compile source ∅ location).registry.get? v) := by
  have hplain := Url.withoutFragment_withoutFragment location
  have hcollect := collect_without h hsized hplain
  rw [compile_eq, compile_eq]
  rcases hempty : collect source ∅ location.withoutFragment with ⟨w, _ | e⟩
  · rw [hempty] at hcollect
    obtain ⟨hbatch, hmem⟩ := isBatch_collect hplain hempty
    obtain ⟨hbatch', -⟩ := isBatch_collect hplain hcollect
    have hmem : location.withoutFragment ∈ w.compiled.map (·.1) := by simpa using hmem
    have hcompiled : (w.without registry).compiled
        = w.compiled.filter fun entry => !registry.has entry.1 := rfl
    have hloop : findLoop? registry (w.without registry).compiled = findLoop? ∅ w.compiled :=
      findLoop?_without h hbatch
    simp only [hcollect, Prod.map_apply, id_eq, hloop]
    rcases hfound : findLoop? ∅ w.compiled with _ | loop
    · have hget : ∀ v, (registry.registerAll (w.without registry).compiled).get? v
          = (registry.get? v).or ((Registry.registerAll ∅ w.compiled).get? v) := by
        intro v
        rw [hbatch'.get?_registerAll, hbatch.get?_registerAll, Registry.get?_empty,
          Option.none_or]
        rcases hv : registry.has v
        · rw [hcompiled, lookup_without (by simpa using hv)]
        · obtain ⟨n, hn⟩ := Registry.has_iff.mp hv
          rw [hn, Option.some_or, Option.some_or]
      refine ⟨?_, hget⟩
      obtain ⟨n, hn, hmakes, -⟩ := hbatch.exists_lookup hmem
      have hnode : (Registry.registerAll ∅ w.compiled).get? location = some n := by
        rw [hbatch.get?_registerAll, Registry.get?_empty, Option.none_or, hn]
      -- If the location was registered, then with the node of the same document.
      have hnode' : (registry.registerAll (w.without registry).compiled).get? location
          = some n := by
        rw [hget, hnode]
        rcases hregistered : registry.get? location with _ | n'
        · rfl
        · rw [Option.some_or, (h.madeFrom location n' hregistered).unique hmakes]
      simp only [hnode, hnode']
    · exact ⟨rfl, fun v => by rw [Registry.get?_empty, Option.or_none]⟩
  · rw [hempty] at hcollect
    simp only [hcollect, Prod.map_apply, id_eq]
    exact ⟨trivial, fun v => by rw [Registry.get?_empty, Option.or_none]⟩

end DraftSchema.Compilation
