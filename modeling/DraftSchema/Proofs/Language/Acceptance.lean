import DraftSchema.Proofs.Compilation.Independence
import DraftSchema.Proofs.Language.Elaboration
import DraftSchema.Proofs.Satisfaction.Adequacy
import DraftSchema.Proofs.Session.Runs

/-!
# `DraftSchema.Proofs.Language.Acceptance`: a compilation accepts what is a schema

With an empty registry a compilation succeeds exactly if the source has a schema at the
location. A batch has all documents that the location leads to, because what a node refers to
is what its document refers to; conversely, where all these documents are schemas nothing
stops the compilation, and the loops that it looks for are circles of documents. The theorems:

* `hasSchema_of_compile`: what is accepted is a schema.
* `exists_drain` and `findLoop?_eq_none`: nothing stops the compilation of a schema.
* `exists_compile_iff_hasSchema`: both directions.
* `has_compile_iff_reaches`: what is registered then.
-/

set_option autoImplicit false

namespace DraftSchema.Compilation

open Relation

variable {source : Source} {batch : List (Url × Node)} {u v : Url}

/-! ### Documents and nodes -/

/-- The document at a location can be read if the source has it, and only then. -/
theorem read_eq_ok_iff {raw : Json} : Worklist.read source u = .ok raw ↔ source.Holds u raw := by
  refine ⟨Source.holds_of_read, ?_⟩
  rintro ⟨text, hfetch, hparse⟩
  simp only [Worklist.read, hfetch, hparse]

/-- A document that is a schema has a node. -/
theorem exists_makes_iff :
    (∃ n, Makes source u n) ↔ ∃ raw, source.Holds u raw ∧ WellFormed u raw := by
  simp only [Makes, read_eq_ok_iff, ← Node.exists_elaborate_iff_wellFormed]
  refine ⟨?_, ?_⟩
  · rintro ⟨n, raw, hraw, hn⟩
    exact ⟨raw, hraw, n, hn⟩
  · rintro ⟨raw, hraw, n, hn⟩
    exact ⟨n, raw, hraw, hn⟩

/-- The node of a document refers to what the document refers to. -/
theorem Makes.mem_references_iff {n : Node} (h : Makes source u n) :
    v ∈ n.references ↔ source.Refers u v := by
  obtain ⟨raw, hread, hn⟩ := h
  have hraw := read_eq_ok_iff.mp hread
  rw [Node.mem_references_iff hn]
  refine ⟨fun ⟨part, hpart, href⟩ => ⟨raw, part, hraw, hpart, href⟩, ?_⟩
  rintro ⟨raw', part, hraw', hpart, href⟩
  obtain rfl := hraw.unique hraw'
  exact ⟨part, hpart, href⟩

/-- It leaves the decision to what the document leaves it to. -/
theorem Makes.mem_gates_iff {n : Node} (h : Makes source u n) :
    v ∈ n.gates ↔ source.Leaves u v := by
  obtain ⟨raw, hread, hn⟩ := h
  have hraw := read_eq_ok_iff.mp hread
  rw [Node.mem_gates_iff hn]
  refine ⟨fun ⟨part, hpart, href⟩ => ⟨raw, part, hraw, hpart, href⟩, ?_⟩
  rintro ⟨raw', part, hraw', hpart, href⟩
  obtain rfl := hraw.unique hraw'
  exact ⟨part, hpart, href⟩

/-- The search for loops follows the references of documents. -/
theorem IsBatch.mem_gates_iff (h : IsBatch source ∅ batch) (hu : u ∈ batch.map (·.1)) :
    v ∈ gates ∅ batch u ↔ source.Leaves u v := by
  obtain ⟨n, hn, hmakes, -⟩ := h.exists_lookup hu
  rw [← hmakes.mem_gates_iff]
  simp only [gates, hn]

/-- What a document leaves the decision to is something that it refers to. -/
theorem refers_of_leaves (h : source.Leaves u v) : source.Refers u v := by
  obtain ⟨raw, part, hraw, hpart, href⟩ := h
  exact ⟨raw, part, hraw, hpart.lift id fun _ _ => .alternative, href⟩

theorem reaches_of_leaves (h : TransGen source.Leaves u v) : ReflTransGen source.Refers u v :=
  h.to_reflTransGen.lift id fun _ _ => refers_of_leaves

/-! ### What is accepted -/

/-- A batch has all documents that the documents in it refer to. -/
theorem IsBatch.mem_of_reaches (h : IsBatch source ∅ batch) (hu : u ∈ batch.map (·.1))
    (hreach : ReflTransGen source.Refers u v) : v ∈ batch.map (·.1) := by
  induction hreach with
  | refl => exact hu
  | tail _ hrefers ih =>
    obtain ⟨n, -, hmakes, hreferences⟩ := h.exists_lookup ih
    exact hreferences _ (hmakes.mem_references_iff.mpr hrefers)

/-- The search for loops comes to the documents that are left the decision. -/
theorem IsBatch.transGen_gates_iff (h : IsBatch source ∅ batch) (hu : u ∈ batch.map (·.1)) :
    TransGen (fun a b => b ∈ gates ∅ batch a) u v ↔ TransGen source.Leaves u v := by
  have hmem : ∀ {w : Url}, TransGen source.Leaves u w → w ∈ batch.map (·.1) := fun hpath =>
    h.mem_of_reaches hu (reaches_of_leaves hpath)
  refine ⟨fun hpath => ?_, fun hpath => ?_⟩
  · induction hpath with
    | single hgate => exact .single ((h.mem_gates_iff hu).mp hgate)
    | tail _ hgate ih => exact ih.tail ((h.mem_gates_iff (hmem ih)).mp hgate)
  · induction hpath with
    | single hleaves => exact .single ((h.mem_gates_iff hu).mpr hleaves)
    | tail hpath hleaves ih => exact ih.tail ((h.mem_gates_iff (hmem hpath)).mpr hleaves)

/-- In a batch without a loop there are schemas. -/
theorem IsBatch.hasSchema (h : IsBatch source ∅ batch) (hloop : findLoop? ∅ batch = none)
    (hu : u ∈ batch.map (·.1)) : source.HasSchema u where
  wellFormed v hreach := by
    obtain ⟨n, -, hmakes, -⟩ := h.exists_lookup (h.mem_of_reaches hu hreach)
    exact exists_makes_iff.mp ⟨n, hmakes⟩
  acyclic v hreach hcircle := by
    -- A circle of documents would be one that the search for loops comes to.
    have hv := h.mem_of_reaches hu hreach
    exact not_loop_of_findLoop?_eq_none hloop hv .refl ((h.transGen_gates_iff hv).mpr hcircle)

/-- Where a compilation succeeds, the source has a schema. -/
theorem hasSchema_of_compile {location : Url} {n : Node}
    (h : (compile source ∅ location).result = .ok n) :
    source.HasSchema location.withoutFragment := by
  rcases compile_cases source ∅ location with
    ⟨fetched, e, hc⟩ | ⟨fetched, batch, n', hbatch, hloop, hget, hc⟩
  · rw [hc] at h
    cases h
  · have hmem := hbatch.mem_of_get?_registerAll hget (Registry.has_empty location)
    exact hbatch.hasSchema hloop (List.mem_map_of_mem hmem)

/-! ### What is a schema -/

namespace Worklist

variable {registry : Registry} {P : Url → Prop} {w : Worklist}

/-- Documents that can be read are let wait without an error. -/
theorem exists_scheduleAll (hread : ∀ u, P u → ∃ raw, read source u = .ok raw) {us : List Url}
    (hus : ∀ u ∈ us, P u) (hw : ∀ u ∈ w.scheduled, P u) :
    ∃ w', w.scheduleAll source registry us = (w', none) ∧ ∀ u ∈ w'.scheduled, P u := by
  induction us generalizing w with
  | nil => exact ⟨w, rfl, hw⟩
  | cons u rest ih =>
    have hrest : ∀ v ∈ rest, P v := fun v hv => hus v (List.mem_cons_of_mem _ hv)
    rw [scheduleAll]
    by_cases hknown : registry.has u ∨ u ∈ w.scheduled
    · rw [schedule_of_known hknown]
      exact ih hrest hw
    · obtain ⟨raw, hraw⟩ := hread u (hus u List.mem_cons_self)
      obtain ⟨hhas, hmet⟩ := not_or.mp hknown
      rw [schedule_of_unknown (by simpa using hhas) hmet, hraw]
      refine ih hrest fun v hv => ?_
      rcases List.mem_append.mp hv with hv | hv
      · exact hw v hv
      · rw [List.mem_singleton.mp hv]
        exact hus u List.mem_cons_self

/-- Documents that are schemas and refer to such documents only are compiled without an
error. -/
theorem exists_drain (hsized : source.Sized)
    (hmakes : ∀ u, P u → ∃ n, Makes source u n ∧ ∀ v ∈ n.references, P v)
    {limit : Nat} (hvalid : w.Valid source registry []) (hlimit : HasLimit source w limit)
    (hw : ∀ u ∈ w.scheduled, P u) :
    ∃ w', w.drain source registry limit = (w', none) ∧ ∀ u ∈ w'.scheduled, P u := by
  have hread : ∀ u, P u → ∃ raw, read source u = .ok raw := by
    intro u hu
    obtain ⟨n, ⟨raw, hraw, -⟩, -⟩ := hmakes u hu
    exact ⟨raw, hraw⟩
  -- On the limit; what was met so far, waiting or compiled, has the property.
  induction limit generalizing w with
  | zero =>
    rcases hpending : w.pending with _ | ⟨entry, rest⟩
    · exact ⟨w, drain_of_pending_eq_nil _ hpending, hw⟩
    · -- A document that waits has its place in the limit.
      obtain ⟨left, hleft⟩ := hvalid.exists_limit hsized hlimit entry (by simp [hpending])
      cases hleft
  | succ limit ih =>
    rcases hpending : w.pending with _ | ⟨⟨u, raw⟩, rest⟩
    · exact ⟨w, drain_of_pending_eq_nil _ hpending, hw⟩
    · have hu : P u := hw u (by simp [hvalid.order, hpending])
      obtain ⟨n, ⟨raw', hraw', hn⟩, hreferences⟩ := hmakes u hu
      obtain rfl : raw = raw' := by
        have hraw := hvalid.waiting (u, raw) (by simp [hpending])
        simpa [hraw'] using hraw.symm
      rw [← (Node.faithful_elaborate u raw).complete n hn] at hreferences
      obtain ⟨w₁, hscheduled, hw₁⟩ : ∃ w₁, { w with pending := rest }.scheduleAll source registry
          (Node.elaborate u raw).references = (w₁, none) ∧ ∀ v ∈ w₁.scheduled, P v := by
        apply exists_scheduleAll hread hreferences
        exact hw
      obtain ⟨hvalid₁, -, hcompiled⟩ := hvalid.step hpending hscheduled hn
      rw [drain_of_pending_eq_cons limit hpending, hscheduled]
      simp only [hn]
      refine ih hvalid₁ ?_ hw₁
      unfold HasLimit at hlimit ⊢
      simp only [List.length_append, List.length_singleton, hcompiled]
      omega

end Worklist

/-- A location has a schema that another one with a schema leads to. -/
theorem hasSchema_of_reaches (h : source.HasSchema u) (hreach : ReflTransGen source.Refers u v) :
    source.HasSchema v where
  wellFormed w hw := h.wellFormed w (hreach.trans hw)
  acyclic w hw := h.acyclic w (hreach.trans hw)

/-- Where the source has a schema, all documents that the location leads to are collected, and
no others. -/
theorem exists_collect_of_hasSchema (hsized : source.Sized) (h : source.HasSchema u)
    (hplain : u.withoutFragment = u) : ∃ w, collect source ∅ u = (w, none) ∧
      ∀ v ∈ w.compiled.map (·.1), ReflTransGen source.Refers u v := by
  -- What is reached from the location stays so by one more reference, which carries the run.
  have hmakes : ∀ v, ReflTransGen source.Refers u v →
      ∃ n, Makes source v n ∧ ∀ t ∈ n.references, ReflTransGen source.Refers u t := by
    intro v hv
    obtain ⟨n, hn⟩ := exists_makes_iff.mpr (h.wellFormed v hv)
    exact ⟨n, hn, fun t ht => hv.tail (hn.mem_references_iff.mp ht)⟩
  obtain ⟨n, ⟨raw, hraw, -⟩, -⟩ := hmakes u .refl
  have hschedule : Worklist.start.schedule source ∅ u
      = (⟨[(u, raw)], [u], [u], []⟩, none) := by
    rw [Worklist.schedule_of_unknown (Registry.has_empty u) (by simp [Worklist.start]), hraw]
    rfl
  obtain ⟨hvalid, -⟩ :=
    Worklist.valid_schedule (Worklist.valid_start source ∅) hplain hschedule
  have hlimit : Worklist.HasLimit source ⟨[(u, raw)], [u], [u], []⟩ source.size := by
    simp [Worklist.HasLimit]
  obtain ⟨w, hdrain, hw⟩ :=
    Worklist.exists_drain hsized hmakes hvalid hlimit (by simp [ReflTransGen.refl])
  obtain ⟨hvalid', hnil, -⟩ := Worklist.valid_drain hvalid hdrain
  refine ⟨w, ?_, fun v hv => ?_⟩
  · rw [collect, hschedule]
    exact hdrain
  · rw [← (hvalid'.isBatch hnil).2] at hv
    exact hw v hv

/-- These documents are schemas too. -/
theorem exists_collect (hsized : source.Sized) (h : source.HasSchema u)
    (hplain : u.withoutFragment = u) :
    ∃ w, collect source ∅ u = (w, none) ∧ ∀ v ∈ w.compiled.map (·.1), source.HasSchema v := by
  obtain ⟨w, hcollect, hw⟩ := exists_collect_of_hasSchema hsized h hplain
  exact ⟨w, hcollect, fun v hv => hasSchema_of_reaches h (hw v hv)⟩

/-- In a batch of schemas there is no loop. -/
theorem IsBatch.findLoop?_eq_none (h : IsBatch source ∅ batch)
    (hschema : ∀ u ∈ batch.map (·.1), source.HasSchema u) : findLoop? ∅ batch = none := by
  rw [findLoop?_eq_findSome?, List.findSome?_eq_none_iff]
  intro u hu
  rcases hloop : firstLoop (gates ∅ batch) (depthBound ∅ batch) [] u with _ | loop
  · rfl
  · -- A loop that the search meets would be a circle of documents.
    obtain ⟨x, hux, hxx⟩ := exists_loop_of_firstLoop hloop (by simp)
    have hx : x ∈ batch.map (·.1) := by
      rcases reflTransGen_iff_eq_or_transGen.mp hux with rfl | hpath
      · exact hu
      · exact h.mem_of_reaches hu (reaches_of_leaves ((h.transGen_gates_iff hu).mp hpath))
    exact absurd ((h.transGen_gates_iff hx).mp hxx) ((hschema x hx).acyclic x .refl)

/-- With an empty registry a compilation succeeds exactly if the source has a schema at the
location. -/
theorem exists_compile_iff_hasSchema (hsized : source.Sized) (location : Url) :
    (∃ n, (compile source ∅ location).result = .ok n) ↔
      source.HasSchema location.withoutFragment := by
  refine ⟨fun ⟨n, h⟩ => hasSchema_of_compile h, fun h => ?_⟩
  obtain ⟨w, hcollect, hw⟩ := exists_collect hsized h (Url.withoutFragment_withoutFragment _)
  obtain ⟨hbatch, hmem⟩ := isBatch_collect (Url.withoutFragment_withoutFragment _) hcollect
  have hloop := hbatch.findLoop?_eq_none hw
  obtain ⟨n, hn⟩ := Registry.has_iff.mp (hbatch.has_registerAll hmem)
  rw [Registry.get?_withoutFragment] at hn
  refine ⟨n, ?_⟩
  rw [compile_eq, hcollect]
  simp only [hloop, hn]

/-- A compilation that succeeds registers the locations that its own one leads to. -/
theorem has_compile_iff_reaches (hsized : source.Sized) {location : Url} {n : Node}
    (h : (compile source ∅ location).result = .ok n) :
    (compile source ∅ location).registry.has v ↔
      ReflTransGen source.Refers location.withoutFragment v.withoutFragment := by
  have hschema := hasSchema_of_compile h
  have hplain := Url.withoutFragment_withoutFragment location
  obtain ⟨w, hcollect, hw⟩ := exists_collect_of_hasSchema hsized hschema hplain
  obtain ⟨hbatch, hmem⟩ := isBatch_collect hplain hcollect
  have hmem : location.withoutFragment ∈ w.compiled.map (·.1) := by simpa using hmem
  have hloop : findLoop? ∅ w.compiled = none :=
    hbatch.findLoop?_eq_none fun u hu => hasSchema_of_reaches hschema (hw u hu)
  have hregistry : (compile source ∅ location).registry = Registry.registerAll ∅ w.compiled := by
    rw [compile_eq, hcollect]
    simp only [hloop]
  rw [hregistry]
  constructor
  · intro hhas
    obtain ⟨m, hm⟩ := Registry.has_iff.mp hhas
    have hentry := hbatch.mem_of_get?_registerAll hm (Registry.has_empty v)
    exact hw _ (List.mem_map_of_mem hentry)
  · intro hreach
    rw [← Registry.has_withoutFragment]
    exact hbatch.has_registerAll (.inr (hbatch.mem_of_reaches hmem hreach))

/-- The source of the example has a schema, though it leads back to itself. -/
theorem hasSchema_linkedList :
    LinkedList.source.Sized ∧ LinkedList.source.HasSchema LinkedList.location.withoutFragment := by
  have hsized : LinkedList.source.Sized := Source.sized_ofDocuments _
  refine ⟨hsized, (exists_compile_iff_hasSchema hsized LinkedList.location).mp ?_⟩
  exact ⟨LinkedList.node, by rw [LinkedList.compile_source]⟩

end DraftSchema.Compilation
