import DraftSchema.Proofs.Compilation.Search
import DraftSchema.Proofs.Compilation.Worklist

/-!
# `DraftSchema.Proofs.Compilation.Batch`: what a compilation registers

A compilation either fails and leaves the registry as it was, or it registers a
batch (`IsBatch`): new locations with the nodes of their documents, which refer to
the registry and to each other only. The theorems:

* `compile_cases`: these two are all that can happen.
* `sound_registerAll` and `sound_compile`: a batch without a loop keeps a registry
  sound, because what is registered already leads to nothing new.
* `forall_compile`: what holds of the nodes of documents stays true of all nodes, such as
  that they are those of the documents of the source (`madeFrom_compile`).
-/

set_option autoImplicit false

namespace DraftSchema

open Relation

/-- One registry holds all that another one does. -/
def Registry.Extends (r' r : Registry) : Prop := ∀ u n, r.get? u = some n → r'.get? u = some n

theorem Registry.Extends.has {r r' : Registry} (h : r'.Extends r) {u : Url} (hu : r.has u) :
    r'.has u := by
  obtain ⟨n, hn⟩ := Registry.has_iff.mp hu
  exact Registry.has_iff.mpr ⟨n, h u n hn⟩

/-- Where a node leaves it to a location that only the second registry has which types it
accepts, it names the location without a fragment. -/
def Registry.LeadsPlainly (r r' : Registry) : Prop :=
  ∀ u n, r.get? u = some n → ∀ t ∈ n.gates, t.withoutFragment ≠ t → r'.has t → r.has t

/-- The nodes of a registry are those of the documents of a source. -/
def Registry.MadeFrom (source : Source) (r : Registry) : Prop :=
  ∀ u n, r.get? u = some n → Compilation.Makes source u.withoutFragment n

namespace Compilation

/-- Nodes that one compilation makes. -/
structure IsBatch (source : Source) (registry : Registry) (batch : List (Url × Node)) : Prop where
  nodup : (batch.map (·.1)).Nodup
  fresh : ∀ u ∈ batch.map (·.1), registry.has u = false
  plain : ∀ u ∈ batch.map (·.1), u.withoutFragment = u
  made : ∀ entry ∈ batch, Makes source entry.1 entry.2
  covered : ∀ entry ∈ batch, ∀ v ∈ entry.2.references, registry.has v ∨ v ∈ batch.map (·.1)

/-- The nodes that are made when no document waits any more are a batch. -/
theorem Worklist.Valid.isBatch {source : Source} {registry : Registry} {w : Worklist}
    (hw : w.Valid source registry []) (h : w.pending = []) :
    IsBatch source registry w.compiled ∧ w.scheduled = w.compiled.map (·.1) := by
  have horder : w.scheduled = w.compiled.map (·.1) := by simp [hw.order, h]
  refine ⟨?_, horder⟩
  constructor
  · exact horder ▸ hw.nodup
  · exact horder ▸ hw.fresh
  · exact horder ▸ hw.plain
  · exact hw.made
  · exact horder ▸ hw.covered

/-! ### Collecting -/

/-- Compiles all documents that a location leads to. -/
def collect (source : Source) (registry : Registry) (u : Url) : Worklist × Option SchemaError :=
  match Worklist.start.schedule source registry u with
  | (w, some e) => (w, some e)
  | (w, none) => w.drain source registry source.size

/-- What is collected is registered unless there is a loop in it. -/
theorem compile_eq (source : Source) (registry : Registry) (location : Url) :
    compile source registry location =
      match collect source registry location.withoutFragment with
      | (w, some e) => ⟨w.fetched, registry, .error e⟩
      | (w, none) =>
        match findLoop? registry w.compiled with
        | some loop => ⟨w.fetched, registry, .error (loopError loop)⟩
        | none =>
          ⟨w.fetched, registry.registerAll w.compiled,
            match (registry.registerAll w.compiled).get? location with
            | some node => .ok node
            | none => .error (.notFound location.withoutFragment.text)⟩ := by
  unfold compile collect
  simp only [Registry.get?_withoutFragment]
  rcases Worklist.start.schedule source registry location.withoutFragment with ⟨w, _ | e⟩
  · rfl
  · rfl

/-- When all is collected without an error, the books are kept and no document waits, and the
location is registered or was met. -/
theorem valid_collect {source : Source} {registry : Registry} {u : Url} {w : Worklist}
    (hu : u.withoutFragment = u) (h : collect source registry u = (w, none)) :
    w.Valid source registry [] ∧ w.pending = [] ∧ (registry.has u ∨ u ∈ w.scheduled) := by
  unfold collect at h
  rcases hstart : Worklist.start.schedule source registry u with ⟨w₁, _ | e⟩
  · rw [hstart] at h
    obtain ⟨hw₁, -, -, hmem⟩ :=
      Worklist.valid_schedule (Worklist.valid_start source registry) hu hstart
    obtain ⟨hw, hnil, hsub⟩ := Worklist.valid_drain hw₁ h
    exact ⟨hw, hnil, hmem.imp_right fun hmet => hsub hmet⟩
  · rw [hstart] at h
    simp at h

/-- What is collected without an error is a batch, and the location is registered or in
it. -/
theorem isBatch_collect {source : Source} {registry : Registry} {u : Url} {w : Worklist}
    (hu : u.withoutFragment = u) (h : collect source registry u = (w, none)) :
    IsBatch source registry w.compiled ∧ (registry.has u ∨ u ∈ w.compiled.map (·.1)) := by
  obtain ⟨hw, hnil, hmem⟩ := valid_collect hu h
  obtain ⟨hbatch, hscheduled⟩ := hw.isBatch hnil
  exact ⟨hbatch, hmem.imp_right fun hmet => hscheduled ▸ hmet⟩

/-! ### Registering -/

namespace IsBatch

variable {source : Source} {registry : Registry} {batch : List (Url × Node)}

/-- With a batch, a location has the node that it had or else that of the batch. -/
theorem get?_registerAll (h : IsBatch source registry batch) (u : Url) :
    (registry.registerAll batch).get? u
      = (registry.get? u).or (batch.lookup u.withoutFragment) := by
  have hmap : batch.map (fun entry => (entry.1.withoutFragment, entry.2)) = batch := by
    rw [List.map_congr_left (g := id), List.map_id]
    intro entry hentry
    rw [h.plain entry.1 (List.mem_map_of_mem hentry)]
    rfl
  rw [Registry.get?_registerAll, hmap]

/-- Registering a batch takes nothing away. -/
theorem extends_registerAll (h : IsBatch source registry batch) :
    (registry.registerAll batch).Extends registry := by
  intro u n hn
  rw [h.get?_registerAll, hn, Option.some_or]

/-- Registered are then the locations of the registry and of the batch. -/
theorem has_registerAll (h : IsBatch source registry batch) {u : Url}
    (hu : registry.has u ∨ u ∈ batch.map (·.1)) : (registry.registerAll batch).has u := by
  rcases hu with hu | hu
  · exact h.extends_registerAll.has hu
  · obtain ⟨⟨key, n⟩, hentry, rfl⟩ := List.mem_map.mp hu
    have hfound : (batch.lookup key).isSome := by
      rw [List.lookup_isSome_iff]
      exact ⟨(key, n), hentry, by simp⟩
    simp only [Registry.has, h.get?_registerAll, h.plain key hu]
    simp [hfound]

/-- A node that was not registered before is one of the batch. -/
theorem mem_of_get?_registerAll (h : IsBatch source registry batch) {u : Url} {n : Node}
    (hn : (registry.registerAll batch).get? u = some n) (hu : registry.has u = false) :
    (u.withoutFragment, n) ∈ batch := by
  rw [h.get?_registerAll, Registry.has_eq_false_iff.mp hu, Option.none_or] at hn
  obtain ⟨l₁, l₂, hl, -⟩ := List.lookup_eq_some_iff.mp hn
  simp [hl]

/-- A registered location has with a batch the node that it had. -/
theorem get?_registerAll_of_has (h : IsBatch source registry batch) {u : Url}
    (hu : registry.has u) : (registry.registerAll batch).get? u = registry.get? u := by
  obtain ⟨n, hn⟩ := Registry.has_iff.mp hu
  rw [hn]
  exact h.extends_registerAll u n hn

/-- References of a batch lead to the registry or the batch. -/
theorem closed_registerAll (h : IsBatch source registry batch) (hclosed : registry.Closed) :
    (registry.registerAll batch).Closed := by
  intro u n hn v hv
  rcases hu : registry.has u
  · exact h.has_registerAll (h.covered _ (h.mem_of_get?_registerAll hn hu) v hv)
  · rw [h.get?_registerAll_of_has hu] at hn
    exact h.extends_registerAll.has (hclosed u n hn v hv)

/-- What holds of the nodes that are registered and of those that documents make holds of all
nodes afterwards. -/
theorem forall_registerAll (h : IsBatch source registry batch) {P : Url → Node → Prop}
    (hold : ∀ u n, registry.get? u = some n → P u.withoutFragment n)
    (hmade : ∀ u n, Makes source u n → P u n) :
    ∀ u n, (registry.registerAll batch).get? u = some n → P u.withoutFragment n := by
  intro u n hn
  rcases hu : registry.has u
  · exact hmade _ n (h.made _ (h.mem_of_get?_registerAll hn hu))
  · rw [h.get?_registerAll_of_has hu] at hn
    exact hold u n hn

/-! ### Circles

The search for loops takes locations as they are written, with their fragments, which do
not count any more when a reference is followed. -/

/-- The search may come to a location in this way of writing it: without a fragment, or with
any fragment where the location is registered already. -/
def Writes (registry : Registry) (written u : Url) : Prop :=
  written.withoutFragment = u ∧ (written = u ∨ registry.has u)

/-- The search goes on from a registered location by the node that it has. -/
theorem gates_of_has (h : IsBatch source registry batch) {u : Url} (hu : registry.has u) :
    gates registry batch u = ((registry.get? u).map Node.gates).getD [] := by
  have hnone : batch.lookup u = none := by
    rw [List.lookup_eq_none_iff]
    intro entry hentry
    have hfresh := h.fresh entry.1 (List.mem_map_of_mem hentry)
    rw [bne_iff_ne]
    rintro rfl
    rw [hu] at hfresh
    cases hfresh
  rw [gates, hnone]

/-- The search goes on in the same way however a location is written. -/
theorem gates_eq_of_writes (h : IsBatch source registry batch) {a b u : Url}
    (ha : Writes registry a u) (hb : Writes registry b u) :
    gates registry batch a = gates registry batch b := by
  obtain ⟨hau, ha⟩ := ha
  obtain ⟨hbu, hb⟩ := hb
  by_cases hu : registry.has u
  · have hget : registry.get? a = registry.get? b := by
      rw [← Registry.get?_withoutFragment, hau, ← hbu, Registry.get?_withoutFragment]
    have hhasa : registry.has a := by rwa [← Registry.has_withoutFragment, hau]
    have hhasb : registry.has b := by rwa [← Registry.has_withoutFragment, hbu]
    rw [h.gates_of_has hhasa, h.gates_of_has hhasb, hget]
  · rw [ha.resolve_right hu, hb.resolve_right hu]

/-- The search for loops follows the references between new locations. -/
theorem mem_gates_of_gate (h : IsBatch source registry batch) {u v : Url}
    (hplain : u.withoutFragment = u) (hu : registry.has u = false)
    (hgate : (registry.registerAll batch).Gate u v) :
    v ∈ gates registry batch u ∧ u ∈ batch.map (·.1) ∧ v.withoutFragment = v := by
  obtain ⟨n, hn, t, ht, rfl⟩ := hgate
  have hentry := h.mem_of_get?_registerAll hn hu
  rw [hplain] at hentry
  have hlookup : batch.lookup u = some n := by
    rwa [h.get?_registerAll, Registry.has_eq_false_iff.mp hu, Option.none_or, hplain] at hn
  have htarget : t.withoutFragment = t :=
    (h.made _ hentry).plain (Node.mem_references_of_mem_gates ht)
  exact ⟨by simpa [gates, hlookup, htarget] using ht, List.mem_map_of_mem hentry, by simp⟩

/-- A reference that can be followed after a batch is registered is followed by the search. -/
theorem exists_mem_gates (h : IsBatch source registry batch)
    (hplain : registry.LeadsPlainly (registry.registerAll batch)) {a u v : Url}
    (ha : Writes registry a u) (hgate : (registry.registerAll batch).Gate u v)
    (hv : (registry.registerAll batch).has v) :
    ∃ b ∈ gates registry batch a, Writes registry b v := by
  obtain ⟨hau, ha⟩ := ha
  by_cases hu : registry.has u
  · obtain ⟨n, hn, t, ht, rfl⟩ := hgate
    rw [h.get?_registerAll_of_has hu] at hn
    have hmem : t ∈ gates registry batch a := by
      have hhasa : registry.has a := by rwa [← Registry.has_withoutFragment, hau]
      rw [h.gates_of_has hhasa, ← Registry.get?_withoutFragment, hau, hn]
      exact ht
    refine ⟨t, hmem, rfl, ?_⟩
    by_cases hfragment : t.withoutFragment = t
    · exact .inl hfragment.symm
    · rw [Registry.has_withoutFragment] at hv ⊢
      exact .inr (hplain u n hn t ht hfragment hv)
  · -- A new location is written as it is, and so are the references of its node.
    obtain rfl := ha.resolve_right hu
    obtain ⟨hmem, -, hplain⟩ := h.mem_gates_of_gate hau (by simpa using hu) hgate
    exact ⟨v, hmem, hplain, .inl rfl⟩

theorem exists_transGen (h : IsBatch source registry batch)
    (hplain : registry.LeadsPlainly (registry.registerAll batch)) {a u v : Url}
    (ha : Writes registry a u) (hpath : TransGen (registry.registerAll batch).Gate u v)
    (hv : (registry.registerAll batch).has v) :
    ∃ b, TransGen (fun a b => b ∈ gates registry batch a) a b ∧ Writes registry b v := by
  induction hpath with
  | single hgate =>
    obtain ⟨b, hb, hwrites⟩ := h.exists_mem_gates hplain ha hgate hv
    exact ⟨b, .single hb, hwrites⟩
  | tail _ hgate ih =>
    obtain ⟨n, hn, -⟩ := id hgate
    obtain ⟨b, hb, hwrites⟩ := ih (Registry.has_iff.mpr ⟨n, hn⟩)
    obtain ⟨c, hc, hwrites⟩ := h.exists_mem_gates hplain hwrites hgate hv
    exact ⟨c, hb.tail hc, hwrites⟩

/-- If the search finds no loop, no circle can be reached from a new location. -/
theorem circleFree_registerAll (h : IsBatch source registry batch)
    (hplain : registry.LeadsPlainly (registry.registerAll batch))
    (hloop : findLoop? registry batch = none) {u : Url} (hu : u ∈ batch.map (·.1)) :
    (registry.registerAll batch).CircleFree u := by
  intro v hreach hcircle
  have hv : (registry.registerAll batch).has v := by
    obtain ⟨w, ⟨n, hn, -⟩, -⟩ := TransGen.head'_iff.mp hcircle
    exact Registry.has_iff.mpr ⟨n, hn⟩
  have hstart : Writes registry u u := ⟨h.plain u hu, .inl rfl⟩
  obtain ⟨a, hsearch, ha⟩ : ∃ a, ReflTransGen (fun a b => b ∈ gates registry batch a) u a ∧
      Writes registry a v := by
    rcases reflTransGen_iff_eq_or_transGen.mp hreach with rfl | hpath
    · exact ⟨v, .refl, hstart⟩
    · obtain ⟨a, hsearch, ha⟩ := h.exists_transGen hplain hstart hpath hv
      exact ⟨a, hsearch.to_reflTransGen, ha⟩
  -- The search comes to `v` again, written in another way perhaps, and goes on as before.
  obtain ⟨b, hagain, hb⟩ := h.exists_transGen hplain ha hcircle hv
  obtain ⟨c, hnext, hback⟩ := TransGen.head'_iff.mp hagain
  rw [h.gates_eq_of_writes ha hb] at hnext
  have hclosed : TransGen (fun a b => b ∈ gates registry batch a) b b :=
    TransGen.head'_iff.mpr ⟨c, hnext, hback⟩
  exact not_loop_of_findLoop?_eq_none hloop hu (hsearch.trans hagain.to_reflTransGen) hclosed

/-- References of registered nodes lead from one to the next until they come to a new
location. -/
theorem transGen_cases (h : IsBatch source registry batch) {u v : Url} (hu : registry.has u)
    (hpath : TransGen (registry.registerAll batch).Gate u v) :
    TransGen registry.Gate u v ∨
      ∃ w ∈ batch.map (·.1), TransGen (registry.registerAll batch).Gate u w ∧
        ReflTransGen (registry.registerAll batch).Gate w v := by
  have hgate_iff : ∀ {a b : Url}, registry.has a →
      (registry.registerAll batch).Gate a b → registry.Gate a b := by
    rintro a b ha ⟨n, hn, t, ht, rfl⟩
    rw [h.get?_registerAll_of_has ha] at hn
    exact ⟨n, hn, t, ht, rfl⟩
  induction hpath with
  | single hgate => exact .inl (.single (hgate_iff hu hgate))
  | @tail b c hpath hgate ih =>
    rcases ih with hold | ⟨w, hw, huw, hwb⟩
    · by_cases hb : registry.has b
      · exact .inl (hold.tail (hgate_iff hb hgate))
      · have hplain : b.withoutFragment = b := by
          obtain ⟨a, -, n, -, t, -, rfl⟩ := TransGen.tail'_iff.mp hpath
          exact Url.withoutFragment_withoutFragment t
        obtain ⟨-, hnew, -⟩ := h.mem_gates_of_gate hplain (by simpa using hb) hgate
        exact .inr ⟨b, hnew, hpath, .single hgate⟩
    · exact .inr ⟨w, hw, huw, hwb.tail hgate⟩

/-- A batch in which no loop is found keeps a registry free of circles. -/
theorem acyclic_registerAll (h : IsBatch source registry batch)
    (hplain : registry.LeadsPlainly (registry.registerAll batch)) (hacyclic : registry.Acyclic)
    (hloop : findLoop? registry batch = none) : (registry.registerAll batch).Acyclic := by
  intro u hcircle
  -- A circle lies in the registry as a whole, or there is a new location on it.
  obtain ⟨w, hw, huw, hwu⟩ : ∃ w ∈ batch.map (·.1),
      ReflTransGen (registry.registerAll batch).Gate u w ∧
        ReflTransGen (registry.registerAll batch).Gate w u := by
    by_cases hu : registry.has u
    · rcases h.transGen_cases hu hcircle with hold | ⟨w, hw, huw, hwu⟩
      · exact absurd hold (hacyclic u)
      · exact ⟨w, hw, huw.to_reflTransGen, hwu⟩
    · have hplain : u.withoutFragment = u := by
        obtain ⟨a, -, n, -, t, -, rfl⟩ := TransGen.tail'_iff.mp hcircle
        exact Url.withoutFragment_withoutFragment t
      obtain ⟨v, hgate, -⟩ := TransGen.head'_iff.mp hcircle
      obtain ⟨-, hnew, -⟩ := h.mem_gates_of_gate hplain (by simpa using hu) hgate
      exact ⟨u, hnew, .refl, .refl⟩
  exact h.circleFree_registerAll hplain hloop hw u hwu hcircle

/-- A batch in which no loop is found keeps a registry sound. -/
theorem sound_registerAll (h : IsBatch source registry batch) (hsound : registry.Sound)
    (hloop : findLoop? registry batch = none) : (registry.registerAll batch).Sound where
  closed := h.closed_registerAll hsound.closed
  acyclic := by
    -- What registered nodes refer to is registered, so that none of them leads to a new one.
    refine h.acyclic_registerAll (fun u n hn t ht _ _ => ?_) hsound.acyclic hloop
    exact hsound.closed u n hn t (Node.mem_references_of_mem_gates ht)

end IsBatch

/-! ### Compiling -/

/-- A compilation fails and registers nothing, or it registers a batch without a loop
and with a node for its location. -/
theorem compile_cases (source : Source) (registry : Registry) (location : Url) :
    (∃ fetched e, compile source registry location = ⟨fetched, registry, .error e⟩) ∨
    ∃ fetched batch n, IsBatch source registry batch ∧ findLoop? registry batch = none ∧
      (registry.registerAll batch).get? location = some n ∧
      compile source registry location = ⟨fetched, registry.registerAll batch, .ok n⟩ := by
  rw [compile_eq]
  rcases hcollect : collect source registry location.withoutFragment with ⟨w, _ | e⟩
  · rcases hloop : findLoop? registry w.compiled with _ | loop
    · obtain ⟨hbatch, hmem⟩ := isBatch_collect (Url.withoutFragment_withoutFragment _) hcollect
      obtain ⟨n, hn⟩ := Registry.has_iff.mp (hbatch.has_registerAll hmem)
      rw [Registry.get?_withoutFragment] at hn
      exact .inr ⟨w.fetched, w.compiled, n, hbatch, hloop, hn, by simp [hloop, hn]⟩
    · exact .inl ⟨w.fetched, loopError loop, by simp [hloop]⟩
  · exact .inl ⟨w.fetched, e, rfl⟩

/-- A registered location is not compiled again. -/
theorem compile_of_get? {source : Source} {registry : Registry} {location : Url} {n : Node}
    (h : registry.get? location = some n) :
    compile source registry location = ⟨[], registry, .ok n⟩ := by
  have hhas : registry.has location.withoutFragment := by
    simpa using Registry.has_iff.mpr ⟨n, h⟩
  -- No document waits, whatever the source has.
  have hcollect : collect source registry location.withoutFragment = (.start, none) := by
    rw [collect, Worklist.schedule_of_known (.inl hhas)]
    exact Worklist.drain_of_pending_eq_nil _ rfl
  have hloop : findLoop? registry [] = none := by
    rw [findLoop?_eq_findSome?]
    rfl
  rw [compile_eq, hcollect]
  simp [Worklist.start, hloop, Registry.registerAll, h]

/-- Asking for a node is compiling its location. -/
theorem get_eq_compile (source : Source) (registry : Registry) (location : Url) :
    get source registry location = compile source registry location := by
  unfold get
  rcases h : registry.get? location with _ | n
  · rfl
  · exact (compile_of_get? h).symm

/-- A compilation takes nothing away from a registry. -/
theorem extends_compile (source : Source) (registry : Registry) (location : Url) :
    (compile source registry location).registry.Extends registry := by
  rcases compile_cases source registry location with
    ⟨fetched, e, h⟩ | ⟨fetched, batch, n, hbatch, -, -, h⟩
  · rw [h]
    exact fun u n hn => hn
  · rw [h]
    exact hbatch.extends_registerAll

/-- A compilation keeps a registry sound. -/
theorem sound_compile {source : Source} {registry : Registry} (hsound : registry.Sound)
    (location : Url) : (compile source registry location).registry.Sound := by
  rcases compile_cases source registry location with
    ⟨fetched, e, h⟩ | ⟨fetched, batch, n, hbatch, hloop, -, h⟩
  · rwa [h]
  · rw [h]
    exact hbatch.sound_registerAll hsound hloop

/-- A compilation keeps true of all nodes what holds of those that documents make. -/
theorem forall_compile {source : Source} {registry : Registry} {P : Url → Node → Prop}
    (hold : ∀ u n, registry.get? u = some n → P u.withoutFragment n)
    (hmade : ∀ u n, Makes source u n → P u n) (location : Url) :
    ∀ u n, (compile source registry location).registry.get? u = some n →
      P u.withoutFragment n := by
  rcases compile_cases source registry location with
    ⟨fetched, e, h⟩ | ⟨fetched, batch, n, hbatch, -, -, h⟩
  · rwa [h]
  · rw [h]
    exact hbatch.forall_registerAll hold hmade

/-- A compilation keeps the nodes of a registry those of the documents of its source. -/
theorem madeFrom_compile {source : Source} {registry : Registry}
    (hmade : registry.MadeFrom source) (location : Url) :
    (compile source registry location).registry.MadeFrom source :=
  forall_compile hmade (fun _ _ h => h) location

/-- A compilation registers no location twice. -/
theorem keyed_compile (source : Source) {registry : Registry} (h : registry.Keyed)
    (location : Url) : (compile source registry location).registry.Keyed := by
  rcases compile_cases source registry location with
    ⟨fetched, e, hc⟩ | ⟨fetched, batch, n, -, -, -, hc⟩
  · rwa [hc]
  · rw [hc]
    exact h.registerAll batch

/-- A location whose compilation succeeds has then the node that is its result. -/
theorem get?_of_compile {source : Source} {registry : Registry} {location : Url} {n : Node}
    (h : (compile source registry location).result = .ok n) :
    (compile source registry location).registry.get? location = some n := by
  rcases compile_cases source registry location with
    ⟨fetched, e, hc⟩ | ⟨fetched, batch, n', -, -, hn, hc⟩
  · simp [hc] at h
  · rw [hc] at h ⊢
    cases h
    exact hn

/-- A document that refers to nothing new is the only one that is compiled. -/
theorem compile_single {source : Source} {registry : Registry} {u : Url} {raw : Json} {n : Node}
    (hplain : u.withoutFragment = u) (hnew : registry.has u = false) (hsize : 0 < source.size)
    (hread : Worklist.read source u = .ok raw) (hresult : (Node.elaborate u raw).result = .ok n)
    (hknown : ∀ v ∈ (Node.elaborate u raw).references, registry.has v ∨ v = u)
    (hloop : findLoop? registry [(u, n)] = none) :
    compile source registry u = ⟨[u], registry.register u n, .ok n⟩ := by
  have hschedule : Worklist.start.schedule source registry u
      = (⟨[(u, raw)], [u], [u], []⟩, none) := by
    rw [Worklist.schedule_of_unknown hnew (by simp [Worklist.start]), hread]
    rfl
  have hdrain : Worklist.drain source registry source.size ⟨[(u, raw)], [u], [u], []⟩
      = (⟨[], [u], [u], [(u, n)]⟩, none) := by
    obtain ⟨limit, hlimit⟩ : ∃ limit, source.size = limit + 1 := ⟨source.size - 1, by omega⟩
    rw [hlimit, Worklist.drain_of_pending_eq_cons _ rfl,
      Worklist.scheduleAll_of_known (by simpa using hknown)]
    simp [hresult, Worklist.drain_of_pending_eq_nil]
  have hcollect : collect source registry u = (⟨[], [u], [u], [(u, n)]⟩, none) := by
    rw [collect, hschedule]
    exact hdrain
  have hget : (registry.register u n).get? u = some n := by
    rw [Registry.get?_register, Registry.has_eq_false_iff.mp hnew, if_pos rfl, Option.none_or]
  rw [compile_eq, hplain, hcollect]
  simp only [hloop, Registry.registerAll, List.foldl_cons, List.foldl_nil, hget]

end Compilation
end DraftSchema
