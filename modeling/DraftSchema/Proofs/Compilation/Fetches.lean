import DraftSchema.Proofs.Compilation.Batch

/-!
# `DraftSchema.Proofs.Compilation.Fetches`: what a compilation asks its source for

A compilation asks for the location that it is about and for what the documents refer to
that it gets. How it ends does not matter: it asks for no location twice, for none that is
registered and for none with a fragment (`Sparing`). If it succeeds, it registers exactly
what it asked for. The theorems:

* `sparing_schedule`, `sparing_scheduleAll` and `sparing_drain`: each step adds to the log
  only what is neither there nor registered.
* `traced_drain`: what is met on the way was referred to by a document that is compiled.
* `sparing_compile`, `mem_fetched_compile_iff` and `traced_compile`: a whole compilation.
-/

set_option autoImplicit false

namespace DraftSchema.Compilation

/-- Locations that a source is asked for with a registry: none twice, none that is registered
and none with a fragment. -/
structure Sparing (registry : Registry) (asked : List Url) : Prop where
  nodup : asked.Nodup
  fresh : ∀ u ∈ asked, registry.has u = false
  plain : ∀ u ∈ asked, u.withoutFragment = u

/-- A location can be asked for next that is neither registered nor among those before. -/
theorem Sparing.concat {registry : Registry} {asked : List Url} (h : Sparing registry asked)
    {u : Url} (hnew : u ∉ asked) (hfresh : registry.has u = false)
    (hplain : u.withoutFragment = u) : Sparing registry (asked ++ [u]) where
  nodup := by
    refine List.nodup_append.mpr ⟨h.nodup, List.nodup_singleton u, fun a ha b hb => ?_⟩
    rw [List.mem_singleton.mp hb]
    rintro rfl
    exact hnew ha
  fresh := by
    intro v hv
    rcases List.mem_append.mp hv with hv | hv
    · exact h.fresh v hv
    · rwa [List.mem_singleton.mp hv]
  plain := by
    intro v hv
    rcases List.mem_append.mp hv with hv | hv
    · exact h.plain v hv
    · rwa [List.mem_singleton.mp hv]

namespace Worklist

variable {source : Source} {registry : Registry} {busy : List Url} {w w' : Worklist}

/-! ### The log -/

/-- Books that are kept have a log of this kind. -/
theorem Valid.sparing (hw : Valid source registry busy w) : Sparing registry w.fetched := by
  rw [hw.asked]
  exact ⟨hw.nodup, hw.fresh, hw.plain⟩

/-- A document is asked for even if it cannot be read, and then it is the last one. -/
theorem fetched_schedule_of_unknown {u : Url} (hhas : registry.has u = false)
    (hmet : u ∉ w.scheduled) :
    (w.schedule source registry u).1.fetched = w.fetched ++ [u] := by
  rw [schedule_of_unknown hhas hmet]
  rcases read source u with e | raw <;> rfl

theorem sparing_schedule {u : Url} (hw : Valid source registry busy w)
    (hu : u.withoutFragment = u) : Sparing registry (w.schedule source registry u).1.fetched := by
  by_cases hknown : registry.has u ∨ u ∈ w.scheduled
  · rw [schedule_of_known hknown]
    exact hw.sparing
  · have hhas : registry.has u = false := by simpa using fun hreg => hknown (.inl hreg)
    have hmet : u ∉ w.scheduled := fun hmem => hknown (.inr hmem)
    rw [fetched_schedule_of_unknown hhas hmet]
    refine hw.sparing.concat ?_ hhas hu
    rwa [hw.asked]

theorem sparing_scheduleAll {us : List Url} (hw : Valid source registry busy w)
    (hus : ∀ u ∈ us, u.withoutFragment = u) :
    Sparing registry (w.scheduleAll source registry us).1.fetched := by
  induction us generalizing w with
  | nil =>
    rw [scheduleAll]
    exact hw.sparing
  | cons u rest ih =>
    have hu : u.withoutFragment = u := hus u List.mem_cons_self
    have hfirst := sparing_schedule (u := u) hw hu
    rw [scheduleAll]
    rcases hscheduled : w.schedule source registry u with ⟨w₁, _ | e⟩
    · obtain ⟨hw₁, -⟩ := valid_schedule hw hu hscheduled
      exact ih hw₁ fun v hv => hus v (List.mem_cons_of_mem _ hv)
    · -- After an error nothing more is asked for.
      rw [hscheduled] at hfirst
      exact hfirst

theorem sparing_drain (limit : Nat) (hw : Valid source registry [] w) :
    Sparing registry (w.drain source registry limit).1.fetched := by
  -- While no error is met the books are kept, so that each step starts from a good log.
  induction limit generalizing w with
  | zero =>
    rw [drain.eq_def]
    split
    · exact hw.sparing
    · exact hw.sparing
  | succ limit ih =>
    rcases hpending : w.pending with _ | ⟨⟨u, raw⟩, rest⟩
    · rw [drain_of_pending_eq_nil _ hpending]
      exact hw.sparing
    · have hall : Sparing registry ({ w with pending := rest }.scheduleAll source registry
          (Node.elaborate u raw).references).1.fetched :=
        sparing_scheduleAll (hw.take hpending) fun v hv => Node.withoutFragment_of_mem_elaborate hv
      rw [drain_of_pending_eq_cons limit hpending]
      rcases hscheduled : { w with pending := rest }.scheduleAll source registry
        (Node.elaborate u raw).references with ⟨w₁, _ | e⟩
      · rw [hscheduled] at hall ⊢
        rcases hnode : (Node.elaborate u raw).result with d | node
        · exact hall
        · obtain ⟨hw₁, -⟩ := hw.step hpending hscheduled hnode
          exact ih hw₁
      · rw [hscheduled] at hall ⊢
        exact hall

/-! ### Where locations come from -/

/-- Every location that was met is the first one, or a node refers to it that was made. -/
def Traced (first : Url) (w : Worklist) : Prop :=
  ∀ u ∈ w.scheduled, u = first ∨ ∃ entry ∈ w.compiled, u ∈ entry.2.references

/-- Letting a document wait meets no other location than its own. -/
theorem mem_of_mem_schedule {u v : Url} (hv : v ∈ (w.schedule source registry u).1.scheduled) :
    v ∈ w.scheduled ∨ v = u := by
  by_cases hknown : registry.has u ∨ u ∈ w.scheduled
  · rw [schedule_of_known hknown] at hv
    exact .inl hv
  · obtain ⟨hhas, hmet⟩ := not_or.mp hknown
    rw [schedule_of_unknown (by simpa using hhas) hmet] at hv
    rcases hread : read source u with e | raw <;> rw [hread] at hv
    · exact .inl hv
    · simpa using hv

theorem mem_of_mem_scheduleAll {us : List Url} {v : Url}
    (hv : v ∈ (w.scheduleAll source registry us).1.scheduled) : v ∈ w.scheduled ∨ v ∈ us := by
  induction us generalizing w with
  | nil =>
    rw [scheduleAll] at hv
    exact .inl hv
  | cons u rest ih =>
    have hfirst : v ∈ (w.schedule source registry u).1.scheduled →
        v ∈ w.scheduled ∨ v ∈ u :: rest := by
      intro hmem
      refine (mem_of_mem_schedule hmem).imp_right ?_
      rintro rfl
      exact List.mem_cons_self
    rw [scheduleAll] at hv
    rcases hscheduled : w.schedule source registry u with ⟨w₁, _ | e⟩ <;>
      rw [hscheduled] at hv hfirst
    · rcases ih hv with hmem | hmem
      · exact hfirst hmem
      · exact .inr (List.mem_cons_of_mem _ hmem)
    · exact hfirst hv

/-- When all documents that wait are compiled, something refers to what was met
meanwhile. -/
theorem traced_drain {first : Url} {limit : Nat} (hw : Valid source registry [] w)
    (htraced : w.Traced first) (h : w.drain source registry limit = (w', none)) :
    w'.Traced first := by
  induction limit generalizing w with
  | zero =>
    rw [drain.eq_def] at h
    rcases hpending : w.pending with _ | ⟨⟨u, raw⟩, rest⟩
    · simp only [hpending, Prod.mk.injEq, and_true] at h
      exact h ▸ htraced
    · simp [hpending] at h
  | succ limit ih =>
    rcases hpending : w.pending with _ | ⟨⟨u, raw⟩, rest⟩
    · rw [drain_of_pending_eq_nil _ hpending] at h
      cases h
      exact htraced
    · rw [drain_of_pending_eq_cons limit hpending] at h
      rcases hscheduled : { w with pending := rest }.scheduleAll source registry
        (Node.elaborate u raw).references with ⟨w₁, _ | e⟩
      · rcases hnode : (Node.elaborate u raw).result with d | node
        · simp [hscheduled, hnode] at h
        · simp only [hscheduled, hnode] at h
          obtain ⟨hw₁, -, hcompiled⟩ := hw.step hpending hscheduled hnode
          refine ih hw₁ (fun v hv => ?_) h
          -- What is new is referred to by the document that has just been compiled.
          have hmet : v ∈ ({ w with pending := rest }.scheduleAll source registry
              (Node.elaborate u raw).references).1.scheduled := by rwa [hscheduled]
          rcases mem_of_mem_scheduleAll hmet with hold | hnew
          · refine (htraced v hold).imp_right ?_
            rintro ⟨entry, hentry, href⟩
            exact ⟨entry, by simp [hcompiled, hentry], href⟩
          · rw [(Node.faithful_elaborate u raw).complete node hnode] at hnew
            exact .inr ⟨(u, node), by simp, hnew⟩
      · simp [hscheduled] at h

end Worklist

/-! ### Compilations -/

section

variable {source : Source} {registry : Registry} {u : Url} {w : Worklist}

theorem sparing_collect (hu : u.withoutFragment = u) :
    Sparing registry (collect source registry u).1.fetched := by
  have hstart := Worklist.valid_start source registry
  have hfirst := Worklist.sparing_schedule hstart hu
  unfold collect
  rcases hscheduled : Worklist.start.schedule source registry u with ⟨w, _ | e⟩
  · obtain ⟨hw, -⟩ := Worklist.valid_schedule hstart hu hscheduled
    exact Worklist.sparing_drain _ hw
  · rw [hscheduled] at hfirst
    exact hfirst

theorem traced_collect (hu : u.withoutFragment = u)
    (h : collect source registry u = (w, none)) : w.Traced u := by
  unfold collect at h
  rcases hscheduled : Worklist.start.schedule source registry u with ⟨w₁, _ | e⟩ <;>
    rw [hscheduled] at h
  · obtain ⟨hw₁, -⟩ :=
      Worklist.valid_schedule (Worklist.valid_start source registry) hu hscheduled
    refine Worklist.traced_drain hw₁ (fun v hv => .inl ?_) h
    have hmet : v ∈ (Worklist.start.schedule source registry u).1.scheduled := by
      rwa [hscheduled]
    simpa [Worklist.start] using Worklist.mem_of_mem_schedule hmet
  · cases h

/-- What a compilation asks for does not depend on whether there is a loop in what it got. -/
theorem fetched_compile (source : Source) (registry : Registry) (location : Url) :
    (compile source registry location).fetched
      = (collect source registry location.withoutFragment).1.fetched := by
  rw [compile_eq]
  rcases collect source registry location.withoutFragment with ⟨w, _ | e⟩
  · rcases hloop : findLoop? registry w.compiled with _ | loop <;> simp only [hloop]
  · rfl

/-- However it ends, a compilation asks for no location twice, for none that is registered and
for none with a fragment. -/
theorem sparing_compile (source : Source) (registry : Registry) (location : Url) :
    Sparing registry (compile source registry location).fetched := by
  rw [fetched_compile]
  exact sparing_collect (Url.withoutFragment_withoutFragment location)

/-- A compilation that succeeds has asked for the documents of a batch and registers it. -/
theorem exists_batch_of_compile {location : Url} {n : Node}
    (h : (compile source registry location).result = .ok n) :
    ∃ batch, IsBatch source registry batch ∧
      (compile source registry location).fetched = batch.map (·.1) ∧
      (compile source registry location).registry = registry.registerAll batch ∧
      ∀ v ∈ batch.map (·.1), v = location.withoutFragment ∨
        ∃ entry ∈ batch, v ∈ entry.2.references := by
  have hplain := Url.withoutFragment_withoutFragment location
  rw [fetched_compile]
  rw [compile_eq] at h ⊢
  rcases hcollect : collect source registry location.withoutFragment with ⟨w, _ | e⟩
  · rcases hloop : findLoop? registry w.compiled with _ | loop
    · obtain ⟨hw, hnil, -⟩ := valid_collect hplain hcollect
      obtain ⟨hbatch, hscheduled⟩ := hw.isBatch hnil
      refine ⟨w.compiled, hbatch, hw.asked.trans hscheduled, by simp only [hloop], fun v hv => ?_⟩
      rw [← hscheduled] at hv
      exact traced_collect hplain hcollect v hv
    · simp [hcollect, hloop] at h
  · simp [hcollect] at h

/-- A compilation that succeeds registers exactly the locations that it asked for. -/
theorem mem_fetched_compile_iff {location : Url} {n : Node}
    (h : (compile source registry location).result = .ok n) (u : Url) :
    u.withoutFragment ∈ (compile source registry location).fetched ↔
      (compile source registry location).registry.has u ∧ registry.has u = false := by
  obtain ⟨batch, hbatch, hfetched, hregistry, -⟩ := exists_batch_of_compile h
  rw [hfetched, hregistry]
  refine ⟨fun hmem => ⟨?_, ?_⟩, ?_⟩
  · rw [← Registry.has_withoutFragment]
    exact hbatch.has_registerAll (.inr hmem)
  · rw [← Registry.has_withoutFragment]
    exact hbatch.fresh _ hmem
  · rintro ⟨hnew, hold⟩
    obtain ⟨m, hm⟩ := Registry.has_iff.mp hnew
    exact List.mem_map_of_mem (hbatch.mem_of_get?_registerAll hm hold)

/-- What it asked for was its location, or a document refers to it that it asked for. -/
theorem traced_compile {location : Url} {n : Node}
    (h : (compile source registry location).result = .ok n) {u : Url}
    (hu : u ∈ (compile source registry location).fetched) :
    u = location.withoutFragment ∨
      ∃ v ∈ (compile source registry location).fetched, ∃ m, Makes source v m ∧
        u ∈ m.references := by
  obtain ⟨batch, hbatch, hfetched, -, htraced⟩ := exists_batch_of_compile h
  rw [hfetched] at hu ⊢
  refine (htraced u hu).imp_right ?_
  rintro ⟨entry, hentry, href⟩
  exact ⟨entry.1, List.mem_map_of_mem hentry, entry.2, hbatch.made entry hentry, href⟩

end

end DraftSchema.Compilation
