import DraftSchema.Compilation
import DraftSchema.Proofs.Registry.Gates

/-!
# `DraftSchema.Proofs.Compilation.Worklist`: what a compilation keeps on its way

While documents wait, a compilation keeps its books (`Valid`): every location that
was met has waited, is being compiled or is compiled, none of them twice and none
that was registered before; and what the compiled nodes refer to is registered or
was met. The theorems:

* `valid_schedule` and `valid_scheduleAll`: letting documents wait keeps the books.
* `valid_drain`: so does compiling the documents that wait, and in the end none
  waits.
-/

set_option autoImplicit false

namespace DraftSchema.Compilation

/-- The document at a location can be read, and this is its node. -/
def Makes (source : Source) (u : Url) (node : Node) : Prop :=
  ∃ raw, Worklist.read source u = .ok raw ∧ (Node.elaborate u raw).result = .ok node

/-- A document has one node. -/
theorem Makes.unique {source : Source} {u : Url} {n n' : Node} (h : Makes source u n)
    (h' : Makes source u n') : n = n' := by
  obtain ⟨raw, hraw, hn⟩ := h
  obtain ⟨raw', hraw', hn'⟩ := h'
  obtain rfl : raw = raw' := by simpa [hraw] using hraw'
  simpa [hn] using hn'

/-- What a node refers to has no fragment. -/
theorem Makes.plain {source : Source} {u v : Url} {n : Node} (h : Makes source u n)
    (hv : v ∈ n.references) : v.withoutFragment = v := by
  obtain ⟨raw, -, hn⟩ := h
  rw [← (Node.faithful_elaborate u raw).complete n hn] at hv
  exact Node.withoutFragment_of_mem_elaborate hv

namespace Worklist

/-- The books of a compilation, with the location that is being compiled, if there is
one. -/
structure Valid (source : Source) (registry : Registry) (busy : List Url) (w : Worklist) :
    Prop where
  /-- Locations are compiled in the order in which they are met. -/
  order : w.scheduled = w.compiled.map (·.1) ++ busy ++ w.pending.map (·.1)
  asked : w.fetched = w.scheduled
  nodup : w.scheduled.Nodup
  fresh : ∀ u ∈ w.scheduled, registry.has u = false
  plain : ∀ u ∈ w.scheduled, u.withoutFragment = u
  waiting : ∀ entry ∈ w.pending, read source entry.1 = .ok entry.2
  made : ∀ entry ∈ w.compiled, Makes source entry.1 entry.2
  covered : ∀ entry ∈ w.compiled, ∀ v ∈ entry.2.references, registry.has v ∨ v ∈ w.scheduled

variable {source : Source} {registry : Registry} {busy : List Url} {w w' : Worklist}

/-- Nothing is written before the start. -/
theorem valid_start (source : Source) (registry : Registry) : Valid source registry [] start where
  order := rfl
  asked := rfl
  nodup := List.nodup_nil
  fresh := by simp [start]
  plain := by simp [start]
  waiting := by simp [start]
  made := by simp [start]
  covered := by simp [start]

/-! ### Letting documents wait -/

/-- Nothing happens at a location that is registered or was met. -/
theorem schedule_of_known {u : Url} (h : registry.has u ∨ u ∈ w.scheduled) :
    w.schedule source registry u = (w, none) := by
  rw [schedule, if_pos (by simpa using h)]

/-- Nothing happens at any number of such locations. -/
theorem scheduleAll_of_known {us : List Url} (h : ∀ u ∈ us, registry.has u ∨ u ∈ w.scheduled) :
    w.scheduleAll source registry us = (w, none) := by
  induction us with
  | nil => rw [scheduleAll]
  | cons u rest ih =>
    rw [scheduleAll, schedule_of_known (h u List.mem_cons_self)]
    exact ih fun v hv => h v (List.mem_cons_of_mem _ hv)

/-- The document at another location is read. -/
theorem schedule_of_unknown {u : Url} (hhas : registry.has u = false) (hmet : u ∉ w.scheduled) :
    w.schedule source registry u =
      match read source u with
      | .error e => ({ w with fetched := w.fetched ++ [u] }, some e)
      | .ok raw =>
        ({ w with
            pending := w.pending ++ [(u, raw)]
            scheduled := w.scheduled ++ [u]
            fetched := w.fetched ++ [u] }, none) := by
  unfold schedule
  exact if_neg (by simp [hhas, hmet])

/-- Letting a document wait keeps the books, and its location is registered or met. -/
theorem valid_schedule {u : Url} (hw : Valid source registry busy w) (hu : u.withoutFragment = u)
    (h : w.schedule source registry u = (w', none)) :
    Valid source registry busy w' ∧ w.scheduled ⊆ w'.scheduled ∧ w'.compiled = w.compiled ∧
      (registry.has u ∨ u ∈ w'.scheduled) := by
  by_cases hknown : registry.has u ∨ u ∈ w.scheduled
  · rw [schedule_of_known hknown] at h
    cases h
    exact ⟨hw, List.Subset.refl _, rfl, hknown⟩
  · have hhas : registry.has u = false := by simpa using fun hreg => hknown (.inl hreg)
    have hmet : u ∉ w.scheduled := fun hmem => hknown (.inr hmem)
    rw [schedule_of_unknown hhas hmet] at h
    rcases hread : read source u with e | raw
    · simp [hread] at h
    · simp only [hread, Prod.mk.injEq, and_true] at h
      subst h
      refine ⟨?_, List.subset_append_left _ _, rfl, .inr (by simp)⟩
      -- The location is met last and waits last.
      exact {
        order := by simp [hw.order]
        asked := by simp [hw.asked]
        nodup := by
          refine List.nodup_append.mpr ⟨hw.nodup, List.nodup_singleton u, fun a ha b hb => ?_⟩
          rw [List.mem_singleton.mp hb]
          rintro rfl
          exact hmet ha
        fresh := by
          intro v hv
          rcases List.mem_append.mp hv with hv | hv
          · exact hw.fresh v hv
          · rwa [List.mem_singleton.mp hv]
        plain := by
          intro v hv
          rcases List.mem_append.mp hv with hv | hv
          · exact hw.plain v hv
          · rwa [List.mem_singleton.mp hv]
        waiting := by
          intro entry hentry
          rcases List.mem_append.mp hentry with hentry | hentry
          · exact hw.waiting entry hentry
          · rw [List.mem_singleton.mp hentry]
            exact hread
        made := hw.made
        covered := fun entry hentry v hv =>
          (hw.covered entry hentry v hv).imp_right (List.mem_append_left _) }

/-- Letting documents wait one after the other keeps the books, and their locations are
registered or met. -/
theorem valid_scheduleAll {us : List Url} (hw : Valid source registry busy w)
    (hus : ∀ u ∈ us, u.withoutFragment = u)
    (h : w.scheduleAll source registry us = (w', none)) :
    Valid source registry busy w' ∧ w.scheduled ⊆ w'.scheduled ∧ w'.compiled = w.compiled ∧
      ∀ u ∈ us, registry.has u ∨ u ∈ w'.scheduled := by
  induction us generalizing w with
  | nil =>
    rw [scheduleAll] at h
    cases h
    exact ⟨hw, List.Subset.refl _, rfl, by simp⟩
  | cons u rest ih =>
    rw [scheduleAll] at h
    rcases hfirst : w.schedule source registry u with ⟨w₁, e | _⟩
    · rw [hfirst] at h
      obtain ⟨hw₁, hsub, hcompiled, hmem⟩ := valid_schedule hw (hus u List.mem_cons_self) hfirst
      obtain ⟨hw', hsub', hcompiled', hmem'⟩ :=
        ih hw₁ (fun v hv => hus v (List.mem_cons_of_mem _ hv)) h
      refine ⟨hw', fun v hv => hsub' (hsub hv), hcompiled'.trans hcompiled, fun v hv => ?_⟩
      rcases List.mem_cons.mp hv with rfl | hv
      · exact hmem.imp_right fun h => hsub' h
      · exact hmem' v hv
    · rw [hfirst] at h
      simp at h

/-! ### Compiling the documents that wait -/

/-- A compilation at whose end no document waits. -/
theorem drain_of_pending_eq_nil (limit : Nat) (h : w.pending = []) :
    w.drain source registry limit = (w, none) := by
  rw [drain.eq_def]
  simp only [h]

/-- The first document that waits is compiled next. -/
theorem drain_of_pending_eq_cons (limit : Nat) {u : Url} {raw : Json} {rest : List (Url × Json)}
    (h : w.pending = (u, raw) :: rest) :
    w.drain source registry (limit + 1) =
      match { w with pending := rest }.scheduleAll source registry
        (Node.elaborate u raw).references with
      | (w, some e) => (w, some e)
      | (w, none) =>
        match (Node.elaborate u raw).result with
        | .error d => (w, some ⟨u.text, .defect d⟩)
        | .ok node =>
          { w with compiled := w.compiled ++ [(u, node)] }.drain source registry limit := by
  have hstep := drain.eq_def source registry (limit + 1) w
  simp only [h] at hstep
  exact hstep

/-- Taking out a document to compile it keeps the books. -/
theorem Valid.take {u : Url} {raw : Json} {rest : List (Url × Json)}
    (hw : Valid source registry [] w) (h : w.pending = (u, raw) :: rest) :
    Valid source registry [u] { w with pending := rest } where
  order := by simp [hw.order, h]
  asked := hw.asked
  nodup := hw.nodup
  fresh := hw.fresh
  plain := hw.plain
  waiting entry hentry := hw.waiting entry (by rw [h]; exact List.mem_cons_of_mem _ hentry)
  made := hw.made
  covered := hw.covered

/-- Adding a node whose references were met keeps the books. -/
theorem Valid.add {u : Url} {node : Node} (hw : Valid source registry [u] w)
    (hmade : Makes source u node)
    (hcovered : ∀ v ∈ node.references, registry.has v ∨ v ∈ w.scheduled) :
    Valid source registry [] { w with compiled := w.compiled ++ [(u, node)] } where
  order := by simp [hw.order]
  asked := hw.asked
  nodup := hw.nodup
  fresh := hw.fresh
  plain := hw.plain
  waiting := hw.waiting
  made entry hentry := by
    rcases List.mem_append.mp hentry with hentry | hentry
    · exact hw.made entry hentry
    · rw [List.mem_singleton.mp hentry]
      exact hmade
  covered entry hentry := by
    rcases List.mem_append.mp hentry with hentry | hentry
    · exact hw.covered entry hentry
    · rw [List.mem_singleton.mp hentry]
      exact hcovered

/-- The step of a compilation: a document whose references can be read and whose value
is a schema becomes a node, and the books are kept. -/
theorem Valid.step {u : Url} {raw : Json} {rest : List (Url × Json)} {node : Node}
    (hw : Valid source registry [] w) (h : w.pending = (u, raw) :: rest)
    (hscheduled : { w with pending := rest }.scheduleAll source registry
      (Node.elaborate u raw).references = (w', none))
    (hnode : (Node.elaborate u raw).result = .ok node) :
    Valid source registry [] { w' with compiled := w'.compiled ++ [(u, node)] } ∧
      w.scheduled ⊆ w'.scheduled ∧ w'.compiled = w.compiled := by
  have hread : read source u = .ok raw := hw.waiting (u, raw) (by simp [h])
  -- References are met before it is known whether there is a node.
  obtain ⟨hw', hsub, hcompiled, hmem⟩ := valid_scheduleAll (hw.take h)
    (fun v hv => Node.withoutFragment_of_mem_elaborate hv) hscheduled
  rw [(Node.faithful_elaborate u raw).complete node hnode] at hmem
  exact ⟨hw'.add ⟨raw, hread, hnode⟩ hmem, hsub, hcompiled⟩

/-- Compiling all documents that wait keeps the books, and none waits in the end. -/
theorem valid_drain {limit : Nat} (hw : Valid source registry [] w)
    (h : w.drain source registry limit = (w', none)) :
    Valid source registry [] w' ∧ w'.pending = [] ∧ w.scheduled ⊆ w'.scheduled := by
  -- Documents may be added while one is compiled, but the limit falls.
  induction limit generalizing w with
  | zero =>
    rcases hpending : w.pending with _ | ⟨⟨u, raw⟩, rest⟩
    · rw [drain_of_pending_eq_nil _ hpending] at h
      cases h
      exact ⟨hw, hpending, List.Subset.refl _⟩
    · rw [drain.eq_def] at h
      simp [hpending] at h
  | succ limit ih =>
    rcases hpending : w.pending with _ | ⟨⟨u, raw⟩, rest⟩
    · rw [drain_of_pending_eq_nil _ hpending] at h
      cases h
      exact ⟨hw, hpending, List.Subset.refl _⟩
    · rw [drain_of_pending_eq_cons limit hpending] at h
      rcases hscheduled : { w with pending := rest }.scheduleAll source registry
        (Node.elaborate u raw).references with ⟨w₁, _ | e⟩
      · rcases hnode : (Node.elaborate u raw).result with d | node
        · simp [hscheduled, hnode] at h
        · simp only [hscheduled, hnode] at h
          obtain ⟨hw₁, hsub, -⟩ := hw.step hpending hscheduled hnode
          obtain ⟨hw', hnil, hsub'⟩ := ih hw₁ h
          exact ⟨hw', hnil, fun v hv => hsub' (hsub hv)⟩
      · simp [hscheduled] at h

end Worklist
end DraftSchema.Compilation
