import DraftSchema.Proofs.Compilation.Batch

/-!
# `DraftSchema.Proofs.Compilation.History`: compilations that skip what is registered

A compilation with a registry skips all that is registered. If the registry is sound
and its nodes are those of the documents of the same source (`History`), what is skipped
would have been compiled without an error, and the rest is met in the same order. The
compilation is thus the one with an empty registry, less the registered locations
(`Worklist.without`). The theorems:

* `schedule_without` and `scheduleAll_without`: letting documents wait.
* `drain_registered`: compiling a registered document comes to nothing.
* `drain_unregistered`: compiling another one comes to the same.
* `drain_without` and `collect_without`: compiling all documents that wait, with the
  limits on their number never met.
-/

set_option autoImplicit false

namespace DraftSchema.Compilation

open Relation

/-- The registry is sound and its nodes are those of the documents of a source. -/
structure History (source : Source) (registry : Registry) : Prop where
  sound : registry.Sound
  madeFrom : registry.MadeFrom source

namespace History

variable {source : Source} {registry : Registry}

theorem empty (source : Source) : History source ∅ where
  sound := Registry.sound_empty
  madeFrom u n h := by simp at h

/-- A compilation makes a history longer. -/
theorem compile (h : History source registry) (location : Url) :
    History source (compile source registry location).registry where
  sound := sound_compile h.sound location
  madeFrom := madeFrom_compile h.madeFrom location

/-- The document at a registered location can be read. -/
theorem makes (h : History source registry) {u : Url} (hplain : u.withoutFragment = u)
    (hu : registry.has u) : ∃ n, registry.get? u = some n ∧ Makes source u n := by
  obtain ⟨n, hn⟩ := Registry.has_iff.mp hu
  have hmakes := h.madeFrom u n hn
  rw [hplain] at hmakes
  exact ⟨n, hn, hmakes⟩

end History

namespace Worklist

/-- A compilation as far as locations are concerned that are not registered. -/
def without (registry : Registry) (w : Worklist) : Worklist where
  pending := w.pending.filter fun entry => !registry.has entry.1
  scheduled := w.scheduled.filter fun u => !registry.has u
  fetched := w.fetched.filter fun u => !registry.has u
  compiled := w.compiled.filter fun entry => !registry.has entry.1

variable {source : Source} {registry : Registry} {w : Worklist}

theorem mem_scheduled_without {u : Url} :
    u ∈ (w.without registry).scheduled ↔ u ∈ w.scheduled ∧ registry.has u = false := by
  simp [without]

/-- Where a registered document waits or not does not count. -/
theorem schedule_without (h : History source registry) (w : Worklist) {u : Url}
    (hplain : u.withoutFragment = u) :
    (w.without registry).schedule source registry u
      = (w.schedule source ∅ u).map (·.without registry) id := by
  rcases hu : registry.has u
  · by_cases hmet : u ∈ w.scheduled
    · rw [schedule_of_known (.inr hmet),
        schedule_of_known (.inr (mem_scheduled_without.mpr ⟨hmet, hu⟩))]
      rfl
    · rw [schedule_of_unknown rfl hmet,
        schedule_of_unknown hu fun hmem => hmet (mem_scheduled_without.mp hmem).1]
      rcases hread : read source u with e | raw
      · simp [without, hu]
      · simp [without, hu]
  · rw [schedule_of_known (.inl hu)]
    by_cases hmet : u ∈ w.scheduled
    · rw [schedule_of_known (.inr hmet)]
      rfl
    · obtain ⟨n, -, raw, hread, -⟩ := h.makes hplain hu
      rw [schedule_of_unknown rfl hmet, hread]
      simp [without, hu]

/-- The same is true of some locations. -/
theorem scheduleAll_without (h : History source registry) (w : Worklist) (us : List Url)
    (hplain : ∀ u ∈ us, u.withoutFragment = u) :
    (w.without registry).scheduleAll source registry us
      = (w.scheduleAll source ∅ us).map (·.without registry) id := by
  induction us generalizing w with
  | nil => simp only [scheduleAll, Prod.map_apply, id_eq]
  | cons u rest ih =>
    have hrest := fun w => ih w fun v hv => hplain v (List.mem_cons_of_mem _ hv)
    rw [scheduleAll, scheduleAll, schedule_without h w (hplain u List.mem_cons_self)]
    rcases hfirst : w.schedule source ∅ u with ⟨w₁, _ | e⟩
    · exact hrest w₁
    · rfl

/-! ### Room -/

/-- The limit suffices for all documents that the source has. -/
def HasLimit (source : Source) (w : Worklist) (limit : Nat) : Prop :=
  source.size ≤ w.compiled.length + limit

/-- A document that can be read is one that the source answers with. -/
theorem mem_of_read {locations : List Url} (honly : source.AnswersOnly locations) {u : Url}
    {raw : Json} (h : read source u = .ok raw) : u ∈ locations := by
  refine honly u ?_
  unfold read at h
  split at h
  · simp at h
  · rename_i htext
    rw [htext]
    rfl

/-- Every document that waits or is compiled is one that the source answers with. -/
theorem Valid.length_le (hw : Valid source registry [] w) {locations : List Url}
    (honly : source.AnswersOnly locations) :
    w.compiled.length + w.pending.length ≤ locations.length := by
  have hread : ∀ u ∈ w.scheduled, ∃ raw, read source u = .ok raw := by
    intro u hu
    rw [hw.order, List.append_nil, List.mem_append] at hu
    rcases hu with hu | hu
    · obtain ⟨entry, hentry, rfl⟩ := List.mem_map.mp hu
      obtain ⟨raw, hraw, -⟩ := hw.made entry hentry
      exact ⟨raw, hraw⟩
    · obtain ⟨entry, hentry, rfl⟩ := List.mem_map.mp hu
      exact ⟨entry.2, hw.waiting entry hentry⟩
  have hsub : w.scheduled ⊆ locations := by
    intro u hu
    obtain ⟨raw, hraw⟩ := hread u hu
    exact mem_of_read honly hraw
  -- No location is met twice.
  have hle := (hw.nodup.subperm hsub).length_le
  have horder := congrArg List.length hw.order
  simp only [List.append_nil, List.length_append, List.length_map] at horder
  omega

/-- So there are no more of them than the source has. -/
theorem Valid.length_le_size (hw : Valid source registry [] w) (hsized : source.Sized) :
    w.compiled.length + w.pending.length ≤ source.size := by
  obtain ⟨locations, hlength, honly⟩ := hsized
  exact (hw.length_le honly).trans hlength

/-- While a document waits, the limit is not used up. -/
theorem Valid.exists_limit (hw : Valid source registry [] w) (hsized : source.Sized) {limit : Nat}
    (hlimit : HasLimit source w limit) (entry : Url × Json) (hentry : entry ∈ w.pending) :
    ∃ left, limit = left + 1 := by
  have hsize := hw.length_le_size hsized
  have hpos := List.length_pos_of_mem hentry
  unfold HasLimit at hlimit
  exact ⟨limit - 1, by omega⟩

/-- Nor is it while one waits that is not registered. -/
theorem Valid.exists_limit_without {registry' : Registry} (hw : Valid source registry [] w)
    (hsized : source.Sized) {limit : Nat} (hlimit : HasLimit source (w.without registry') limit)
    (entry : Url × Json) (hentry : entry ∈ (w.without registry').pending) :
    ∃ left, limit = left + 1 := by
  have hsize := hw.length_le_size hsized
  have hpos := List.length_pos_of_mem hentry
  have hpending : (w.without registry').pending.length ≤ w.pending.length :=
    List.length_filter_le _ _
  have hcompiled : (w.without registry').compiled.length ≤ w.compiled.length :=
    List.length_filter_le _ _
  unfold HasLimit at hlimit
  exact ⟨limit - 1, by omega⟩

/-! ### Draining -/

/-- Where no document waits, none waits that is not registered. -/
theorem drain_without_of_pending_eq_nil (limit limit' : Nat) (h : w.pending = []) :
    (w.without registry).drain source registry limit'
      = (w.drain source ∅ limit).map (·.without registry) id := by
  have hleft : (w.without registry).pending = [] := by simp [without, h]
  rw [drain_of_pending_eq_nil _ h, drain_of_pending_eq_nil _ hleft]
  rfl

/-- A registered document that waits is compiled without an error, and nothing new is
met on the way. -/
theorem drain_registered (h : History source registry) (limit : Nat) {u : Url} {raw : Json}
    {rest : List (Url × Json)} (hw : Valid source ∅ [] w) (hpending : w.pending = (u, raw) :: rest)
    (hu : registry.has u) :
    ∃ w₁, w.drain source ∅ (limit + 1) = w₁.drain source ∅ limit ∧ Valid source ∅ [] w₁ ∧
      w₁.without registry = w.without registry ∧
      w₁.compiled.length = w.compiled.length + 1 := by
  have hread : read source u = .ok raw := hw.waiting (u, raw) (by simp [hpending])
  have hplain : u.withoutFragment = u := hw.plain u (by simp [hw.order, hpending])
  obtain ⟨n, hn, raw', hread', hnode⟩ := h.makes hplain hu
  obtain rfl : raw = raw' := by simpa [hread] using hread'
  have hreferences : (Node.elaborate u raw).references = n.references :=
    (Node.faithful_elaborate u raw).complete n hnode
  have hall := scheduleAll_without h { w with pending := rest } n.references
    fun v hv => Makes.plain ⟨raw, hread, hnode⟩ hv
  -- With the registry nothing new is met, so without it nothing that is not registered.
  rw [scheduleAll_of_known fun v hv => .inl (h.sound.closed u n hn v hv)] at hall
  rcases hscheduled : { w with pending := rest }.scheduleAll source ∅ n.references
    with ⟨w₁, _ | e⟩
  · rw [hscheduled] at hall
    rw [← hreferences] at hscheduled
    obtain ⟨hw₁, -, hcompiled⟩ := hw.step hpending hscheduled hnode
    refine ⟨_, ?_, hw₁, ?_, ?_⟩
    · rw [drain_of_pending_eq_cons limit hpending, hscheduled]
      simp only [hnode]
    · have hsame : w₁.without registry = ({ w with pending := rest } : Worklist).without registry :=
        (congrArg Prod.fst hall).symm
      simp only [without, mk.injEq] at hsame ⊢
      simp [hsame, hpending, hu]
    · simp [hcompiled]
  · rw [hscheduled] at hall
    simp at hall

/-- A document that waits and is not registered ends the compilation with a registry as it
does without one, or both go on. -/
theorem drain_unregistered (h : History source registry) (limit left : Nat) {u : Url} {raw : Json}
    {rest : List (Url × Json)} (hw : Valid source ∅ [] w) (hpending : w.pending = (u, raw) :: rest)
    (hu : registry.has u = false) :
    (w.without registry).drain source registry (left + 1)
        = (w.drain source ∅ (limit + 1)).map (·.without registry) id ∨
      ∃ w₁, w.drain source ∅ (limit + 1) = w₁.drain source ∅ limit ∧
        (w.without registry).drain source registry (left + 1)
          = (w₁.without registry).drain source registry left ∧
        Valid source ∅ [] w₁ ∧ w₁.compiled.length = w.compiled.length + 1 ∧
        (w₁.without registry).compiled.length = (w.without registry).compiled.length + 1 := by
  have hpending' : (w.without registry).pending
      = (u, raw) :: rest.filter fun entry => !registry.has entry.1 := by
    simp [without, hpending, hu]
  have hall := scheduleAll_without h { w with pending := rest }
    (Node.elaborate u raw).references fun v hv => Node.withoutFragment_of_mem_elaborate hv
  have hrest : ({ w.without registry with
      pending := rest.filter fun entry => !registry.has entry.1 } : Worklist)
        = ({ w with pending := rest } : Worklist).without registry := rfl
  rw [drain_of_pending_eq_cons limit hpending, drain_of_pending_eq_cons left hpending', hrest,
    hall]
  rcases hscheduled : { w with pending := rest }.scheduleAll source ∅
    (Node.elaborate u raw).references with ⟨w₁, _ | e⟩
  · rw [hscheduled]
    rcases hnode : (Node.elaborate u raw).result with d | node
    · exact .inl rfl
    · obtain ⟨hw₁, -, hcompiled⟩ := hw.step hpending hscheduled hnode
      have hadd : ({ w₁.without registry with
          compiled := (w₁.without registry).compiled ++ [(u, node)] } : Worklist)
            = ({ w₁ with compiled := w₁.compiled ++ [(u, node)] } : Worklist).without
              registry := by
        simp [without, hu]
      refine .inr ⟨_, rfl, ?_, hw₁, ?_, ?_⟩
      · rw [← hadd]
        rfl
      · simp [hcompiled]
      · simp [without, hcompiled, hu]
  · rw [hscheduled]
    exact .inl rfl

/-- Compiling the documents that wait with a registry is doing so without one, where the
registered documents are left out. -/
theorem drain_without (h : History source registry) (hsized : source.Sized) {limit limit' : Nat}
    (hw : Valid source ∅ [] w) (hlimit : HasLimit source w limit)
    (hlimit' : HasLimit source (w.without registry) limit') :
    (w.without registry).drain source registry limit'
      = (w.drain source ∅ limit).map (·.without registry) id := by
  -- The limit without a registry falls with every document, the other one only with those
  -- that are not registered.
  induction limit generalizing w limit' with
  | zero =>
    rcases hpending : w.pending with _ | ⟨entry, rest⟩
    · exact drain_without_of_pending_eq_nil 0 limit' hpending
    · obtain ⟨left, hleft⟩ := hw.exists_limit hsized hlimit entry (by simp [hpending])
      omega
  | succ limit ih =>
    rcases hpending : w.pending with _ | ⟨⟨u, raw⟩, rest⟩
    · exact drain_without_of_pending_eq_nil (limit + 1) limit' hpending
    · rcases hu : registry.has u
      · obtain ⟨left, rfl⟩ := hw.exists_limit_without hsized hlimit' (u, raw)
          (by simp [without, hpending, hu])
        rcases drain_unregistered h limit left hw hpending hu with
          hend | ⟨w₁, hdrain, hdrain', hw₁, hlength, hlength'⟩
        · exact hend
        · rw [hdrain, hdrain']
          refine ih hw₁ ?_ ?_
          all_goals
            unfold HasLimit at hlimit hlimit' ⊢
            omega
      · obtain ⟨w₁, hdrain, hw₁, hsame, hlength⟩ := drain_registered h limit hw hpending hu
        rw [hdrain, ← hsame]
        refine ih hw₁ ?_ (hsame ▸ hlimit')
        unfold HasLimit at hlimit ⊢
        omega

end Worklist

/-- Collecting with a registry is collecting without one, where what is registered is
left out. -/
theorem collect_without {source : Source} {registry : Registry} (h : History source registry)
    (hsized : source.Sized) {u : Url} (hplain : u.withoutFragment = u) :
    collect source registry u = (collect source ∅ u).map (·.without registry) id := by
  have hstart := Worklist.schedule_without h .start hplain
  change Worklist.start.schedule source registry u = _ at hstart
  unfold collect
  rw [hstart]
  rcases hfirst : Worklist.start.schedule source ∅ u with ⟨w, _ | e⟩
  · obtain ⟨hw, -, hcompiled, -⟩ :=
      Worklist.valid_schedule (Worklist.valid_start source ∅) hplain hfirst
    have hnil : w.compiled = [] := hcompiled
    refine Worklist.drain_without h hsized hw ?_ ?_
    · simp [Worklist.HasLimit]
    · simp [Worklist.HasLimit]
  · rfl

end DraftSchema.Compilation
