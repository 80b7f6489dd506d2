import DraftSchema.Proofs.Compilation.Edits
import DraftSchema.Proofs.Language.Fragments
import Mathlib.Data.List.Forall2

/-!
# `DraftSchema.Proofs.Compilation.Fragments`: compiling schemas with and without fragments

Two sources are compared whose documents differ in the fragments behind references only
(`Source.WithFragments`). Both compilations let the same locations wait, with documents that
become the same (`Worklist.Beside`), and they are stopped at the same place if they are stopped.
Only what is told of a defect may differ, since it holds the text of the reference. Every document
is that of a location with an authority if it needs one, because references lead from such
locations to such locations. The theorems:

* `beside_schedule`, `beside_scheduleAll` and `beside_drain`: each step leaves the two compilations
  side by side.
* `alike_compile`: so they ask for the same locations, register the same nodes, and both succeed
  or neither does.
-/

set_option autoImplicit false

namespace DraftSchema

open Relation

/-- The second source has the documents of the first one with fragments behind some references in
them. -/
structure Source.WithFragments (source source' : Source) : Prop where
  size : source'.size = source.size
  fetch : ∀ u, source'.fetch u = source.fetch u ∨ ∃ raw raw', source.Holds u raw ∧
    source'.Holds u raw' ∧ ReflTransGen Json.AddsFragment raw raw'

/-- What a document refers to has an authority if it needs one. -/
theorem Node.isProper_of_mem_elaborate {base u : Url} {raw : Json} (hbase : base.IsProper)
    (h : u ∈ (elaborate base raw).references) : u.IsProper := by
  obtain ⟨text, htext⟩ := (faithful_elaborate base raw).resolved u h
  exact Reference.isProper_of_resolve hbase htext

namespace Compilation

variable {source source' : Source} {registry : Registry} {u : Url}

/-- A document is read from both sources, where the same becomes of it, or from neither. -/
theorem read_cases (h : source.WithFragments source') (hu : u.IsProper) :
    (∃ e, Worklist.read source u = .error e ∧ Worklist.read source' u = .error e) ∨
      ∃ raw raw', Worklist.read source u = .ok raw ∧ Worklist.read source' u = .ok raw' ∧
        (Node.elaborate u raw).SameSuccess (Node.elaborate u raw') := by
  obtain hfetch | ⟨raw, raw', hraw, hraw', hfragments⟩ := h.fetch u
  · rw [read_congr hfetch]
    rcases Worklist.read source u with e | raw
    · exact .inl ⟨e, rfl, rfl⟩
    · exact .inr ⟨raw, raw, rfl, rfl, .refl _⟩
  · exact .inr ⟨raw, raw', read_eq_ok_iff.mpr hraw, read_eq_ok_iff.mpr hraw',
      sameSuccess_of_addsFragments hfragments hu⟩

namespace Worklist

variable {w w' : Worklist}

/-- Two documents of one location wait, of which the same becomes. -/
structure Paired (entry entry' : Url × Json) : Prop where
  location : entry'.1 = entry.1
  proper : entry.1.IsProper
  same : (Node.elaborate entry.1 entry.2).SameSuccess (Node.elaborate entry.1 entry'.2)

/-- Two compilations have come to the same so far, and the same will become of what waits. -/
structure Beside (w w' : Worklist) : Prop where
  pending : List.Forall₂ Paired w.pending w'.pending
  scheduled : w'.scheduled = w.scheduled
  fetched : w'.fetched = w.fetched
  compiled : w'.compiled = w.compiled

/-- Two compilations are side by side, and both are stopped by an error or neither is. -/
structure EndBeside (x x' : Worklist × Option SchemaError) : Prop where
  beside : x.1.Beside x'.1
  stopped : x'.2.isSome = x.2.isSome

/-- Neither compilation is stopped, or both are. -/
theorem EndBeside.cases {x x' : Worklist × Option SchemaError} (h : EndBeside x x') :
    (∃ w w', x = (w, none) ∧ x' = (w', none) ∧ w.Beside w') ∨
      ∃ w w' e e', x = (w, some e) ∧ x' = (w', some e') ∧ w.Beside w' := by
  obtain ⟨w, o⟩ := x
  obtain ⟨w', o'⟩ := x'
  have hstopped : o'.isSome = o.isSome := h.stopped
  cases o with
  | none =>
    cases o' with
    | none => exact .inl ⟨w, w', rfl, rfl, h.beside⟩
    | some e' => cases hstopped
  | some e =>
    cases o' with
    | none => cases hstopped
    | some e' => exact .inr ⟨w, w', e, e', rfl, rfl, h.beside⟩

theorem beside_schedule (h : source.WithFragments source') (registry : Registry)
    (hw : w.Beside w') (hu : u.IsProper) :
    EndBeside (w.schedule source registry u) (w'.schedule source' registry u) := by
  by_cases hknown : registry.has u ∨ u ∈ w.scheduled
  · have hknown' : registry.has u ∨ u ∈ w'.scheduled := by rwa [hw.scheduled]
    rw [schedule_of_known hknown, schedule_of_known hknown']
    exact ⟨hw, rfl⟩
  · obtain ⟨hhas, hmet⟩ := not_or.mp hknown
    have hhas : registry.has u = false := by simpa using hhas
    have hmet' : u ∉ w'.scheduled := by rwa [hw.scheduled]
    rw [schedule_of_unknown hhas hmet, schedule_of_unknown hhas hmet']
    obtain ⟨e, hread, hread'⟩ | ⟨raw, raw', hread, hread', hsame⟩ := read_cases h hu
    · rw [hread, hread']
      exact ⟨⟨hw.pending, hw.scheduled, by simp [hw.fetched], hw.compiled⟩, rfl⟩
    · rw [hread, hread']
      have hlast : List.Forall₂ Paired [(u, raw)] [(u, raw')] := .cons ⟨rfl, hu, hsame⟩ .nil
      exact ⟨⟨List.rel_append hw.pending hlast, by simp [hw.scheduled], by simp [hw.fetched],
        hw.compiled⟩, rfl⟩

theorem beside_scheduleAll (h : source.WithFragments source') (registry : Registry)
    (hw : w.Beside w') {us : List Url} (hus : ∀ u ∈ us, u.IsProper) :
    EndBeside (w.scheduleAll source registry us) (w'.scheduleAll source' registry us) := by
  induction us generalizing w w' with
  | nil =>
    rw [scheduleAll, scheduleAll]
    exact ⟨hw, rfl⟩
  | cons u rest ih =>
    have hfirst := beside_schedule h registry hw (hus u List.mem_cons_self)
    rw [scheduleAll, scheduleAll]
    obtain ⟨w₁, w₁', hx, hx', hw₁⟩ | ⟨w₁, w₁', e, e', hx, hx', hw₁⟩ := hfirst.cases
    · rw [hx, hx']
      exact ih hw₁ fun v hv => hus v (List.mem_cons_of_mem _ hv)
    · rw [hx, hx']
      exact ⟨hw₁, rfl⟩

/-- No document waits in either compilation, or two documents that are paired are next. -/
theorem Beside.pending_cases (hw : w.Beside w') :
    (w.pending = [] ∧ w'.pending = []) ∨ ∃ u raw raw' rest rest',
      w.pending = (u, raw) :: rest ∧ w'.pending = (u, raw') :: rest' ∧ u.IsProper ∧
      (Node.elaborate u raw).SameSuccess (Node.elaborate u raw') ∧
      ({ w with pending := rest } : Worklist).Beside { w' with pending := rest' } := by
  have hpaired := hw.pending
  rcases hpending : w.pending with _ | ⟨⟨u, raw⟩, rest⟩
  · rw [hpending, List.forall₂_nil_left_iff] at hpaired
    exact .inl ⟨rfl, hpaired⟩
  · rw [hpending, List.forall₂_cons_left_iff] at hpaired
    obtain ⟨⟨u', raw'⟩, rest', hfirst, hrest, hpending'⟩ := hpaired
    obtain rfl : u' = u := hfirst.location
    exact .inr ⟨_, raw, raw', rest, rest', rfl, hpending', hfirst.proper, hfirst.same,
      ⟨hrest, hw.scheduled, hw.fetched, hw.compiled⟩⟩

/-- The steps of the two compilations are taken together: what the next document refers to is let
wait before it is known whether it becomes a node. -/
theorem beside_drain (h : source.WithFragments source') (registry : Registry) (limit : Nat)
    (hw : w.Beside w') :
    EndBeside (w.drain source registry limit) (w'.drain source' registry limit) := by
  induction limit generalizing w w' with
  | zero =>
    obtain ⟨hnil, hnil'⟩ | ⟨u, raw, raw', rest, rest', hpending, hpending', -, -, -⟩ :=
      hw.pending_cases
    · rw [drain_of_pending_eq_nil _ hnil, drain_of_pending_eq_nil _ hnil']
      exact ⟨hw, rfl⟩
    · rw [drain.eq_def, drain.eq_def, hpending, hpending']
      exact ⟨hw, rfl⟩
  | succ limit ih =>
    obtain ⟨hnil, hnil'⟩ |
      ⟨u, raw, raw', rest, rest', hpending, hpending', hu, hsame, hrest⟩ := hw.pending_cases
    · rw [drain_of_pending_eq_nil _ hnil, drain_of_pending_eq_nil _ hnil']
      exact ⟨hw, rfl⟩
    · rw [drain_of_pending_eq_cons limit hpending, drain_of_pending_eq_cons limit hpending',
        hsame.references]
      have hreferences : ∀ v ∈ (Node.elaborate u raw).references, v.IsProper := fun v hv =>
        Node.isProper_of_mem_elaborate hu hv
      have hall := beside_scheduleAll h registry hrest hreferences
      obtain ⟨w₁, w₁', hx, hx', hw₁⟩ | ⟨w₁, w₁', e, e', hx, hx', hw₁⟩ := hall.cases
      · rw [hx, hx']
        obtain ⟨node, hnode, hnode'⟩ | ⟨d, d', hdefect, hdefect'⟩ := hsame.result_cases
        · rw [hnode, hnode']
          exact ih ⟨hw₁.pending, hw₁.scheduled, hw₁.fetched, by simp [hw₁.compiled]⟩
        · rw [hdefect, hdefect']
          exact ⟨hw₁, rfl⟩
      · rw [hx, hx']
        exact ⟨hw₁, rfl⟩

end Worklist

theorem beside_collect (h : source.WithFragments source') (registry : Registry)
    (hu : u.IsProper) :
    Worklist.EndBeside (collect source registry u) (collect source' registry u) := by
  have hstart : Worklist.start.Beside Worklist.start := ⟨.nil, rfl, rfl, rfl⟩
  have hfirst := Worklist.beside_schedule h registry hstart hu
  unfold collect
  rw [h.size]
  obtain ⟨w, w', hx, hx', hw⟩ | ⟨w, w', e, e', hx, hx', hw⟩ := hfirst.cases
  · rw [hx, hx']
    exact Worklist.beside_drain h registry source.size hw
  · rw [hx, hx']
    exact ⟨hw, rfl⟩

/-- Two compilations ask for the same locations in the same order and leave the same registry, and
both have the same node as a result or none. -/
structure Alike (c c' : Compilation) : Prop where
  fetched : c'.fetched = c.fetched
  registry : c'.registry = c.registry
  result : c'.result.toOption = c.result.toOption

/-- Fragments behind references make no difference to what a location is compiled to, whatever is
registered. -/
theorem alike_compile (h : source.WithFragments source') (registry : Registry) {location : Url}
    (hlocation : location.IsProper) :
    Alike (compile source registry location) (compile source' registry location) := by
  rw [compile_eq, compile_eq]
  have hcollect := beside_collect h registry hlocation.withoutFragment
  obtain ⟨w, w', hx, hx', hw⟩ | ⟨w, w', e, e', hx, hx', hw⟩ := hcollect.cases
  · -- The same nodes were made, so that the same loops are found.
    rw [hx, hx']
    simp only [hw.fetched, hw.compiled]
    exact ⟨rfl, rfl, rfl⟩
  · rw [hx, hx']
    exact ⟨hw.fetched, rfl, rfl⟩

end Compilation
end DraftSchema
