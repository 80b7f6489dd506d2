import DraftSchema.Proofs.Language.Acceptance
import DraftSchema.Proofs.Language.Extraction
import DraftSchema.Proofs.Registry.Inlining

/-!
# `DraftSchema.Proofs.Compilation.Extraction`: a schema that gets a document of its own

A schema is taken out of a document and becomes a document of its own, at a location that was
not in use (`Extraction`). From the compiled schemas of one source those of the other one are
made, by putting the node of the schema that was taken out into the place of the reference to
it, or the reference into the place of the node. A circle of one becomes a circle of the
other. The theorems:

* `Extraction.makes_home_iff`: the nodes of the document from which the schema was taken out.
* `Extraction.exists_inlines`: from the second source to the first one.
* `Extraction.exists_outlined`: from the first source to the second one.
* `Extraction.exists_compile_iff`: the same locations can be compiled.
-/

set_option autoImplicit false

namespace DraftSchema.Compilation

open Relation

/-! ### Histories -/

/-- A location can be compiled exactly if some sound registry has it, all of whose nodes are
those of the documents of the source. -/
theorem exists_compile_iff_history {source : Source} (hsized : source.Sized) (location : Url) :
    (∃ n, (compile source ∅ location).result = .ok n) ↔
      ∃ registry, History source registry ∧ registry.has location := by
  refine ⟨fun ⟨n, hn⟩ => ?_, fun ⟨registry, hhistory, hhas⟩ => ?_⟩
  · exact ⟨_, (History.empty source).compile location,
      Registry.has_iff.mpr ⟨n, get?_of_compile hn⟩⟩
  · obtain ⟨n, hn⟩ := Registry.has_iff.mp hhas
    refine ⟨n, ?_⟩
    rw [← (compile_independent hhistory hsized location).1, compile_of_get? hn]

/-- What it is compiled to is the node that such a registry has. -/
theorem result_of_history {source : Source} {registry : Registry} (h : History source registry)
    (hsized : source.Sized) {location : Url} {n : Node} (hn : registry.get? location = some n) :
    (compile source ∅ location).result = .ok n := by
  rw [← (compile_independent h hsized location).1, compile_of_get? hn]

/-- The node of a document is made from its value. -/
theorem makes_iff_of_holds {source : Source} {u : Url} {raw : Json} (h : source.Holds u raw)
    {n : Node} : Makes source u n ↔ (Node.elaborate u raw).result = .ok n := by
  refine ⟨?_, fun hn => ⟨raw, read_eq_ok_iff.mpr h, hn⟩⟩
  rintro ⟨raw', hread, hn⟩
  rwa [(read_eq_ok_iff.mp hread).unique h] at hn

/-! ### Two sources -/

/-- In the second source a schema of the document at `home` is a document of its own, at a
location `away` where the first source has no document and to which none of its documents
refers. The other documents are the same. -/
structure Extraction (source source' : Source) (home away : Url) where
  raw : Json
  raw' : Json
  /-- The schema that is taken out. -/
  part : Json.Members
  /-- What is written in its place. -/
  reference : String
  sized : source.Sized
  sized' : source'.Sized
  plain : home.withoutFragment = home
  holds : source.Holds home raw
  holds' : source'.Holds home raw'
  holdsPart : source'.Holds away (.object part)
  fetch_eq : ∀ v, v ≠ home → v ≠ away → source'.fetch v = source.fetch v
  extracts : Json.Extracts reference part false raw raw'
  resolves : Reference.resolve home reference = .ok away
  /-- A relative reference would lead elsewhere from the new location. -/
  absolute : (Json.object part).Absolute
  unused : ∀ raw, ¬ source.Holds away raw
  /-- A reference to the new location would lead nowhere before, and to the schema then. -/
  unreferred : ∀ v, ¬ source.Refers v away

namespace Extraction

variable {source source' : Source} {home away v : Url} {n t : Node}
  {r r' : Registry} (h : Extraction source source' home away)

include h

theorem away_plain : away.withoutFragment = away := (Reference.resolve_eq_ok h.resolves).2

/-- Nothing in the document refers to the new location. -/
theorem omits : h.raw.Omits home away := fun inner hinner hrefers =>
  h.unreferred home ⟨h.raw, inner, h.holds, hinner, hrefers⟩

/-- Documents in other places have the same nodes. -/
theorem makes_iff (hhome : v ≠ home) (haway : v ≠ away) : Makes source' v n ↔ Makes source v n := by
  simp only [Makes, Worklist.read, h.fetch_eq v hhome haway]

theorem not_makes_away : ¬ Makes source away n := by
  rintro ⟨raw, hread, -⟩
  exact h.unused raw (read_eq_ok_iff.mp hread)

/-- The document of its own has the node that the schema had where it stood. -/
theorem makes_away_iff :
    Makes source' away t ↔ (Node.elaborate home (.object h.part)).result = .ok t := by
  rw [Node.elaborate_eq_of_absolute h.absolute home away, makes_iff_of_holds h.holdsPart]

/-- The document has the node that it has now, with the node of the schema that was taken out
in the place of the reference. -/
theorem makes_home_iff :
    Makes source home n ↔
      ∃ n' t, Makes source' home n' ∧ Makes source' away t ∧ n'.inline away t = n := by
  simp only [makes_iff_of_holds h.holds, makes_iff_of_holds h.holds', h.makes_away_iff]
  refine ⟨fun hn => ?_, ?_⟩
  · -- A schema that stands in one with a node has a node.
    have hformed := Node.exists_elaborate_iff_wellFormed.mp ⟨n, hn⟩
    obtain ⟨t, ht⟩ : ∃ t, (Node.elaborate home (.object h.part)).result = .ok t :=
      Node.exists_elaborate_iff_wellFormed.mpr fun inner hinner =>
        hformed inner (h.extracts.subschema.trans hinner)
    obtain ⟨n', hn', heq⟩ := (h.extracts.expands h.resolves ht h.omits n).mp hn
    exact ⟨n', t, hn', ht, heq⟩
  · rintro ⟨n', t, hn', ht, heq⟩
    exact (h.extracts.expands h.resolves ht h.omits n).mpr ⟨n', hn', heq⟩

/-- In the first source nothing refers to the new location. -/
theorem avoids (hn : Makes source v n) : n.Avoids away := by
  rintro w hw rfl
  rw [hn.plain hw] at h
  exact h.unreferred v (hn.mem_references_iff.mp hw)

/-- Nor does the schema that was taken out. -/
theorem avoids_away (ht : Makes source' away t) : t.Avoids away :=
  Node.avoids_of_omits (h.omits.of_subschema h.extracts.subschema) (h.makes_away_iff.mp ht)

/-- In the second source the document refers to it. -/
theorem mem_references (hn : Makes source' home n) : away ∈ n.references := by
  obtain ⟨inner, hinner, hrefers⟩ := h.extracts.refersTo h.resolves
  exact hn.mem_references_iff.mpr ⟨h.raw', inner, h.holds', hinner, hrefers⟩

/-! ### From one source to the other one -/

/-- From schemas of the second source those of the first one are made. -/
theorem exists_inlines (hr' : History source' r') :
    ∃ r t, History source r ∧ Registry.Inlines r r' away t ∧
      ∀ w, w.withoutFragment ≠ away → r'.has w → r.has w := by
  -- Where the second registry has no node at the new location no node refers to it.
  let t := (r'.get? away).getD Node.any
  have htarget : ∀ n, r'.get? away = some n → n = t := fun n hn => by simp [t, hn]
  have hmade : r'.has away → Makes source' away t := by
    intro hhas
    obtain ⟨n, hn⟩ := Registry.has_iff.mp hhas
    have hmade := hr'.madeFrom away n hn
    rwa [h.away_plain, htarget n hn] at hmade
  have havoids : t.Avoids away := by
    rcases hget : r'.get? away with _ | n
    · simp [t, hget, Node.any, Node.Avoids, Node.references]
    · exact h.avoids_away (hmade (Registry.has_iff.mpr ⟨n, hget⟩))
  have hinlines := Registry.inlines_inlined hr'.sound htarget havoids
  refine ⟨r'.inlined away t, t, ⟨hinlines.sound, fun w n hn => ?_⟩, hinlines,
    fun w => Registry.has_inlined⟩
  obtain ⟨haway, m, hm, rfl⟩ := Registry.get?_inlined_eq_some_iff.mp hn
  have hm' := hr'.madeFrom w m hm
  by_cases hhome : w.withoutFragment = home
  · -- The document refers to the new location, which is thus registered too.
    rw [hhome] at hm' ⊢
    have hhas : r'.has away := hr'.sound.closed w m hm away (h.mem_references hm')
    exact h.makes_home_iff.mpr ⟨m, t, hm', hmade hhas, rfl⟩
  · rw [h.makes_iff hhome haway] at hm'
    rwa [Node.inline_of_avoids (h.avoids hm')]

/-- Schemas of the first source are not at the new location. -/
theorem ne_away_of_get? (hr : History source r) (hn : r.get? v = some n) :
    v.withoutFragment ≠ away := by
  intro heq
  have hmade := hr.madeFrom v n hn
  rw [heq] at hmade
  exact h.not_makes_away hmade

/-- Those of other documents are schemas of the second source too. -/
theorem makes_of_get? (hr : History source r) (hn : r.get? v = some n)
    (hhome : v.withoutFragment ≠ home) : Makes source' v.withoutFragment n :=
  (h.makes_iff hhome (h.ne_away_of_get? hr hn)).mpr (hr.madeFrom v n hn)

/-- A reference can be put into the place of the node that is taken out. -/
theorem outlines (hr : History source r) (hn : Makes source' home n) (ht : Makes source' away t)
    (hhome : r.get? home = some (n.inline away t)) : Registry.Outlines r home away n t where
  sound := hr.sound
  plain := h.away_plain
  node := hhome
  refers := h.mem_references hn
  avoids := h.avoids_away ht
  unreferred w m hm := h.avoids (hr.madeFrom w m hm)

/-- From schemas of the first source those of the second one are made. -/
theorem exists_outlined (hr : History source r) :
    ∃ r', History source' r' ∧ ∀ w, r.has w → r'.has w := by
  rcases hhome : r.get? home with _ | n
  · -- No node is changed, since the only document that is changed has none.
    refine ⟨r, ⟨hr.sound, fun w n hn => h.makes_of_get? hr hn fun heq => ?_⟩, fun _ => id⟩
    rw [← Registry.get?_withoutFragment, heq, hhome] at hn
    cases hn
  · have hmade := hr.madeFrom home n hhome
    rw [h.plain] at hmade
    obtain ⟨n', t, hn', ht, rfl⟩ := h.makes_home_iff.mp hmade
    have hsound := (h.outlines hr hn' ht hhome).sound_outlined
    refine ⟨r.outlined home away n' t, ⟨hsound, fun w m hm => ?_⟩,
      fun w => Registry.has_outlined⟩
    rw [Registry.get?_outlined] at hm
    split at hm
    · rename_i heq
      cases hm
      rwa [heq]
    · split at hm
      · rename_i heq
        cases hm
        rwa [heq]
      · rename_i hne
        exact h.makes_of_get? hr hm hne

/-- The same locations can be compiled. -/
theorem exists_compile_iff {location : Url} (hne : location.withoutFragment ≠ away) :
    (∃ n, (compile source ∅ location).result = .ok n) ↔
      ∃ n, (compile source' ∅ location).result = .ok n := by
  rw [exists_compile_iff_history h.sized, exists_compile_iff_history h.sized']
  constructor
  · rintro ⟨r, hr, hhas⟩
    obtain ⟨r', hr', hmore⟩ := h.exists_outlined hr
    exact ⟨r', hr', hmore location hhas⟩
  · rintro ⟨r', hr', hhas⟩
    obtain ⟨r, _, hr, -, hmore⟩ := h.exists_inlines hr'
    exact ⟨r, hr, hmore location hne hhas⟩

end Extraction
end DraftSchema.Compilation
