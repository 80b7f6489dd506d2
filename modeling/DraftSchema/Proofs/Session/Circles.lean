import DraftSchema.Proofs.Session.Runs

/-!
# `DraftSchema.Proofs.Session.Circles`: references made by hand and circles

A compilation is not to register locations that leave it to themselves, by way of others,
which types they accept. It looks for loops in the nodes that it is about to register and
in those that are registered. The search takes locations as they are written, and a
reference that was made by hand may have a fragment: then the search does not see that it
leads to a new location, and the fragment does not count any more when the reference is
followed. The theorems:

* `circleFree_of_get?`: where no reference with a fragment leads to a new location, no circle
  can be reached from the new locations.
* `closes_circle`: a circle that is registered otherwise.
-/

set_option autoImplicit false

namespace DraftSchema

open Relation

namespace Session

/-- Let a location be compiled in a session, which may have nodes that were made by hand.
Where none of those leads to a new location by a reference with a fragment, no circle can be
reached from the new locations, and the checks of one value against a new node come to an
end. If there was no circle before, there is none at all, and every check comes to an
end. -/
theorem circleFree_of_get? {source : Source} {location : Url} {node : Node} {s s' : Session}
    (h : (get? source location).run s = (.ok node, s') ∨
      (compile source location).run s = (.ok node, s'))
    (hplain : s.registry.LeadsPlainly s'.registry) :
    (∀ u n, s'.registry.get? u = some n → s.registry.has u = false →
      s'.registry.CircleFree u.withoutFragment ∧ ∀ v, s'.registry.Ends n v) ∧
    (s.registry.Acyclic → s'.registry.Acyclic ∧ WellFounded s'.registry.Calls) := by
  rw [run_get?, or_self, run_compile] at h
  obtain ⟨hresult, rfl⟩ := Prod.mk.inj h
  rcases Compilation.compile_cases source s.registry location with
    ⟨fetched, e, hc⟩ | ⟨fetched, batch, n, hbatch, hloop, -, hc⟩
  · rw [hc] at hresult
    cases hresult
  · simp only [hc] at hplain ⊢
    refine ⟨fun u n hn hu => ?_, fun hacyclic => ?_⟩
    · have hmem : u.withoutFragment ∈ batch.map (·.1) :=
        List.mem_map_of_mem (hbatch.mem_of_get?_registerAll hn hu)
      have hfree := hbatch.circleFree_registerAll hplain hloop hmem
      rw [← Registry.get?_withoutFragment] at hn
      exact ⟨hfree, hfree.ends hn⟩
    · have hacyclic' := hbatch.acyclic_registerAll hplain hacyclic hloop
      exact ⟨hacyclic', Registry.wellFounded_calls hacyclic'⟩

end Session

/-! ### An example: a detour

The schema at one location refers to another location, at which a reference is registered
by hand. -/

namespace Detour

/-- The locations of the directory in which the schema is. -/
def file (name : String) (fragment : Option String) : Url :=
  ⟨"file", some ⟨"", "", none, none⟩, "/" ++ name, none, fragment⟩

/-- Where the schema is. -/
def location : Url := file "here" none

/-- What the schema refers to. -/
def detour : Url := file "detour" none

/-- The value of the schema. -/
def raw : Json := .object [("$ref", .string "detour")]

/-- A source that has the schema and nothing else. -/
def source : Source := .ofDocuments [(location, .ok raw.compact)]

theorem read_source : Compilation.Worklist.read source location = .ok raw := by cbv

theorem elaborate_raw : Node.elaborate location raw = ⟨[detour], .ok (.reference detour)⟩ := by
  have hresolve : Reference.resolve location "detour" = .ok detour := by cbv
  simp [raw, Node.elaborate.eq_def, Node.elaborateReference, Json.Members.get?, hresolve]

/-- Where the detour is registered and no loop is found, the schema is registered. -/
theorem compile_source {r : Registry} (hdetour : r.has detour) (hnew : r.has location = false)
    (hloop : Compilation.findLoop? r [(location, .reference detour)] = none) :
    Compilation.compile source r location =
      ⟨[location], r.register location (.reference detour), .ok (.reference detour)⟩ := by
  refine Compilation.compile_single rfl hnew Nat.zero_lt_one read_source ?_ ?_ hloop
  · rw [elaborate_raw]
  · intro v hv
    rw [elaborate_raw, List.mem_singleton] at hv
    exact .inl (hv ▸ hdetour)

end Detour

namespace Session

open Detour

/-- Let the detour lead back to the schema, by a reference with a fragment. Then the schema
is registered, and each of the two leaves it to the other which types it accepts. -/
theorem closes_circle :
    let s := after [(source, .register detour (.reference (file "here" (some "part"))))]
    ∃ s', (get? source location).run s = (.ok (.reference detour), s') ∧
      s.registry.has location = false ∧ TransGen s'.registry.Gate location location := by
  intro s
  have hloop : Compilation.findLoop? s.registry [(location, .reference detour)] = none := by cbv
  have hcompile := compile_source (r := s.registry) rfl rfl hloop
  refine ⟨⟨s.registry.register location (.reference detour), [location]⟩, ?_, rfl, ?_⟩
  · rw [run_get?, run_compile, hcompile]
    rfl
  · have hthere : (s.registry.register location (.reference detour)).Gate location detour :=
      ⟨.reference detour, rfl, detour, by simp [Node.gates], rfl⟩
    have hback : (s.registry.register location (.reference detour)).Gate detour location :=
      ⟨.reference (file "here" (some "part")), rfl, file "here" (some "part"),
        by simp [Node.gates], rfl⟩
    exact .tail (.single hthere) hback

/-- Let the detour lead on to a third location, by a reference with a fragment. Then no
circle can be reached from the schema. -/
theorem detour_circleFree :
    let s := after
      [(source, .register detour (.reference (file "beyond" (some "part")))),
        (source, .register (file "beyond" none) .any)]
    ∃ s', (get? source location).run s = (.ok (.reference detour), s') ∧
      s'.registry.CircleFree location ∧ ∀ v, s'.registry.Ends (.reference detour) v := by
  intro s
  have hloop : Compilation.findLoop? s.registry [(location, .reference detour)] = none := by cbv
  have hcompile := compile_source (r := s.registry) rfl rfl hloop
  have hrun : (get? source location).run s = (.ok (.reference detour),
      ⟨s.registry.register location (.reference detour), [location]⟩) := by
    rw [run_get?, run_compile, hcompile]
    rfl
  have hplain : s.registry.LeadsPlainly (s.registry.register location (.reference detour)) := by
    -- The only reference with a fragment leads to a location that is registered by hand.
    intro u n hn t ht _ _
    obtain ⟨l₁, l₂, hl, -⟩ := List.lookup_eq_some_iff.mp hn
    have hmem : (u.withoutFragment, n) ∈ s.registry.entries := by simp [hl]
    have hentries : s.registry.entries = [(detour, .reference (file "beyond" (some "part"))),
      (file "beyond" none, .any)] := rfl
    rw [hentries, List.mem_cons, List.mem_singleton, Prod.mk.injEq, Prod.mk.injEq] at hmem
    rcases hmem with ⟨-, rfl⟩ | ⟨-, rfl⟩
    · rw [Node.gates, List.mem_singleton] at ht
      rw [ht]
      rfl
    · simp [Node.any, Node.gates] at ht
  obtain ⟨hnew, -⟩ := circleFree_of_get? (.inl hrun) hplain
  obtain ⟨hfree, hends⟩ := hnew location (.reference detour) rfl rfl
  exact ⟨_, hrun, hfree, hends⟩

end Session
end DraftSchema
