import DraftSchema.Proofs.Satisfaction.Adequacy
import DraftSchema.Proofs.Session.Runs

/-!
# `DraftSchema.Proofs.Session.Adequacy`: a session decides satisfaction

A session that has just begun compiles a location and checks a document against the node
that it gets. The theorem:

* `validate_eq_nil_iff_satisfies`: nothing is violated exactly if the document satisfies
  the schema at the location, as its text and the texts that it refers to say.
-/

set_option autoImplicit false

namespace DraftSchema.Session

/-- Let a location be compiled in a session that has just begun. Then a document violates
nothing exactly if the source has a schema at the location that the document
satisfies. -/
theorem validate_eq_nil_iff_satisfies {source : Source} {location : Url} {node : Node}
    {s : Session} (h : (get? source location).run start = (.ok node, s)) (document : Json) :
    ((validate source node document).run s).1 = [] ↔
      ∃ raw, source.Holds location.withoutFragment raw ∧
        Satisfies source location.withoutFragment raw document := by
  rw [run_get?, run_compile] at h
  obtain ⟨hresult, rfl⟩ := Prod.mk.inj h
  have hhistory : Compilation.History source
      (Compilation.compile source start.registry location).registry :=
    (Compilation.History.empty source).compile location
  have hget := Compilation.get?_of_compile hresult
  have hclosed := hhistory.sound.closed location node hget
  rw [run_validate hhistory.sound hclosed]
  -- The node was made from the document that the source has at the location.
  obtain ⟨raw, hread, hnode⟩ := hhistory.madeFrom location node hget
  have hholds := Source.holds_of_read hread
  refine (Node.adequate hhistory hclosed document _ raw hnode).trans ⟨fun hsat => ?_, ?_⟩
  · exact ⟨raw, hholds, hsat⟩
  · rintro ⟨raw', hholds', hsat⟩
    exact hholds.unique hholds' ▸ hsat

/-- A linked list with two cells satisfies the schema of linked lists. -/
theorem satisfies_linkedList :
    Satisfies LinkedList.source LinkedList.location LinkedList.raw
      (.object [("next", .object [])]) := by
  have hrun : (get? LinkedList.source LinkedList.location).run start
      = (.ok LinkedList.node, ⟨⟨[(LinkedList.location, LinkedList.node)]⟩,
          [LinkedList.location]⟩) := by
    rw [run_get?, run_compile]
    simp [start, LinkedList.compile_source]
  have hvalid := validate_eq_nil_iff_satisfies hrun (.object [("next", .object [])])
  have hnil : ((validate LinkedList.source LinkedList.node (.object [("next", .object [])])).run
      ⟨⟨[(LinkedList.location, LinkedList.node)]⟩, [LinkedList.location]⟩).1 = [] := by
    cbv
  obtain ⟨raw, hholds, hsat⟩ := hvalid.mp hnil
  rw [LinkedList.withoutFragment_location] at hholds hsat
  exact (Source.holds_of_read LinkedList.read_source).unique hholds ▸ hsat

end DraftSchema.Session
