import DraftSchema.Proofs.Compilation.Independence
import DraftSchema.Proofs.Session.Runs

/-!
# `DraftSchema.Proofs.Session.Independence`: outcomes do not depend on earlier requests

With one source that does not change, what was asked for before has no influence on what
a location is compiled to, or on the error that its compilation ends with. The order of
requests thus does not count for what is registered in the end. The theorems:

* `history_after`: all nodes are those of the documents of the source.
* `get?_after_gets`: after some locations were asked for, what is registered is what the
  compilation of one of them registers alone.
* `get?_independent`: the property of all runs.
-/

set_option autoImplicit false

namespace DraftSchema.Session

open Compilation (History)

variable {source : Source}

/-- With one source, the nodes of a registry that was filled by compilations are those of
its documents. -/
theorem history_after {requests : List Request}
    (h : ∀ request ∈ requests, request.byHand = false) :
    History source (after (requests.map fun request => (source, request))).registry := by
  refine after_keeps (.empty source) fun request hrequest => ?_
  obtain ⟨asked, hasked, rfl⟩ := List.mem_map.mp hrequest
  exact ⟨fun _ location hhistory => hhistory.compile location, h asked hasked⟩

/-- The registry after one location was asked for. -/
theorem registry_run_get (s : Session) (location : Url) :
    ((Request.run source (.get location)).run s).2.registry
      = (Compilation.compile source s.registry location).registry := by
  show ((get? source location).run s).2.registry = _
  rw [run_get?]
  rfl

/-- After some locations were asked for, the registered nodes are those that the
compilations of the locations register alone. -/
theorem get?_after_gets (hsized : source.Sized) (locations : List Url) {u : Url} {n : Node} :
    (after (locations.map fun location => (source, .get location))).registry.get? u = some n ↔
      ∃ location ∈ locations,
        (Compilation.compile source ∅ location).registry.get? u = some n := by
  suffices hfold : ∀ s : Session, History source s.registry →
      (((locations.map fun location => (source, Request.get location)).foldl
        (fun s request => ((request.2.run request.1).run s).2) s).registry.get? u = some n ↔
          s.registry.get? u = some n ∨ ∃ location ∈ locations,
            (Compilation.compile source ∅ location).registry.get? u = some n) by
    have hstart := hfold start (.empty source)
    rwa [show start.registry = ∅ from rfl, Registry.get?_empty, or_iff_right (by simp)] at hstart
  -- What was registered before is kept, so the induction is for every session.
  induction locations with
  | nil => exact fun s _ => by simp
  | cons location rest ih =>
    intro s hs
    have hindependent := (Compilation.compile_independent hs hsized location).2 u
    have hstep := ih ((Request.run source (.get location)).run s).2
      (registry_run_get s location ▸ hs.compile location)
    rw [registry_run_get, hindependent] at hstep
    have halone := ((History.empty source).compile location).madeFrom u
    rw [List.map_cons, List.foldl_cons, hstep, List.exists_mem_cons_iff, ← or_assoc]
    refine or_congr_left ?_
    rcases hold : s.registry.get? u with _ | n₁
    · simp
    · rw [Option.some_or]
      refine ⟨.inl, fun hor => hor.elim id fun hnew => ?_⟩
      -- Both are the node of one document.
      rw [(hs.madeFrom u n₁ hold).unique (halone n hnew)]

/-- With one source that has finitely many documents: whatever was asked for before, with
whatever success, a location is compiled to the same node or fails with the same error
as in a session that has just begun; and some locations that are asked for in whatever
order leave the same nodes registered. -/
theorem get?_independent (hsized : source.Sized) :
    (∀ requests : List Request, (∀ request ∈ requests, request.byHand = false) →
      ∀ location : Url,
        ((get? source location).run
            (after (requests.map fun request => (source, request)))).1
          = ((get? source location).run start).1) ∧
      ∀ locations locations' : List Url, locations.Perm locations' → ∀ u : Url,
        (after (locations.map fun location => (source, .get location))).registry.get? u
          = (after (locations'.map fun location => (source, .get location))).registry.get? u := by
  refine ⟨fun requests h location => ?_, fun locations locations' hperm u => ?_⟩
  · rw [run_get?, run_get?, run_compile, run_compile]
    exact (Compilation.compile_independent (history_after h) hsized location).1
  · refine Option.ext fun n => ?_
    rw [get?_after_gets hsized, get?_after_gets hsized]
    simp only [hperm.mem_iff]

/-- After a compilation and a request for a location without a document, the schema of
linked lists is compiled as in the beginning. -/
theorem get?_linkedList_independent :
    ((get? LinkedList.source LinkedList.location).run
        (after [(LinkedList.source, .compile LinkedList.location),
          (LinkedList.source, .get { LinkedList.location with path := "/other" })])).1
      = .ok LinkedList.node := by
  have hsized : LinkedList.source.Sized := Source.sized_ofDocuments _
  have hsame := (get?_independent hsized).1
    [.compile LinkedList.location, .get { LinkedList.location with path := "/other" }]
    (by simp [Request.byHand]) LinkedList.location
  rw [run_get? _ _ start, run_compile] at hsame
  exact hsame.trans (congrArg Compilation.result LinkedList.compile_source)

end DraftSchema.Session
