import DraftSchema.Proofs.Compilation.Fetches
import DraftSchema.Proofs.Language.Acceptance
import DraftSchema.Proofs.Session.Growth

/-!
# `DraftSchema.Proofs.Session.Fetches`: what a session asks its sources for

A session asks a source for a location only to compile it, and only if it is not registered.
What this means for one request for a schema says `Fetches`, whatever is registered before,
by compilations or by hand. The theorems:

* `fetches_compile`: one request.
* `LooksUp.spares`: look-ups one after the other ask for nothing that is registered when they
  start, because nothing is lost in between.
* `fetches_once`: every request, and every run of requests.
-/

set_option autoImplicit false

namespace DraftSchema.Session

/-! ### One request -/

/-- From one session to the next the schema at a location was asked for, and for that the
source was asked for some locations. -/
structure Fetches (source : Source) (location : Url) (before : Session) (asked : List Url)
    (result : Except SchemaError Node) (after : Session) : Prop where
  log : after.fetched = before.fetched ++ asked
  nodup : asked.Nodup
  /-- Nothing is asked for that is registered. -/
  fresh : ∀ u ∈ asked, before.registry.has u = false
  plain : ∀ u ∈ asked, u.withoutFragment = u
  /-- What a request registers that succeeds is what it asked for. -/
  registered : ∀ n, result = .ok n → ∀ u,
    u.withoutFragment ∈ asked ↔ after.registry.has u ∧ before.registry.has u = false
  /-- Everything but the location itself is referred to by a document that was asked for. -/
  traced : ∀ n, result = .ok n → ∀ u ∈ asked,
    u = location.withoutFragment ∨ ∃ v ∈ asked, source.Refers v u
  returned : ∀ n, result = .ok n → after.registry.get? location.withoutFragment = some n
  known : before.registry.has location → asked = []

/-- Compiling a location asks for no more than it registers. -/
theorem fetches_compile (source : Source) (location : Url) (s : Session) :
    Fetches source location s (Compilation.compile source s.registry location).fetched
      ((compile source location).run s).1 ((compile source location).run s).2 := by
  have hsparing := Compilation.sparing_compile source s.registry location
  rw [run_compile]
  exact {
    log := rfl
    nodup := hsparing.nodup
    fresh := hsparing.fresh
    plain := hsparing.plain
    registered := fun n hn u => Compilation.mem_fetched_compile_iff hn u
    traced := by
      intro n hn u hu
      refine (Compilation.traced_compile hn hu).imp_right ?_
      rintro ⟨v, hv, m, hmakes, href⟩
      exact ⟨v, hv, hmakes.mem_references_iff.mp href⟩
    returned := by
      intro n hn
      rw [Registry.get?_withoutFragment]
      exact Compilation.get?_of_compile hn
    known := by
      intro hhas
      obtain ⟨n, hn⟩ := Registry.has_iff.mp hhas
      rw [Compilation.compile_of_get? hn] }

/-- So does asking for a node. -/
theorem fetches_get? (source : Source) (location : Url) (s : Session) :
    Fetches source location s (Compilation.compile source s.registry location).fetched
      ((get? source location).run s).1 ((get? source location).run s).2 := by
  rw [run_get?]
  exact fetches_compile source location s

/-! ### Many requests -/

/-- From one session to the next nothing was asked for that the first one has registered. -/
def Spares (before after : Session) : Prop :=
  ∃ asked, after.fetched = before.fetched ++ asked ∧ ∀ u ∈ asked, before.registry.has u = false

theorem Spares.refl (s : Session) : Spares s s := ⟨[], by simp, by simp⟩

/-- What is registered in between stays so, and thus is not asked for either. -/
theorem Spares.trans {s₁ s₂ s₃ : Session} (h₁ : Spares s₁ s₂)
    (hkept : s₂.registry.Extends s₁.registry) (h₂ : Spares s₂ s₃) : Spares s₁ s₃ := by
  obtain ⟨asked₁, hlog₁, hfresh₁⟩ := h₁
  obtain ⟨asked₂, hlog₂, hfresh₂⟩ := h₂
  refine ⟨asked₁ ++ asked₂, by rw [hlog₂, hlog₁, List.append_assoc], fun u hu => ?_⟩
  rcases List.mem_append.mp hu with hu | hu
  · exact hfresh₁ u hu
  · -- What is new for the second session is new for the first one.
    have hlater : s₂.registry.has u = false := hfresh₂ u hu
    rcases hhas : s₁.registry.has u
    · rfl
    · rw [hkept.has hhas] at hlater
      cases hlater

theorem Fetches.spares {source : Source} {location : Url} {s s' : Session} {asked : List Url}
    {result : Except SchemaError Node} (h : Fetches source location s asked result s') :
    Spares s s' :=
  ⟨asked, h.log, h.fresh⟩

/-- Look-ups one after the other ask for nothing that is registered when they start. -/
theorem LooksUp.spares {sources : Sources} {s s' : Session} {lookUps : List LookUp}
    (h : LooksUp sources s lookUps s') : Spares s s' := by
  induction h with
  | done s => exact .refl s
  | @next s s' last location result rest hget _ ih =>
    have hfirst := fetches_get? (sources s.fetched) location s
    have hkept := (atomic_get? (sources s.fetched) location s).kept
    rw [hget] at hfirst hkept
    exact hfirst.spares.trans hkept ih

/-- No request asks for anything that is registered. -/
theorem spares_runWith (sources : Sources) (limit : Nat) (s : Session) (request : Request) :
    Spares s ((request.runWith sources limit).run s).2 := by
  rcases hhand : request.byHand
  · obtain ⟨lookUps, h, -⟩ := (grows sources limit s request).onDemand hhand
    exact h.spares
  · -- A node that is made by hand comes from nowhere.
    cases request with
    | register location node => exact .refl s
    | _ => cases hhand

theorem spares_afterMore (s : Session) (requests : List (Sources × Nat × Request)) :
    Spares s (s.afterMore requests) := by
  induction requests generalizing s with
  | nil => exact .refl s
  | cons request rest ih =>
    have hkept := (grows request.1 request.2.1 s request.2.2).kept
    exact (spares_runWith request.1 request.2.1 s request.2.2).trans hkept (ih _)

/-- Neither does checking documents against the schema at a location. -/
theorem spares_validateAll (source : Source) (location : Url) (documents : List Json)
    (s : Session) : Spares s ((validateAll source location documents).run s).2 := by
  have hfirst := fetches_get? source location s
  have hkept := (atomic_get? source location s).kept
  unfold validateAll
  rw [StateT.run_bind]
  rcases hrun : (get? source location).run s with ⟨e | node, s'⟩ <;> rw [hrun] at hfirst hkept
  · exact hfirst.spares
  · obtain ⟨lookUps, hlookUps⟩ := onlyLooksUp_mapM source node documents s'
    exact hfirst.spares.trans hkept hlookUps.spares

/-- Whatever a session has registered, and whatever its sources answer: to compile a location,
or to get its node, no location is asked for twice and none that is registered; if that
succeeds, what was asked for is what is registered now, and comes from the location by
references. What is registered once is never asked for again. -/
theorem fetches_once (s : Session) :
    (∀ (source : Source) (location : Url), ∃ asked, Fetches source location s asked
      ((compile source location).run s).1 ((compile source location).run s).2) ∧
    (∀ (source : Source) (location : Url), ∃ asked, Fetches source location s asked
      ((get? source location).run s).1 ((get? source location).run s).2) ∧
    (∀ (source : Source) (location : Url) (documents : List Json),
      Spares s ((validateAll source location documents).run s).2) ∧
    ∀ requests : List (Sources × Nat × Request), Spares s (s.afterMore requests) := by
  refine ⟨fun source location => ?_, fun source location => ?_,
    fun source location documents => ?_, fun requests => ?_⟩
  · exact ⟨_, fetches_compile source location s⟩
  · exact ⟨_, fetches_get? source location s⟩
  · exact spares_validateAll source location documents s
  · exact spares_afterMore s requests

/-- The schema of linked lists is asked for once, though it refers to itself, and not again
after that. -/
theorem linkedList_fetched_once :
    let s := ((compile LinkedList.source LinkedList.location).run start).2
    s.fetched = [LinkedList.location] ∧
      ∀ requests, ∃ asked, (s.afterMore requests).fetched = LinkedList.location :: asked ∧
        LinkedList.location ∉ asked := by
  intro s
  have hrun : (compile LinkedList.source LinkedList.location).run start
      = (.ok LinkedList.node,
          ⟨⟨[(LinkedList.location, LinkedList.node)]⟩, [LinkedList.location]⟩) := by
    rw [run_compile]
    simp [start, LinkedList.compile_source]
  obtain ⟨hcompile, -⟩ := fetches_once start
  obtain ⟨-, -, -, hafter⟩ := fetches_once s
  obtain ⟨asked, hfetches⟩ := hcompile LinkedList.source LinkedList.location
  have hlog : s.fetched = [LinkedList.location] := congrArg (fun r => r.2.fetched) hrun
  have hhas : s.registry.has LinkedList.location := by
    have hreturned := hfetches.returned LinkedList.node (congrArg Prod.fst hrun)
    rw [LinkedList.withoutFragment_location] at hreturned
    exact Registry.has_iff.mpr ⟨_, hreturned⟩
  refine ⟨hlog, fun requests => ?_⟩
  obtain ⟨more, hmore, hfresh⟩ := hafter requests
  refine ⟨more, by rw [hmore, hlog]; rfl, fun hmem => ?_⟩
  rw [hfresh _ hmem] at hhas
  cases hhas

end DraftSchema.Session
