import DraftSchema.Proofs.Session.Independence

/-!
# `DraftSchema.Proofs.Session.Laziness`: compiling on demand or beforehand

A check compiles what a reference leads to when it meets the reference. With one source it
answers as if all schemas of the source had been compiled before (`Library`), and what could
not be compiled had been found out before (`refusals`). What was compiled in the meantime,
and how many references may therefore be followed, has no influence. The theorems:

* `exists_library`: a source with finitely many documents has such a registry.
* `Library.always_validate`, `Library.always_accepts` and `Library.always_describe`: the
  answers are the same in all sessions with that source.
* `checks_independent`: the property of all runs, for nodes that refer to whatever location.
-/

set_option autoImplicit false

namespace DraftSchema.Session

open Compilation (History)

variable {source : Source} {r : Registry}

/-! ### All schemas of a source -/

/-- A registry with the nodes of all locations of a source that can be compiled. -/
structure Library (source : Source) (r : Registry) : Prop where
  history : History source r
  size_le : r.size ≤ source.size
  get?_iff : ∀ u n, r.get? u = some n ↔ (Compilation.compile source ∅ u).result = .ok n

/-- Fragments do not count where a compilation starts. -/
theorem compile_withoutFragment (source : Source) (registry : Registry) (u : Url) :
    Compilation.compile source registry u.withoutFragment
      = Compilation.compile source registry u := by
  simp only [Compilation.compile, Url.withoutFragment_withoutFragment]

/-- A location that can be compiled is one that the source answers with a document. -/
theorem mem_of_compile {locations : List Url} (honly : source.AnswersOnly locations) {u : Url}
    {n : Node} (h : (Compilation.compile source ∅ u).result = .ok n) :
    u.withoutFragment ∈ locations := by
  have hget := Compilation.get?_of_compile h
  obtain ⟨raw, hread, -⟩ := ((History.empty source).compile u).madeFrom u n hget
  exact Compilation.Worklist.mem_of_read honly hread

/-- Asking for all locations of a source, one after the other, compiles all its schemas. -/
theorem exists_library (hsized : source.Sized) : ∃ r, Library source r := by
  obtain ⟨locations, hlength, honly⟩ := id hsized
  let requests := locations.map Request.get
  have hhand : ∀ request ∈ requests, request.byHand = false := by
    intro request hrequest
    obtain ⟨location, -, rfl⟩ := List.mem_map.mp hrequest
    rfl
  have hhistory : History source (after (requests.map fun request => (source, request))).registry :=
    history_after hhand
  have hkeyed : (after (requests.map fun request => (source, request))).registry.Keyed := by
    refine after_keeps Registry.keyed_empty fun request hrequest => ?_
    obtain ⟨asked, hasked, rfl⟩ := List.mem_map.mp hrequest
    exact ⟨fun _ location hkeyed => Compilation.keyed_compile source hkeyed location,
      hhand asked hasked⟩
  -- Each node is that of another document, and there are no more than the source has.
  refine ⟨_, hhistory, ?_, fun u n => ⟨fun hn => ?_, fun hn => ?_⟩⟩
  · refine (hkeyed.size_le fun u hplain hu => ?_).trans hlength
    obtain ⟨n, hn, raw, hread, -⟩ := hhistory.makes hplain hu
    exact Compilation.Worklist.mem_of_read honly hread
  · rw [← (Compilation.compile_independent hhistory hsized u).1, Compilation.compile_of_get? hn]
  · -- What can be compiled is a location that was asked for.
    have hget := Compilation.get?_of_compile hn
    rw [List.map_map]
    refine (get?_after_gets hsized locations).mpr ⟨_, mem_of_compile honly hn, ?_⟩
    rwa [compile_withoutFragment]

/-- The locations that cannot be compiled, with the errors. -/
def refusals (source : Source) : Refusals where
  reason u :=
    match (Compilation.compile source ∅ u).result with
    | .ok _ => none
    | .error e => some (.failed e)
  hops := 1
  hops_pos _ _ _ := Nat.zero_lt_one

/-- Every location can be compiled or not. -/
theorem Library.decides (hr : Library source r) (u : Url) : (refusals source).Decides r u := by
  unfold Refusals.Decides refusals
  rcases hresult : (Compilation.compile source ∅ u).result with e | n
  · exact .inr (by simp [hresult])
  · exact .inl (Registry.has_iff.mpr ⟨n, (hr.get?_iff u n).mpr hresult⟩)

/-! ### Sessions with one source -/

/-- In every session whose nodes are those of the source the action returns the value, and
all nodes of the session stay such nodes. -/
def Always (source : Source) {α : Type} (x : StateM Session α) (a : α) : Prop :=
  ∀ s : Session, History source s.registry →
    (x.run s).1 = a ∧ History source (x.run s).2.registry

theorem always_pure {α : Type} (a : α) : Always source (pure a) a := fun _ hs => ⟨rfl, hs⟩

theorem Always.bind {α β : Type} {x : StateM Session α} {f : α → StateM Session β} {a : α} {b : β}
    (hx : Always source x a) (hf : Always source (f a) b) : Always source (x >>= f) b := by
  intro s hs
  obtain ⟨hvalue, hhistory⟩ := hx s hs
  have hnext := hf _ hhistory
  rw [← hvalue] at hnext
  exact hnext

/-- What is always returned for each element of a list is always returned for the list. -/
theorem always_mapM {α β : Type} {f : α → StateM Session β} {g : α → β} {l : List α}
    (h : ∀ a ∈ l, Always source (f a) (g a)) : Always source (l.mapM f) (l.map g) := by
  induction l with
  | nil => exact always_pure []
  | cons a rest ih =>
    rw [List.mapM_cons, List.map_cons]
    refine (h a List.mem_cons_self).bind ?_
    exact (ih fun b hb => h b (List.mem_cons_of_mem _ hb)).bind (always_pure _)

/-- Asking for a node has one outcome, whatever was compiled before. -/
theorem always_get? (hsized : source.Sized) (u : Url) :
    Always source (get? source u) (Compilation.compile source ∅ u).result := by
  intro s hs
  rw [run_get?, run_compile]
  exact ⟨(Compilation.compile_independent hs hsized u).1, hs.compile u⟩

namespace Library

/-- The sessions with one source are a server of all its schemas. -/
def server (hr : Library source r) (hsized : source.Sized) (limit : Nat)
    (hlimit : r.size + 1 ≤ limit) : r.Server (refusals source) where
  m := StateM Session
  monad := inferInstance
  resolver := { resolver source ∅ with limit }
  returns := Always source
  returns_pure := always_pure
  returns_bind := .bind
  resolves {u n} hn := by
    have hget := always_get? hsized u
    rw [(hr.get?_iff u n).mp hn] at hget
    exact hget.bind (always_pure _)
  refuses {u e} _ he := by
    have hget := always_get? hsized u
    rcases hresult : (Compilation.compile source ∅ u).result with e' | n
    · simp only [refusals, hresult, Option.some_inj] at he
      rw [hresult] at hget
      exact he ▸ hget.bind (always_pure _)
    · simp [refusals, hresult] at he
  enough := hlimit

/-- What every server of the schemas returns, under whatever bound, every session returns
under the bound that it has. -/
theorem exists_always (hr : Library source r) (hsized : source.Sized) {α : Type} {bound : Nat}
    (hbound : bound ≤ r.size + 1) {x : (s : r.Server (refusals source)) → Nat → s.m α}
    (hx : r.Settles (refusals source) bound x) {y : StateM Session α}
    (hy : ∀ s : Session, ∃ limit, ∃ hlimit : r.size + 1 ≤ limit,
      y.run s = StateT.run (x (hr.server hsized limit hlimit) limit) s) :
    ∃ a, Always source y a := by
  obtain ⟨a, ha⟩ := hx
  refine ⟨a, fun s hs => ?_⟩
  obtain ⟨limit, hlimit, hrun⟩ := hy s
  rw [hrun]
  exact ha (hr.server hsized limit hlimit) limit (hbound.trans hlimit) s hs

/-- The bound of every session suffices for all schemas of its source. -/
theorem size_lt_limit (hr : Library source r) (s : Session) :
    r.size + 1 ≤ s.registry.size + source.size + 1 := by
  have hsize := hr.size_le
  omega

variable (hr : Library source r) (hsized : source.Sized) (n : Node)

include hr hsized

/-- What a document violates is the same in all sessions with one source. -/
theorem always_validate (document : Json) :
    ∃ found, Always source (validate source n document) found :=
  hr.exists_always hsized (Refusals.need_le_size hr.history.sound.acyclic n)
    (Registry.settles_validate hr.history.sound (fun u _ => hr.decides u) document)
    fun s => ⟨_, hr.size_lt_limit s, rfl⟩

/-- So is whether the document is of an accepted type. -/
theorem always_accepts (document : Json) :
    ∃ accepted, Always source (accepts source n document) accepted :=
  hr.exists_always hsized (Refusals.need_le_size hr.history.sound.acyclic n)
    (Registry.settles_accepts hr.history.sound (fun u _ => hr.decides u) document)
    fun s => ⟨_, hr.size_lt_limit s, rfl⟩

/-- So is the name of the accepted types. -/
theorem always_describe : ∃ name, Always source (describe source n) name :=
  hr.exists_always hsized (Refusals.need_le_size hr.history.sound.acyclic n)
    (Registry.settles_describe hr.history.sound fun u _ => hr.decides u)
    fun s => ⟨_, hr.size_lt_limit s, rfl⟩

end Library

/-! ### Runs -/

/-- With one source that has finitely many documents: a node that was made by hand, whatever
locations it refers to, has the same answers after all runs that register nothing by hand,
the texts of references that cannot be resolved included. So what a check compiles on demand
counts as if it had been compiled before. Documents that are checked one after the other, in
whatever order and how often, get the answers that each of them gets alone. -/
theorem checks_independent (hsized : source.Sized) {requests requests' : List Request}
    (h : ∀ request ∈ requests, request.byHand = false)
    (h' : ∀ request ∈ requests', request.byHand = false) (n : Node) :
    (∀ document : Json,
      ((validate source n document).run
          (after (requests.map fun request => (source, request)))).1
        = ((validate source n document).run
          (after (requests'.map fun request => (source, request)))).1 ∧
      ((accepts source n document).run
          (after (requests.map fun request => (source, request)))).1
        = ((accepts source n document).run
          (after (requests'.map fun request => (source, request)))).1) ∧
    ((describe source n).run (after (requests.map fun request => (source, request)))).1
      = ((describe source n).run (after (requests'.map fun request => (source, request)))).1 ∧
    ∀ documents : List Json,
      ((documents.mapM (validate source n)).run
          (after (requests.map fun request => (source, request)))).1
        = documents.map fun document => ((validate source n document).run
          (after (requests'.map fun request => (source, request)))).1 := by
  -- In both sessions the answers are those of the source with all its schemas.
  obtain ⟨r, hr⟩ := exists_library hsized
  have hs : History source (after (requests.map fun request => (source, request))).registry :=
    history_after h
  have hs' : History source (after (requests'.map fun request => (source, request))).registry :=
    history_after h'
  refine ⟨fun document => ⟨?_, ?_⟩, ?_, fun documents => ?_⟩
  · obtain ⟨found, hfound⟩ := hr.always_validate hsized n document
    exact (hfound _ hs).1.trans (hfound _ hs').1.symm
  · obtain ⟨accepted, haccepted⟩ := hr.always_accepts hsized n document
    exact (haccepted _ hs).1.trans (haccepted _ hs').1.symm
  · obtain ⟨name, hname⟩ := hr.always_describe hsized n
    exact (hname _ hs).1.trans (hname _ hs').1.symm
  · refine (always_mapM (g := fun document => ((validate source n document).run
      (after (requests'.map fun request => (source, request)))).1) (fun document _ => ?_) _ hs).1
    obtain ⟨found, hfound⟩ := hr.always_validate hsized n document
    rwa [(hfound _ hs').1]

/-- A session that has just begun checks a reference to the schema of linked lists as one in
which the schema was asked for. -/
theorem linkedList_checked_on_demand :
    ((validate LinkedList.source (.reference LinkedList.location) .null).run start).1
      = [Resolver.violation .notAnObject] := by
  have hsized : LinkedList.source.Sized := Source.sized_ofDocuments _
  have hsound : (after [(LinkedList.source, .get LinkedList.location)]).registry.Sound :=
    sound_after (by simp [Request.byHand])
  have hclosed : (Node.reference LinkedList.location).ClosedIn
      (after [(LinkedList.source, .get LinkedList.location)]).registry :=
    Node.closedIn_reference LinkedList.get?_after
  have hnone : ∀ request ∈ ([] : List Request), request.byHand = false := by simp
  have hget : ∀ request ∈ [Request.get LinkedList.location], request.byHand = false := by
    simp [Request.byHand]
  have hsame := ((checks_independent hsized hnone hget (.reference LinkedList.location)).1 .null).1
  refine hsame.trans ?_
  rw [List.map_singleton, run_validate hsound hclosed,
    Registry.violations_reference hsound LinkedList.get?_after, LinkedList.node]
  exact Registry.violations_object_of_not _ _ _ (by simp)

end DraftSchema.Session
