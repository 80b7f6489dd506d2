import DraftSchema.Proofs.Session.Runs

/-!
# `DraftSchema.Proofs.Session.Growth`: registries that only grow

Whatever a session is asked, no location loses its node or gets another one, and a
compilation that fails leaves the registry as it was. This holds from every registry, also
from one with nodes that were made by hand and refer to nothing.

A source may answer differently each time. Since one compilation asks for no location
twice, it is enough that the source is chosen anew for each compilation, by what was asked
for before (`Sources`). `Request.runWith` works on a request in this way, under any bound on
the number of references that are followed. The theorems:

* `runWith_eq_run`: with a source that does not change this is `Request.run`.
* `LooksUp.atomic`: a check looks references up one after the other, and each look-up that
  fails leaves the registry as it found it.
* `registry_grows`: every request, and every run of requests.
-/

set_option autoImplicit false

namespace DraftSchema

/-- The source as it is after some locations were asked for. -/
abbrev Sources := List Url → Source

/-! ### Registries -/

namespace Registry

theorem Extends.refl (r : Registry) : r.Extends r := fun _ _ hn => hn

theorem Extends.trans {r₁ r₂ r₃ : Registry} (h₂ : r₃.Extends r₂) (h₁ : r₂.Extends r₁) :
    r₃.Extends r₁ := fun u n hn => h₂ u n (h₁ u n hn)

/-- A node that is registered by hand takes no place that is taken. -/
theorem extends_register (r : Registry) (location : Url) (node : Node) :
    (r.register location node).Extends r :=
  fun _ _ hn => get?_register_of_eq_some hn

end Registry

namespace Session

/-! ### Looking references up -/

/-- From one session to the next nothing is lost, and nothing is registered by a failure. -/
structure Atomic {ε α : Type} (before : Session) (result : Except ε α) (after : Session) :
    Prop where
  kept : after.registry.Extends before.registry
  failed : ∀ e, result = .error e → after.registry = before.registry

/-- A compilation loses nothing, and registers nothing if it fails. -/
theorem atomic_compile (source : Source) (location : Url) (s : Session) :
    Atomic s ((compile source location).run s).1 ((compile source location).run s).2 := by
  refine ⟨Compilation.extends_compile source s.registry location, fun e he => ?_⟩
  rw [run_compile] at he ⊢
  rcases Compilation.compile_cases source s.registry location with
    ⟨fetched, e', h⟩ | ⟨fetched, batch, n, -, -, -, h⟩
  · rw [h]
  · rw [h] at he
    cases he

/-- The same is true of asking for a node. -/
theorem atomic_get? (source : Source) (location : Url) (s : Session) :
    Atomic s ((get? source location).run s).1 ((get? source location).run s).2 := by
  rw [run_get?]
  exact atomic_compile source location s

/-- A reference that was looked up, with the session before and after. -/
structure LookUp where
  location : Url
  before : Session
  result : Except SchemaError Node
  after : Session

/-- The second session comes of the first by look-ups, each of which asks the source as it
is then. -/
inductive LooksUp (sources : Sources) : Session → List LookUp → Session → Prop
  | done (s : Session) : LooksUp sources s [] s
  | next {s s' last : Session} {location : Url} {result : Except SchemaError Node}
      {rest : List LookUp} (h : (get? (sources s.fetched) location).run s = (result, s'))
      (hrest : LooksUp sources s' rest last) :
      LooksUp sources s (⟨location, s, result, s'⟩ :: rest) last

namespace LooksUp

variable {sources : Sources} {s s' s'' : Session} {lookUps more : List LookUp}

/-- What comes of a session by look-ups can be asked for more. -/
theorem append (h : LooksUp sources s lookUps s') (hmore : LooksUp sources s' more s'') :
    LooksUp sources s (lookUps ++ more) s'' := by
  induction h with
  | done s => exact hmore
  | next hget _ ih => exact .next hget (ih hmore)

/-- Nothing is lost in any of the look-ups, and one that fails registers nothing. -/
theorem atomic (h : LooksUp sources s lookUps s') :
    ∀ l ∈ lookUps, Atomic l.before l.result l.after := by
  induction h with
  | done s => simp
  | @next s s' last location result rest hget _ ih =>
    have hfirst := atomic_get? (sources s.fetched) location s
    rw [hget] at hfirst
    exact List.forall_mem_cons.mpr ⟨hfirst, ih⟩

/-- Nothing is lost from the first look-up to the last. -/
theorem extends_registry (h : LooksUp sources s lookUps s') : s'.registry.Extends s.registry := by
  induction h with
  | done s => exact .refl _
  | @next s s' last location result rest hget _ ih =>
    have hfirst := atomic_get? (sources s.fetched) location s
    rw [hget] at hfirst
    exact ih.trans hfirst.kept

end LooksUp

/-! ### Checks -/

/-- Resolves references with the source as it is then. -/
def resolverWith (sources : Sources) (limit : Nat) : Resolver (StateM Session) where
  resolve location := do
    match ← get? (sources (← MonadState.get).fetched) location with
    | .ok node => return .ok node
    | .error e => return .error (.failed e)
  limit := limit

/-- All that an action does to a session is looking references up. -/
def OnlyLooksUp (sources : Sources) {α : Type} (x : StateM Session α) : Prop :=
  ∀ s, ∃ lookUps, LooksUp sources s lookUps (x.run s).2

theorem onlyLooksUp_pure (sources : Sources) {α : Type} (a : α) :
    OnlyLooksUp sources (pure a : StateM Session α) := fun s => ⟨[], .done s⟩

theorem OnlyLooksUp.bind {sources : Sources} {α β : Type} {x : StateM Session α}
    {f : α → StateM Session β} (hx : OnlyLooksUp sources x) (hf : ∀ a, OnlyLooksUp sources (f a)) :
    OnlyLooksUp sources (x >>= f) := by
  intro s
  obtain ⟨first, hfirst⟩ := hx s
  obtain ⟨second, hsecond⟩ := hf (x.run s).1 (x.run s).2
  exact ⟨first ++ second, hfirst.append hsecond⟩

/-- One reference is one look-up. -/
theorem onlyLooksUp_resolve (sources : Sources) (limit : Nat) (u : Url) :
    OnlyLooksUp sources ((resolverWith sources limit).resolve u) := by
  intro s
  rcases hrun : (get? (sources s.fetched) u).run s with ⟨result, s'⟩
  have hlast : (((resolverWith sources limit).resolve u).run s).2 = s' := by
    simp only [resolverWith, StateT.run_bind, StateT.run_get, pure_bind, hrun]
    cases result <;> rfl
  refine ⟨[⟨u, s, result, s'⟩], .next hrun ?_⟩
  rw [hlast]
  exact .done s'

/-- A reference that a check meets is looked up with nothing lost, and nothing is registered
if that fails. -/
theorem atomic_resolve (sources : Sources) (limit : Nat) (u : Url) (s : Session) :
    Atomic s (((resolverWith sources limit).resolve u).run s).1
      (((resolverWith sources limit).resolve u).run s).2 := by
  have hget := atomic_get? (sources s.fetched) u s
  simp only [resolverWith, StateT.run_bind, StateT.run_get, pure_bind]
  rcases hrun : (get? (sources s.fetched) u).run s with ⟨e | node, s'⟩ <;> rw [hrun] at hget
  · exact ⟨hget.kept, fun _ _ => hget.failed e rfl⟩
  · exact ⟨hget.kept, fun _ h => nomatch h⟩

/-- All that a check does is looking references up. -/
theorem respects_resolverWith (sources : Sources) (limit : Nat) :
    (resolverWith sources limit).Respects (OnlyLooksUp sources) where
  pure := onlyLooksUp_pure sources
  bind := OnlyLooksUp.bind
  resolve := onlyLooksUp_resolve sources limit

end Session

/-! ### Requests -/

/-- Works on a request with a source that may change between two compilations. At most
`limit` references are followed one after the other. -/
def Request.runWith (sources : Sources) (limit : Nat) : Request → StateM Session Answer
  | get location => do
    return .compiled (← Session.get? (sources (← MonadState.get).fetched) location)
  | compile location => do
    return .compiled (← Session.compile (sources (← MonadState.get).fetched) location)
  | lookup location => do return .found ((← MonadState.get).registry.get? location)
  | has location => do return .told ((← MonadState.get).registry.has location)
  | register location node => .told <$> Session.register location node
  | validate node document =>
    .violated <$> (Session.resolverWith sources limit).validate limit node document
  | accepts node document =>
    .told <$> (Session.resolverWith sources limit).accepts limit node document
  | describe node => .described <$> (Session.resolverWith sources limit).describe limit node

/-- With a source that does not change a request is worked on as usual. -/
theorem Request.runWith_eq_run (source : Source) (request : Request) (s : Session) :
    (request.runWith (fun _ => source) (s.registry.size + source.size + 1)).run s
      = (request.run source).run s := by
  cases request <;> rfl

namespace Session

/-- What a request does to the registry of a session. -/
structure Grows (sources : Sources) (limit : Nat) (s : Session) (request : Request) : Prop where
  /-- No location loses its node or gets another one. -/
  kept : ((request.runWith sources limit).run s).2.registry.Extends s.registry
  /-- A compilation that fails registers nothing. -/
  failed : ∀ e, ((request.runWith sources limit).run s).1 = .compiled (.error e) →
    ((request.runWith sources limit).run s).2.registry = s.registry
  /-- All that a request compiles, it compiles by look-ups, where it was asked to or where a
  check meets a reference. None of them that fails registers anything. -/
  onDemand : request.byHand = false →
    ∃ lookUps, LooksUp sources s lookUps ((request.runWith sources limit).run s).2 ∧
      ∀ l ∈ lookUps, Atomic l.before l.result l.after

/-- A request that does nothing but looking references up, and answers with no failure that
is not one of them, lets the registry grow. -/
theorem grows_of_looksUp {sources : Sources} {limit : Nat} {s : Session} {request : Request}
    {lookUps : List LookUp}
    (h : LooksUp sources s lookUps ((request.runWith sources limit).run s).2)
    (hfailed : ∀ e, ((request.runWith sources limit).run s).1 = .compiled (.error e) →
      ((request.runWith sources limit).run s).2.registry = s.registry) :
    Grows sources limit s request where
  kept := h.extends_registry
  failed := hfailed
  onDemand _ := ⟨lookUps, h, h.atomic⟩

/-- Every request lets the registry grow. -/
theorem grows (sources : Sources) (limit : Nat) (s : Session) (request : Request) :
    Grows sources limit s request := by
  have hresolver := respects_resolverWith sources limit
  -- A request for a node is a single look-up.
  have hsingle : ∀ location, LooksUp sources s
      [⟨location, s, ((get? (sources s.fetched) location).run s).1,
        ((get? (sources s.fetched) location).run s).2⟩]
      ((get? (sources s.fetched) location).run s).2 := fun location => .next rfl (.done _)
  cases request with
  | get location =>
    refine grows_of_looksUp (hsingle location) fun e he => ?_
    exact (atomic_get? (sources s.fetched) location s).failed e (Answer.compiled.inj he)
  | compile location =>
    have hlookUp := hsingle location
    rw [run_get?] at hlookUp
    refine grows_of_looksUp hlookUp fun e he => ?_
    exact (atomic_compile (sources s.fetched) location s).failed e (Answer.compiled.inj he)
  | lookup location => exact grows_of_looksUp (.done s) fun _ _ => rfl
  | has location => exact grows_of_looksUp (.done s) fun _ _ => rfl
  | register location node =>
    refine ⟨s.registry.extends_register location node, fun e he => ?_, fun hhand => ?_⟩
    · cases he
    · cases hhand
  | validate node document =>
    obtain ⟨lookUps, h⟩ := hresolver.validate limit node document s
    exact grows_of_looksUp h fun e he => nomatch he
  | accepts node document =>
    obtain ⟨lookUps, h⟩ := hresolver.accepts limit node document s
    exact grows_of_looksUp h fun e he => nomatch he
  | describe node =>
    obtain ⟨lookUps, h⟩ := hresolver.describe limit node s
    exact grows_of_looksUp h fun e he => nomatch he

/-! ### Opening a validator -/

theorem onlyLooksUp_validate (source : Source) (node : Node) (document : Json) :
    OnlyLooksUp (fun _ => source) (validate source node document) := fun s =>
  (respects_resolverWith (fun _ => source) (s.registry.size + source.size + 1)).validate _
    node document s

theorem onlyLooksUp_mapM (source : Source) (node : Node) (documents : List Json) :
    OnlyLooksUp (fun _ => source) (documents.mapM (validate source node)) := by
  induction documents with
  | nil => exact onlyLooksUp_pure _ _
  | cons document rest ih =>
    rw [List.mapM_cons]
    exact (onlyLooksUp_validate source node document).bind fun _ =>
      ih.bind fun _ => onlyLooksUp_pure _ _

/-- Nothing is lost when documents are checked against the schema at a location, and nothing
is registered when there is no schema. -/
theorem atomic_validateAll (source : Source) (location : Url) (documents : List Json)
    (s : Session) :
    Atomic s ((validateAll source location documents).run s).1
      ((validateAll source location documents).run s).2 := by
  have hget := atomic_get? source location s
  unfold validateAll
  rw [StateT.run_bind]
  rcases hrun : (get? source location).run s with ⟨e | node, s'⟩ <;> rw [hrun] at hget
  · exact ⟨hget.kept, fun _ _ => hget.failed e rfl⟩
  · obtain ⟨lookUps, hlookUps⟩ := onlyLooksUp_mapM source node documents s'
    exact ⟨hlookUps.extends_registry.trans hget.kept, fun _ h => nomatch h⟩

/-! ### Runs -/

/-- The session after more requests, each with the sources that answer and a bound on the
number of references that are followed. -/
def afterMore (s : Session) (requests : List (Sources × Nat × Request)) : Session :=
  requests.foldl (fun s request => ((request.2.2.runWith request.1 request.2.1).run s).2) s

/-- Nothing is lost in a run of requests. -/
theorem extends_afterMore (s : Session) (requests : List (Sources × Nat × Request)) :
    (s.afterMore requests).registry.Extends s.registry := by
  induction requests generalizing s with
  | nil => exact .refl _
  | cons request rest ih => exact (ih _).trans (grows request.1 request.2.1 s request.2.2).kept

/-- A node that is registered is what its location is answered with. -/
structure Answers (s : Session) (u : Url) (n : Node) : Prop where
  lookup : s.registry.get? u = some n
  get : ∀ source, (get? source u).run s = (.ok n, s)
  compile : ∀ source, (compile source u).run s = (.ok n, s)
  /-- Another node is not taken. -/
  register : ∀ other, (register u other).run s = (false, s)

theorem answers_of_get? {s : Session} {u : Url} {n : Node} (h : s.registry.get? u = some n) :
    Answers s u n where
  lookup := h
  get source := run_get?_of_eq_some source h
  compile source := by
    rw [← run_get?]
    exact run_get?_of_eq_some source h
  register other := by
    have hhas : s.registry.has u = true := Registry.has_iff.mpr ⟨n, h⟩
    show (!s.registry.has u, { s with registry := s.registry.register u other }) = _
    rw [Registry.register, hhas]
    rfl

/-- Whatever a session has registered, by compilations or by hand, and whatever the sources
answer: each request keeps all nodes, and each compilation that fails leaves the registry as
it was, also one that a check has come to. So does opening a validator. A node that is
registered is therefore what its location is answered with ever after. -/
theorem registry_grows (s : Session) :
    (∀ (sources : Sources) (limit : Nat) (request : Request), Grows sources limit s request) ∧
    (∀ (sources : Sources) (limit : Nat) (u : Url),
      Atomic s (((resolverWith sources limit).resolve u).run s).1
        (((resolverWith sources limit).resolve u).run s).2) ∧
    (∀ (source : Source) (location : Url) (documents : List Json),
      Atomic s ((validateAll source location documents).run s).1
        ((validateAll source location documents).run s).2) ∧
    ∀ (requests : List (Sources × Nat × Request)) (u : Url) (n : Node),
      s.registry.get? u = some n → Answers (s.afterMore requests) u n := by
  refine ⟨fun sources limit request => ?_, fun sources limit u => ?_,
    fun source location documents => ?_, fun requests u n hn => ?_⟩
  · exact grows sources limit s request
  · exact atomic_resolve sources limit u s
  · exact atomic_validateAll source location documents s
  · exact answers_of_get? (extends_afterMore s requests u n hn)

/-- Where a reference was registered by hand that leads to nothing, compiling what it leads
to fails and leaves it there. -/
theorem dangling_kept :
    let missing : Url := ⟨"file", some ⟨"", "", none, none⟩, "/missing", none, none⟩
    let s := after [(.ofDocuments [], .register LinkedList.location (.reference missing))]
    ((get? (.ofDocuments []) missing).run s).2.registry = s.registry ∧
      (compile LinkedList.source LinkedList.location).run s = (.ok (.reference missing), s) := by
  intro missing s
  have hfails : ((get? (.ofDocuments []) missing).run s).1
      = .error ⟨missing.text, .fetch .notFound⟩ := rfl
  have hget : s.registry.get? LinkedList.location = some (.reference missing) := rfl
  obtain ⟨hgrows, -, -, hanswers⟩ := registry_grows s
  refine ⟨?_, (hanswers [] _ _ hget).compile _⟩
  exact (hgrows (fun _ => .ofDocuments []) 0 (.get missing)).failed _
    (congrArg Answer.compiled hfails)

end Session
end DraftSchema
