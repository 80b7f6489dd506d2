import DraftSchema.Proofs.Session.Checks
import DraftSchema.Proofs.Validation.Effects
import Mathlib

/-!
# `DraftSchema.Proofs.Session.Runs`: sessions after any number of requests

A run is a list of requests, each with the source that answers while it is worked on,
so that documents may be added, changed and deleted between two requests. While one
compilation lasts, no location is asked for twice. The theorems:

* `keeps_run`: what a compilation keeps true of a registry, every request keeps true
  that does not register a node by hand.
* `after_keeps`: so it is true after every run without such a request.
* `sound_after`: the registry is then sound.
-/

set_option autoImplicit false

namespace DraftSchema

/-- What a session can be asked. -/
inductive Request where
  | get (location : Url)
  | compile (location : Url)
  | lookup (location : Url)
  | has (location : Url)
  /-- A node that was made by hand. -/
  | register (location : Url) (node : Node)
  | validate (node : Node) (document : Json)
  | accepts (node : Node) (document : Json)
  | describe (node : Node)

/-- What a session answers. -/
inductive Answer where
  | compiled (result : Except SchemaError Node)
  | found (node : Option Node)
  | told (yes : Bool)
  | violated (violations : List Violation)
  | described (name : String)

namespace Request

/-- The request registers a node that was made by hand. -/
def byHand : Request → Bool
  | register _ _ => true
  | _ => false

/-- Works on a request. -/
def run (source : Source) : Request → StateM Session Answer
  | get location => .compiled <$> Session.get? source location
  | compile location => .compiled <$> Session.compile source location
  | lookup location => do return .found ((← MonadState.get).registry.get? location)
  | has location => do return .told ((← MonadState.get).registry.has location)
  | register location node => .told <$> Session.register location node
  | validate node document => .violated <$> Session.validate source node document
  | accepts node document => .told <$> Session.accepts source node document
  | describe node => .described <$> Session.describe source node

end Request

namespace Session

/-- The session after some requests. -/
def after (requests : List (Source × Request)) : Session :=
  requests.foldl (fun s request => ((request.2.run request.1).run s).2) start

/-- A compilation keeps something true of a registry, whatever location it is for. -/
def Keeps (P : Registry → Prop) (source : Source) : Prop :=
  ∀ (registry : Registry) (location : Url), P registry →
    P (Compilation.compile source registry location).registry

/-- Resolving references keeps true of a session's registry what compilations keep. -/
theorem respects_resolver {P : Registry → Prop} {source : Source} (h : Keeps P source)
    (registry : Registry) :
    (resolver source registry).Respects fun {_} x =>
      ∀ s : Session, P s.registry → P (x.run s).2.registry where
  pure _ _ hs := hs
  bind hx hf s hs := hf _ _ (hx s hs)
  resolve u s hs := by
    -- A location that is not registered is compiled, which keeps `P`.
    have hget : P ((get? source u).run s).2.registry := by
      rw [run_get?]
      exact h _ u hs
    simp only [resolver, StateT.run_bind]
    rcases hrun : (get? source u).run s with ⟨_ | _, s'⟩
    all_goals
      rw [hrun] at hget
      exact hget

/-- Every request keeps true of a session's registry what compilations keep, but one
that registers a node by hand. -/
theorem keeps_run {P : Registry → Prop} {source : Source} (h : Keeps P source)
    {request : Request} (hhand : request.byHand = false) {s : Session} (hs : P s.registry) :
    P ((request.run source).run s).2.registry := by
  have hresolver := respects_resolver h s.registry
  cases request with
  | get location =>
    show P ((get? source location).run s).2.registry
    rw [run_get?]
    exact h _ location hs
  | compile location => exact h _ location hs
  | lookup location => exact hs
  | has location => exact hs
  | register location node => simp [Request.byHand] at hhand
  | validate node document => exact hresolver.validate _ node document s hs
  | accepts node document => exact hresolver.accepts _ node document s hs
  | describe node => exact hresolver.describe _ node s hs

/-- What compilations keep is true after every run without a node made by hand. -/
theorem after_keeps {P : Registry → Prop} (hempty : P ∅) {requests : List (Source × Request)}
    (h : ∀ request ∈ requests, Keeps P request.1 ∧ request.2.byHand = false) :
    P (after requests).registry := by
  suffices hfold : ∀ s : Session, P s.registry →
      P (requests.foldl (fun s request => ((request.2.run request.1).run s).2) s).registry from
    hfold start hempty
  -- Each request starts from the session that the one before has left.
  induction requests with
  | nil => exact fun s hs => hs
  | cons request rest ih =>
    intro s hs
    obtain ⟨hkeeps, hhand⟩ := h request List.mem_cons_self
    exact ih (fun q hq => h q (List.mem_cons_of_mem _ hq)) _ (keeps_run hkeeps hhand hs)

/-- A registry that was filled by compilations is sound, however the source changed
meanwhile. -/
theorem sound_after {requests : List (Source × Request)}
    (h : ∀ request ∈ requests, request.2.byHand = false) : (after requests).registry.Sound :=
  after_keeps Registry.sound_empty fun request hrequest =>
    ⟨fun _ location hsound => Compilation.sound_compile hsound location, h request hrequest⟩

end Session

/-! ### An example: linked lists

The schema of linked lists refers to itself, for the rest of a list. -/

namespace LinkedList

/-- Where the schema is. -/
def location : Url := ⟨"file", some ⟨"", "", none, none⟩, "/list", none, none⟩

/-- The value of the schema. -/
def raw : Json := .object
  [("type", .string "object"),
    ("properties", .object [("next", .object [("$ref", .string "list")])]),
    ("additionalProperties", .bool false)]

/-- The node of the schema. -/
def node : Node := .object [⟨"next", false, .reference location⟩] .forbidden

/-- A source that has the schema and nothing else. -/
def source : Source := .ofDocuments [(location, .ok raw.compact)]

theorem withoutFragment_location : location.withoutFragment = location := by cbv

theorem read_source : Compilation.Worklist.read source location = .ok raw := by cbv

theorem elaborate_raw : Node.elaborate location raw = ⟨[location], .ok node⟩ := by
  have hresolve : Reference.resolve location "list" = .ok location := by cbv
  simp [raw, node, Node.elaborate.eq_def, Node.elaborateObject, Node.elaborateAdditional.eq_def,
    Node.elaborateDeclared.eq_def, Node.elaborateProperties, Node.elaborateReference,
    Json.Members.get?, List.lookup_cons, hresolve, Node.required?, Node.boolKeyword?,
    Elaboration.bind_ok, Elaboration.ofExcept, Except.map]

/-- The compilation of the schema registers it. -/
theorem compile_source :
    Compilation.compile source ∅ location = ⟨[location], ⟨[(location, node)]⟩, .ok node⟩ := by
  have hloop : Compilation.findLoop? ∅ [(location, node)] = none := by cbv
  have hcompile := Compilation.compile_single withoutFragment_location rfl Nat.zero_lt_one
    read_source (by rw [elaborate_raw]) (by simp [elaborate_raw]) hloop
  rw [hcompile, Registry.register, Registry.has_empty, withoutFragment_location]
  rfl

/-- The session in which the schema was asked for. -/
theorem after_get :
    Session.after [(source, .get location)] = ⟨⟨[(location, node)]⟩, [location]⟩ := by
  have hrun : ((Request.get location).run source).run Session.start
      = (.compiled (.ok node), ⟨⟨[(location, node)]⟩, [location]⟩) := by
    show ((Session.get? source location).run Session.start).map Answer.compiled id = _
    rw [Session.run_get?, Session.run_compile]
    show (_, _) = _
    simp [Session.start, compile_source]
  simp only [Session.after, List.foldl_cons, List.foldl_nil, hrun]

/-- It has the schema. -/
theorem get?_after :
    (Session.after [(source, .get location)]).registry.get? location = some node := by
  rw [after_get, Registry.get?, withoutFragment_location, List.lookup_cons_self]

end LinkedList
end DraftSchema
