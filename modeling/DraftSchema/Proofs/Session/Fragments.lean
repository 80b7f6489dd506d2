import DraftSchema.Proofs.Compilation.Fragments
import DraftSchema.Proofs.Session.Growth

/-!
# `DraftSchema.Proofs.Session.Fragments`: fragments that make no difference

A schema is known by its location without a fragment. It may be asked for with one
(`Interchangeable`), and the documents may refer to each other with fragments
(`Source.WithFragments`): a session does the same in either case. No fragment comes into what it
keeps (`FragmentFree`), but for those in nodes that were made by hand. The theorems:

* `interchangeable`: locations that are the same without their fragments are asked for alike.
* `step_withFragments` and `after_withFragments`: one request, and a run of requests, with sources
  whose documents differ in fragments only.
* `FragmentFree.runWith` and `fragmentFree_afterMore`: no fragment is kept after one request, nor
  after a run of requests.
* `fragments_immaterial`: all of it.
-/

set_option autoImplicit false

namespace DraftSchema

/-! ### Registries -/

namespace Registry

variable {r : Registry} {entry : Url × Node}

theorem mem_entries_register {location : Url} {node : Node}
    (h : entry ∈ (r.register location node).entries) :
    entry ∈ r.entries ∨ entry = (location.withoutFragment, node) := by
  unfold register at h
  split at h
  · exact .inl h
  · simpa using h

/-- What is registered was registered before, or it comes from the batch. -/
theorem mem_entries_registerAll {batch : List (Url × Node)}
    (h : entry ∈ (r.registerAll batch).entries) :
    entry ∈ r.entries ∨ ∃ added ∈ batch, entry = (added.1.withoutFragment, added.2) := by
  unfold registerAll at h
  induction batch generalizing r with
  | nil => exact .inl h
  | cons first rest ih =>
    rw [List.foldl_cons] at h
    obtain hold | ⟨added, hadded, heq⟩ := ih h
    · obtain hold | heq := mem_entries_register hold
      · exact .inl hold
      · exact .inr ⟨first, List.mem_cons_self, heq⟩
    · exact .inr ⟨added, List.mem_cons_of_mem _ hadded, heq⟩

end Registry

namespace Session

/-! ### Asking with a fragment -/

/-- Checking documents opens the validator for their schema first. -/
theorem validateAll_eq (source : Source) (location : Url) (documents : List Json) :
    validateAll source location documents = do
      match ← validator? source location with
      | .error e => return .error e
      | .ok v => return .ok (v.schema, ← documents.mapM (validate source v.schema)) := by
  unfold validateAll validator?
  rw [bind_assoc]
  refine congrArg _ (funext fun result => ?_)
  cases result with
  | error e => rfl
  | ok node => rfl

/-- Asked for the second location a session answers as for the first one, asks its source for the
same and registers the same. A validator keeps the location that it was asked for. -/
structure Interchangeable (u u' : Url) : Prop where
  has : ∀ r : Registry, r.has u' = r.has u
  lookup : ∀ r : Registry, r.get? u' = r.get? u
  register : ∀ (node : Node) (s : Session), (register u' node).run s = (register u node).run s
  get : ∀ (source : Source) (s : Session), (get? source u').run s = (get? source u).run s
  compile : ∀ (source : Source) (s : Session), (compile source u').run s = (compile source u).run s
  validator : ∀ (source : Source) (s : Session),
    (validator? source u').run s =
      (((validator? source u).run s).1.map fun v => { v with location := u' },
        ((validator? source u).run s).2)
  checks : ∀ (source : Source) (documents : List Json) (s : Session),
    (validateAll source u' documents).run s = (validateAll source u documents).run s

section

variable {u u' : Url} (h : u'.withoutFragment = u.withoutFragment)

include h

theorem get?_congr (r : Registry) : r.get? u' = r.get? u := by
  show r.entries.lookup u'.withoutFragment = r.entries.lookup u.withoutFragment
  rw [h]

theorem register_congr (r : Registry) (node : Node) : r.register u' node = r.register u node := by
  unfold Registry.register Registry.has
  rw [get?_congr h, h]

theorem run_compile_congr (source : Source) (s : Session) :
    (compile source u').run s = (compile source u).run s := by
  rw [run_compile, run_compile]
  unfold Compilation.compile
  rw [h]

theorem run_get?_congr (source : Source) (s : Session) :
    (get? source u').run s = (get? source u).run s := by
  rw [run_get?, run_get?, run_compile_congr h]

theorem run_validator?_congr (source : Source) (s : Session) :
    (validator? source u').run s =
      (((validator? source u).run s).1.map fun v => { v with location := u' },
        ((validator? source u).run s).2) := by
  unfold validator?
  rw [StateT.run_bind, StateT.run_bind, run_get?_congr h]
  rcases (get? source u).run s with ⟨e | node, s'⟩
  · rfl
  · rfl

theorem run_validateAll_congr (source : Source) (documents : List Json) (s : Session) :
    (validateAll source u' documents).run s = (validateAll source u documents).run s := by
  rw [validateAll_eq, validateAll_eq, StateT.run_bind, StateT.run_bind,
    run_validator?_congr h source s]
  -- The location of the validator is not looked at any more.
  rcases (validator? source u).run s with ⟨e | v, s'⟩
  · rfl
  · rfl

/-- Locations that are the same without their fragments are asked for alike. -/
theorem interchangeable : Interchangeable u u' where
  has r := by
    show (r.get? u').isSome = (r.get? u).isSome
    rw [get?_congr h]
  lookup := get?_congr h
  register node s := by
    show (!(s.registry.get? u').isSome, { s with registry := s.registry.register u' node })
      = (!(s.registry.get? u).isSome, { s with registry := s.registry.register u node })
    rw [get?_congr h, register_congr h]
  get := run_get?_congr h
  compile := run_compile_congr h
  validator := run_validator?_congr h
  checks := run_validateAll_congr h

end

end Session

/-! ### Documents with fragments -/

/-- The request checks no document, and a location that it compiles has an authority if it needs
one. -/
inductive Request.ChecksNothing : Request → Prop where
  | get {location : Url} (h : location.IsProper) : ChecksNothing (.get location)
  | compile {location : Url} (h : location.IsProper) : ChecksNothing (.compile location)
  | lookup (location : Url) : ChecksNothing (.lookup location)
  | has (location : Url) : ChecksNothing (.has location)
  | register (location : Url) (node : Node) : ChecksNothing (.register location node)

namespace Session

/-- A compilation leaves the same session behind, whether or not there are fragments in the
documents. -/
theorem run_compile_withFragments {source source' : Source} (h : source.WithFragments source')
    {location : Url} (hlocation : location.IsProper) (s : Session) :
    ((compile source' location).run s).2 = ((compile source location).run s).2 := by
  have halike := Compilation.alike_compile h s.registry hlocation
  rw [run_compile, run_compile, halike.registry, halike.fetched]

/-- So does every other request that checks no document. -/
theorem step_withFragments {source source' : Source} (h : source.WithFragments source')
    {request : Request} (hrequest : request.ChecksNothing) (s : Session) :
    ((request.run source').run s).2 = ((request.run source).run s).2 := by
  cases hrequest with
  | @get location hlocation =>
    show ((get? source' location).run s).2 = ((get? source location).run s).2
    rw [run_get?, run_get?]
    exact run_compile_withFragments h hlocation s
  | compile hlocation => exact run_compile_withFragments h hlocation s
  | lookup location => rfl
  | has location => rfl
  | register location node => rfl

/-- Neither does a run of such requests depend on the fragments, also if the documents change
between two requests. -/
theorem after_withFragments {requests : List (Source × Source × Request)}
    (h : ∀ q ∈ requests, q.1.WithFragments q.2.1 ∧ q.2.2.ChecksNothing) :
    after (requests.map fun q => (q.2.1, q.2.2)) = after (requests.map fun q => (q.1, q.2.2)) := by
  unfold after
  rw [List.foldl_map, List.foldl_map]
  generalize start = s
  -- After each request the two sessions are the same, so that the next one starts alike.
  induction requests generalizing s with
  | nil => rfl
  | cons q rest ih =>
    obtain ⟨hfragments, hrequest⟩ := h q List.mem_cons_self
    rw [List.foldl_cons, List.foldl_cons, step_withFragments hfragments hrequest]
    exact ih (fun p hp => h p (List.mem_cons_of_mem _ hp)) _

/-! ### What a session keeps -/

/-- The locations in a session have no fragments: those of the registry, those that a source was
asked for, and those that nodes refer to, unless they were made by hand. -/
structure FragmentFree (byHand : Url → Node → Prop) (s : Session) : Prop where
  keyed : s.registry.Keyed
  fetched : ∀ u ∈ s.fetched, u.withoutFragment = u
  made : ∀ entry ∈ s.registry.entries, byHand entry.1 entry.2 ∨
    ∀ u ∈ entry.2.references, u.withoutFragment = u

theorem fragmentFree_start (byHand : Url → Node → Prop) : FragmentFree byHand start where
  keyed := Registry.keyed_empty
  fetched := by
    intro u hu
    cases hu
  made := by
    intro entry hentry
    cases hentry

namespace FragmentFree

variable {byHand : Url → Node → Prop} {s s' : Session}

/-- What is compiled refers to locations without fragments. -/
theorem compile (h : FragmentFree byHand s) (source : Source) (location : Url) :
    FragmentFree byHand ((Session.compile source location).run s).2 := by
  rw [run_compile]
  constructor
  · exact Compilation.keyed_compile source h.keyed location
  · intro u hu
    obtain hold | hnew := List.mem_append.mp hu
    · exact h.fetched u hold
    · exact (Compilation.sparing_compile source s.registry location).plain u hnew
  · intro entry hentry
    rcases Compilation.compile_cases source s.registry location with
      ⟨fetched, e, hcompile⟩ | ⟨fetched, batch, n, hbatch, -, -, hcompile⟩
    · rw [hcompile] at hentry
      exact h.made entry hentry
    · rw [hcompile] at hentry
      obtain hold | ⟨added, hadded, rfl⟩ := Registry.mem_entries_registerAll hentry
      · exact h.made entry hold
      · exact .inr fun u hu => (hbatch.made added hadded).plain hu

/-- So it is with any number of references that are looked up. -/
theorem looksUp {sources : Sources} {lookUps : List LookUp} (h : FragmentFree byHand s)
    (hlookUps : LooksUp sources s lookUps s') : FragmentFree byHand s' := by
  induction hlookUps with
  | done s => exact h
  | @next s s' last location result rest hget _ ih =>
    have hfirst := h.compile (sources s.fetched) location
    rw [← run_get?, hget] at hfirst
    exact ih hfirst

/-- A request keeps fragments out, but for a node that is made by hand. -/
theorem runWith (h : FragmentFree byHand s) (sources : Sources) (limit : Nat) {request : Request}
    (hhand : ∀ location node, request = .register location node →
      byHand location.withoutFragment node) :
    FragmentFree byHand ((request.runWith sources limit).run s).2 := by
  rcases hmade : request.byHand
  · -- All that any other request does is looking references up.
    obtain ⟨lookUps, hlookUps, -⟩ := (grows sources limit s request).onDemand hmade
    exact h.looksUp hlookUps
  · cases request with
    | register location node =>
      show FragmentFree byHand { s with registry := s.registry.register location node }
      refine ⟨h.keyed.register location node, h.fetched, ?_⟩
      intro entry hentry
      obtain hold | rfl := Registry.mem_entries_register hentry
      · exact h.made entry hold
      · exact .inl (hhand location node rfl)
    | _ => cases hmade

end FragmentFree

/-- One of the requests registers the node there. -/
def RegisteredByHand (requests : List (Sources × Nat × Request)) (u : Url) (n : Node) : Prop :=
  ∃ request ∈ requests, ∃ location, request.2.2 = .register location n ∧
    location.withoutFragment = u

/-- A run of requests keeps fragments out, but for nodes that are made by hand. -/
theorem FragmentFree.afterMore {byHand : Url → Node → Prop} {s : Session}
    (h : FragmentFree byHand s) {requests : List (Sources × Nat × Request)}
    (hhand : ∀ u n, RegisteredByHand requests u n → byHand u n) :
    FragmentFree byHand (s.afterMore requests) := by
  induction requests generalizing s with
  | nil => exact h
  | cons request rest ih =>
    have hfirst : FragmentFree byHand ((request.2.2.runWith request.1 request.2.1).run s).2 := by
      refine h.runWith request.1 request.2.1 ?_
      intro location node heq
      exact hhand _ _ ⟨request, List.mem_cons_self, location, heq, rfl⟩
    refine ih hfirst ?_
    intro u n hregistered
    obtain ⟨q, hq, hlocation⟩ := hregistered
    exact hhand u n ⟨q, List.mem_cons_of_mem _ hq, hlocation⟩

/-- Fragments make no difference to a session. A location may be asked for with any fragment,
whatever is registered. If the documents refer to each other with fragments, the same is asked
for and registered, and the same compilations succeed; this is so for every compilation and for
runs of requests, also with documents that change. Locations that are read have an authority if
they need one (`Url.isProper_parse`, `Url.isProper_join`, `Url.isProper_ofFilePath`). And after
every run no key, no location that was asked for and no reference that was compiled has a
fragment. -/
theorem fragments_immaterial :
    (∀ (u : Url) (fragment : String), Interchangeable u (u.withFragment fragment)) ∧
    (∀ source source' : Source, source.WithFragments source' →
      ∀ (registry : Registry) (location : Url), location.IsProper →
        Compilation.Alike (Compilation.compile source registry location)
          (Compilation.compile source' registry location)) ∧
    (∀ requests : List (Source × Source × Request),
      (∀ q ∈ requests, q.1.WithFragments q.2.1 ∧ q.2.2.ChecksNothing) →
        after (requests.map fun q => (q.2.1, q.2.2)) = after (requests.map fun q => (q.1, q.2.2))) ∧
    ∀ requests : List (Sources × Nat × Request),
      FragmentFree (RegisteredByHand requests) (start.afterMore requests) := by
  refine ⟨fun u fragment => ?_, fun source source' h registry location hlocation => ?_,
    fun requests h => ?_, fun requests => ?_⟩
  · exact interchangeable (Url.withoutFragment_withFragment u fragment)
  · exact Compilation.alike_compile h registry hlocation
  · exact after_withFragments h
  · exact (fragmentFree_start _).afterMore fun u n hregistered => hregistered

/-! ### An example: linked lists that refer to a part of themselves -/

namespace Fragmented

/-- The schema of linked lists, with a fragment behind its reference. -/
def raw : Json := .object
  [("type", .string "object"),
    ("properties", .object [("next", .object [("$ref", .string "list#whole")])]),
    ("additionalProperties", .bool false)]

/-- A source that has the schema and nothing else. -/
def source : Source := .ofDocuments [(LinkedList.location, .ok raw.compact)]

theorem addsFragment : Json.AddsFragment LinkedList.raw raw := by
  have hbare : Url.IsBare "list" := by
    refine ⟨by decide, fun c hc => ?_⟩
    obtain rfl : c = 't' := Option.some.inj hc.symm
    rfl
  have hreference : Json.AddsFragment (.object [("$ref", .string "list")])
      (.object [("$ref", .string "list#whole")]) := .reference "whole" rfl hbare
  exact @Json.AddsFragment.property _ [] [] "next" _ _ rfl hreference

theorem withFragments : LinkedList.source.WithFragments source := by
  have hsize : source.size = 1 := rfl
  have hsize' : LinkedList.source.size = 1 := rfl
  refine ⟨hsize.trans hsize'.symm, fun u => ?_⟩
  by_cases hu : u = LinkedList.location
  · subst hu
    have hholds : LinkedList.source.Holds LinkedList.location LinkedList.raw :=
      Compilation.read_eq_ok_iff.mp LinkedList.read_source
    have hread : Compilation.Worklist.read source LinkedList.location = .ok raw := by cbv
    exact .inr ⟨_, _, hholds, Compilation.read_eq_ok_iff.mp hread, .single addsFragment⟩
  · have hnot : (u == LinkedList.location) = false := beq_eq_false_iff_ne.mpr hu
    exact .inl (by simp [source, LinkedList.source, Source.ofDocuments, List.lookup_cons, hnot])

end Fragmented

/-- The schema that refers to itself with one fragment, and is asked for with another one, is
registered as it is without them. -/
theorem linkedList_with_fragments :
    LinkedList.source.WithFragments Fragmented.source ∧ LinkedList.location.IsProper ∧
    (get? Fragmented.source (LinkedList.location.withFragment "top")).run start
      = (.ok LinkedList.node,
          ⟨⟨[(LinkedList.location, LinkedList.node)]⟩, [LinkedList.location]⟩) ∧
    after [(Fragmented.source, .get LinkedList.location)]
      = after [(LinkedList.source, .get LinkedList.location)] := by
  have hproper : LinkedList.location.IsProper := fun _ => rfl
  obtain ⟨hasked, hcompiled, hafter, -⟩ := fragments_immaterial
  refine ⟨Fragmented.withFragments, hproper, ?_, ?_⟩
  · obtain ⟨hfetched, hregistry, hresult⟩ := hcompiled _ _ Fragmented.withFragments ∅ _ hproper
    rw [LinkedList.compile_source] at hfetched hregistry hresult
    have hnode : (Compilation.compile Fragmented.source ∅ LinkedList.location).result
        = .ok LinkedList.node := by
      obtain ⟨node, hok, hnode⟩ | ⟨e, e', herror, -⟩ := ok_or_error_of_toOption_eq hresult
      · rwa [Except.ok.inj hok]
      · cases herror
    rw [(hasked _ "top").get, run_get?, run_compile, start, hnode, hregistry, hfetched]
    rfl
  · exact hafter [(LinkedList.source, Fragmented.source, .get LinkedList.location)] fun q hq => by
      rw [List.mem_singleton.mp hq]
      exact ⟨Fragmented.withFragments, .get hproper⟩

end Session
end DraftSchema
