import DraftSchema.Proofs.Compilation.Fetches
import DraftSchema.Proofs.Language.Acceptance
import DraftSchema.Proofs.Language.Reordering

/-!
# `DraftSchema.Proofs.Compilation.Edits`: what a compilation depends on

Two sources are compared whose documents differ in members that are not consulted and in the order
of members (`Source.EditedTo`). The two compilations run in step: the documents that wait may
differ, but what becomes of them does not (`Worklist.InStep`). Where the order of declared
properties is free, the references of a document are met in another order, and the compilations
are compared by what they register. The theorems:

* `compile_eq_of_matches`: documents that become the same are compiled to the same.
* `sameUpToOrder_compile`: with documents whose nodes differ in the order of properties only, so
  do the nodes that are registered.
* `compile_of_edited`: both of these for sources that differ in this way.
-/

set_option autoImplicit false

namespace DraftSchema

open Relation

/-- The second source has the same documents after some changes of the schemas in them. The flag
tells that the order of declared properties is free. -/
structure Source.EditedTo (free : Bool) (source source' : Source) : Prop where
  size : source'.size = source.size
  fetch : ∀ u, source'.fetch u = source.fetch u ∨ ∃ raw raw', source.Holds u raw ∧
    source'.Holds u raw' ∧ ReflTransGen (Json.Edit free false) raw raw'

namespace Compilation

variable {source source' : Source} {registry : Registry} {u v location : Url}

/-! ### In step -/

/-- A document can be read from both sources, where it becomes the same, or from neither, for the
same reason. -/
def Matches (source source' : Source) : Prop :=
  ∀ u, (∃ e, Worklist.read source u = .error e ∧ Worklist.read source' u = .error e) ∨
    ∃ raw raw', Worklist.read source u = .ok raw ∧ Worklist.read source' u = .ok raw' ∧
      Node.elaborate u raw' = Node.elaborate u raw

namespace Worklist

variable {w w' : Worklist}

/-- What the documents become that wait. -/
def waiting (w : Worklist) : List (Url × Elaboration Node) :=
  w.pending.map fun entry => (entry.1, Node.elaborate entry.1 entry.2)

/-- The compilations have come to the same so far, and what waits will become the same. -/
structure InStep (w w' : Worklist) : Prop where
  waiting : w'.waiting = w.waiting
  scheduled : w'.scheduled = w.scheduled
  fetched : w'.fetched = w.fetched
  compiled : w'.compiled = w.compiled

/-- Both compilations are stopped by the same error, or neither is. -/
def OutcomesInStep (x x' : Worklist × Option SchemaError) : Prop :=
  ∃ w w' o, x = (w, o) ∧ x' = (w', o) ∧ w.InStep w'

theorem inStep_schedule (h : Matches source source') (registry : Registry) (hw : w.InStep w')
    (u : Url) :
    OutcomesInStep (w.schedule source registry u) (w'.schedule source' registry u) := by
  by_cases hknown : registry.has u ∨ u ∈ w.scheduled
  · have hknown' : registry.has u ∨ u ∈ w'.scheduled := by rwa [hw.scheduled]
    exact ⟨w, w', none, schedule_of_known hknown, schedule_of_known hknown', hw⟩
  · obtain ⟨hhas, hmet⟩ := not_or.mp hknown
    rw [schedule_of_unknown (by simpa using hhas) hmet,
      schedule_of_unknown (by simpa using hhas) (hw.scheduled ▸ hmet)]
    obtain ⟨e, hread, hread'⟩ | ⟨raw, raw', hread, hread', hsame⟩ := h u
    · rw [hread, hread']
      exact ⟨_, _, _, rfl, rfl, ⟨hw.waiting, hw.scheduled, by simp [hw.fetched], hw.compiled⟩⟩
    · rw [hread, hread']
      refine ⟨_, _, _, rfl, rfl, ⟨?_, by simp [hw.scheduled], by simp [hw.fetched], hw.compiled⟩⟩
      have hwaiting := hw.waiting
      unfold Worklist.waiting at hwaiting ⊢
      rw [List.map_append, List.map_append, hwaiting, List.map_singleton, List.map_singleton, hsame]

theorem inStep_scheduleAll (h : Matches source source') (registry : Registry) (hw : w.InStep w')
    (us : List Url) :
    OutcomesInStep (w.scheduleAll source registry us) (w'.scheduleAll source' registry us) := by
  induction us generalizing w w' with
  | nil =>
    rw [scheduleAll, scheduleAll]
    exact ⟨w, w', none, rfl, rfl, hw⟩
  | cons u rest ih =>
    rw [scheduleAll, scheduleAll]
    obtain ⟨w₁, w₁', o, hfirst, hfirst', hw₁⟩ := inStep_schedule h registry hw u
    rw [hfirst, hfirst']
    cases o with
    | none => exact ih hw₁
    | some e => exact ⟨w₁, w₁', some e, rfl, rfl, hw₁⟩

/-- The same document is next in both compilations, if one waits. -/
theorem InStep.pending_cases (hw : w.InStep w') :
    (w.pending = [] ∧ w'.pending = []) ∨ ∃ u raw raw' rest rest',
      w.pending = (u, raw) :: rest ∧ w'.pending = (u, raw') :: rest' ∧
      Node.elaborate u raw' = Node.elaborate u raw ∧
      ({ w with pending := rest } : Worklist).InStep { w' with pending := rest' } := by
  have hwaiting := hw.waiting
  unfold Worklist.waiting at hwaiting
  rcases hpending : w.pending with _ | ⟨⟨u, raw⟩, rest⟩
  · rw [hpending] at hwaiting
    exact .inl ⟨rfl, List.map_eq_nil_iff.mp hwaiting⟩
  · rw [hpending, List.map_cons, List.map_eq_cons_iff] at hwaiting
    obtain ⟨⟨u', raw'⟩, rest', hpending', heq, hrest⟩ := hwaiting
    obtain ⟨rfl, hsame⟩ := Prod.mk.inj heq
    exact .inr ⟨_, raw, raw', rest, rest', rfl, hpending', hsame,
      ⟨hrest, hw.scheduled, hw.fetched, hw.compiled⟩⟩

theorem inStep_drain (h : Matches source source') (registry : Registry) (limit : Nat)
    (hw : w.InStep w') :
    OutcomesInStep (w.drain source registry limit) (w'.drain source' registry limit) := by
  induction limit generalizing w w' with
  | zero =>
    obtain ⟨hnil, hnil'⟩ | ⟨u, raw, raw', rest, rest', hpending, hpending', -, -⟩ :=
      hw.pending_cases
    · rw [drain_of_pending_eq_nil _ hnil, drain_of_pending_eq_nil _ hnil']
      exact ⟨w, w', none, rfl, rfl, hw⟩
    · rw [drain.eq_def, drain.eq_def, hpending, hpending']
      exact ⟨w, w', _, rfl, rfl, hw⟩
  | succ limit ih =>
    obtain ⟨hnil, hnil'⟩ | ⟨u, raw, raw', rest, rest', hpending, hpending', hsame, hrest⟩ :=
      hw.pending_cases
    · rw [drain_of_pending_eq_nil _ hnil, drain_of_pending_eq_nil _ hnil']
      exact ⟨w, w', none, rfl, rfl, hw⟩
    · rw [drain_of_pending_eq_cons limit hpending, drain_of_pending_eq_cons limit hpending', hsame]
      obtain ⟨w₁, w₁', o, hall, hall', hw₁⟩ :=
        inStep_scheduleAll h registry hrest (Node.elaborate u raw).references
      rw [hall, hall']
      cases o with
      | some e => exact ⟨w₁, w₁', some e, rfl, rfl, hw₁⟩
      | none =>
        rcases (Node.elaborate u raw).result with d | node
        · exact ⟨w₁, w₁', _, rfl, rfl, hw₁⟩
        · exact ih ⟨hw₁.waiting, hw₁.scheduled, hw₁.fetched, by simp [hw₁.compiled]⟩

end Worklist

theorem inStep_collect (h : Matches source source') (hsize : source'.size = source.size)
    (registry : Registry) (u : Url) :
    Worklist.OutcomesInStep (collect source registry u) (collect source' registry u) := by
  have hstart : Worklist.start.InStep Worklist.start := ⟨rfl, rfl, rfl, rfl⟩
  unfold collect
  rw [hsize]
  obtain ⟨w, w', o, hfirst, hfirst', hw⟩ := Worklist.inStep_schedule h registry hstart u
  rw [hfirst, hfirst']
  cases o with
  | some e => exact ⟨w, w', some e, rfl, rfl, hw⟩
  | none => exact Worklist.inStep_drain h registry source.size hw

/-- Documents that become the same are asked for in the same order and registered as the same
nodes, or lead to the same error. -/
theorem compile_eq_of_matches (h : Matches source source') (hsize : source'.size = source.size)
    (registry : Registry) (location : Url) :
    compile source' registry location = compile source registry location := by
  rw [compile_eq, compile_eq]
  obtain ⟨w, w', o, hcollect, hcollect', hw⟩ :=
    inStep_collect h hsize registry location.withoutFragment
  rw [hcollect, hcollect']
  cases o <;> simp only [hw.fetched, hw.compiled]

/-! ### Nodes in another order -/

/-- Both sources have a node at a location or neither has, and the nodes differ in the order of
properties only. -/
structure MakesAlike (source source' : Source) : Prop where
  onward : ∀ {u : Url} {n : Node}, Makes source u n → ∃ n', Makes source' u n' ∧ n.Reordered n'
  back : ∀ {u : Url} {n' : Node}, Makes source' u n' → ∃ n, Makes source u n ∧ n.Reordered n'

namespace MakesAlike

variable (h : MakesAlike source source')

include h

theorem symm : MakesAlike source' source where
  onward hn := by
    obtain ⟨n', hn', hreordered⟩ := h.back hn
    exact ⟨n', hn', hreordered.symm⟩
  back hn' := by
    obtain ⟨n, hn, hreordered⟩ := h.onward hn'
    exact ⟨n, hn, hreordered.symm⟩

/-- A schema refers to the same locations. -/
theorem refers_iff (hmakes : ∃ n, Makes source u n) :
    source'.Refers u v ↔ source.Refers u v := by
  obtain ⟨n, hn⟩ := hmakes
  obtain ⟨n', hn', hreordered⟩ := h.onward hn
  rw [← hn.mem_references_iff, ← hn'.mem_references_iff, hreordered.mem_references_iff]

/-- It leaves the decision to the same locations. -/
theorem leaves_iff (hmakes : ∃ n, Makes source u n) :
    source'.Leaves u v ↔ source.Leaves u v := by
  obtain ⟨n, hn⟩ := hmakes
  obtain ⟨n', hn', hreordered⟩ := h.onward hn
  rw [← hn.mem_gates_iff, ← hn'.mem_gates_iff, hreordered.mem_gates_iff]

/-- What a schema leads to is where it leads in the other source. -/
theorem reaches_of_reaches (hschema : source.HasSchema u)
    (hreach : ReflTransGen source'.Refers u v) : ReflTransGen source.Refers u v := by
  induction hreach with
  | refl => exact .refl
  | tail _ hrefers ih =>
    exact ih.tail ((h.refers_iff (exists_makes_iff.mpr (hschema.wellFormed _ ih))).mp hrefers)

/-- What is a schema in one source is a schema in the other one. -/
theorem hasSchema (hschema : source.HasSchema u) : source'.HasSchema u where
  wellFormed v hreach := by
    obtain ⟨n, hn⟩ :=
      exists_makes_iff.mpr (hschema.wellFormed v (h.reaches_of_reaches hschema hreach))
    obtain ⟨n', hn', -⟩ := h.onward hn
    exact exists_makes_iff.mp ⟨n', hn'⟩
  acyclic v hreach hcircle := by
    have hv := h.reaches_of_reaches hschema hreach
    -- On the path: all of it is reached in the first source.
    have hpath : ∀ w, TransGen source'.Leaves v w → TransGen source.Leaves v w := by
      intro w hw
      induction hw with
      | single hleaves =>
        exact .single ((h.leaves_iff (exists_makes_iff.mpr (hschema.wellFormed v hv))).mp hleaves)
      | tail _ hleaves ih =>
        have hmakes := exists_makes_iff.mpr
          (hschema.wellFormed _ (hv.trans (reaches_of_leaves ih)))
        exact ih.tail ((h.leaves_iff hmakes).mp hleaves)
    exact hschema.acyclic v hv (hpath v hcircle)

theorem hasSchema_iff : source.HasSchema u ↔ source'.HasSchema u :=
  ⟨h.hasSchema, h.symm.hasSchema⟩

theorem reaches_iff (hschema : source.HasSchema u) :
    ReflTransGen source.Refers u v ↔ ReflTransGen source'.Refers u v :=
  ⟨h.symm.reaches_of_reaches (h.hasSchema hschema), h.reaches_of_reaches hschema⟩

end MakesAlike

/-- Two compilations both succeed or both fail. If they succeed they have asked for the same
locations, and the nodes that are registered differ in the order of properties only. -/
structure SameUpToOrder (c c' : Compilation) : Prop where
  succeeds : (∃ n, c.result = .ok n) ↔ ∃ n, c'.result = .ok n
  fetched : (∃ n, c.result = .ok n) → c.fetched.Perm c'.fetched
  registered : (∃ n, c.result = .ok n) →
    ∀ v, Option.Rel Node.Reordered (c.registry.get? v) (c'.registry.get? v)
  result : ∀ n, c.result = .ok n → ∃ n', c'.result = .ok n' ∧ n.Reordered n'

/-- A compilation that succeeds has asked for what it registers. -/
theorem mem_fetched_iff {n : Node} (h : (compile source ∅ location).result = .ok n) :
    u ∈ (compile source ∅ location).fetched ↔
      u.withoutFragment = u ∧ (compile source ∅ location).registry.has u := by
  have hiff := mem_fetched_compile_iff h u
  constructor
  · intro hu
    have hplain := (sparing_compile source ∅ location).plain u hu
    rw [hplain] at hiff
    exact ⟨hplain, (hiff.mp hu).1⟩
  · rintro ⟨hplain, hhas⟩
    rw [hplain] at hiff
    exact hiff.mpr ⟨hhas, Registry.has_empty u⟩

/-- Sources whose nodes differ in the order of properties only are compiled alike. -/
theorem sameUpToOrder_compile (h : MakesAlike source source') (hsized : source.Sized)
    (hsized' : source'.Sized) (location : Url) :
    SameUpToOrder (compile source ∅ location) (compile source' ∅ location) := by
  have hsucceeds : (∃ n, (compile source ∅ location).result = .ok n) ↔
      ∃ n, (compile source' ∅ location).result = .ok n := by
    rw [exists_compile_iff_hasSchema hsized, exists_compile_iff_hasSchema hsized', h.hasSchema_iff]
  have hhas : ∀ {n n' : Node}, (compile source ∅ location).result = .ok n →
      (compile source' ∅ location).result = .ok n' → ∀ v,
      (compile source ∅ location).registry.has v ↔
        (compile source' ∅ location).registry.has v := by
    intro n n' hn hn' v
    rw [has_compile_iff_reaches hsized hn, has_compile_iff_reaches hsized' hn',
      h.reaches_iff (hasSchema_of_compile hn)]
  have hregistered : (∃ n, (compile source ∅ location).result = .ok n) → ∀ v,
      Option.Rel Node.Reordered ((compile source ∅ location).registry.get? v)
        ((compile source' ∅ location).registry.get? v) := by
    rintro ⟨n, hn⟩ v
    obtain ⟨n', hn'⟩ := hsucceeds.mp ⟨n, hn⟩
    rcases hv : (compile source ∅ location).registry.get? v with _ | m
    · have hnot := mt (hhas hn hn' v).mpr (by simp [Registry.has, hv])
      rw [Registry.has_eq_false_iff.mp (by simpa using hnot)]
      exact .none
    · obtain ⟨m', hv'⟩ :=
        Registry.has_iff.mp ((hhas hn hn' v).mp (Registry.has_iff.mpr ⟨m, hv⟩))
      have hm := madeFrom_compile (History.empty source).madeFrom location v m hv
      have hm' := madeFrom_compile (History.empty source').madeFrom location v m' hv'
      obtain ⟨m'', hm'', hreordered⟩ := h.onward hm
      rw [hv', hm'.unique hm'']
      exact .some hreordered
  refine ⟨hsucceeds, fun hsuccess => ?_, hregistered, fun n hn => ?_⟩
  · obtain ⟨n, hn⟩ := hsuccess
    obtain ⟨n', hn'⟩ := hsucceeds.mp ⟨n, hn⟩
    refine (List.perm_ext_iff_of_nodup (sparing_compile source ∅ location).nodup
      (sparing_compile source' ∅ location).nodup).mpr fun u => ?_
    rw [mem_fetched_iff hn, mem_fetched_iff hn', hhas hn hn' u]
  · obtain ⟨n', hn'⟩ := hsucceeds.mp ⟨n, hn⟩
    have hrel := hregistered ⟨n, hn⟩ location
    rw [get?_of_compile hn, get?_of_compile hn'] at hrel
    cases hrel with
    | some hreordered => exact ⟨n', hn', hreordered⟩

/-! ### Changes of documents -/

/-- A schema becomes the same after any number of changes. -/
theorem elaborate_eq_of_edits {raw raw' : Json}
    (h : ReflTransGen (Json.Edit false false) raw raw') (base : Url) :
    Node.elaborate base raw' = Node.elaborate base raw := by
  induction h with
  | refl => rfl
  | tail _ hlast ih => rw [hlast.elaborate_eq, ih]

theorem alike_of_edits {free : Bool} {raw raw' : Json}
    (h : ReflTransGen (Json.Edit free false) raw raw') (base : Url) :
    Node.Alike base raw raw' := by
  induction h with
  | refl => exact .of_eq rfl
  | tail _ hlast ih => exact ih.trans (hlast.alike base)

/-- A document that was not changed is read alike. -/
theorem read_congr (h : source'.fetch u = source.fetch u) :
    Worklist.read source' u = Worklist.read source u := by
  unfold Worklist.read
  rw [h]

theorem matches_of_edited (h : source.EditedTo false source') : Matches source source' := by
  intro u
  obtain hfetch | ⟨raw, raw', hraw, hraw', hedits⟩ := h.fetch u
  · rw [read_congr hfetch]
    rcases Worklist.read source u with e | raw
    · exact .inl ⟨e, rfl, rfl⟩
    · exact .inr ⟨raw, raw, rfl, rfl, rfl⟩
  · exact .inr ⟨raw, raw', read_eq_ok_iff.mpr hraw, read_eq_ok_iff.mpr hraw',
      elaborate_eq_of_edits hedits u⟩

theorem makesAlike_of_edited {free : Bool} (h : source.EditedTo free source') :
    MakesAlike source source' := by
  constructor
  · rintro u n ⟨raw, hread, hn⟩
    obtain hfetch | ⟨raw₁, raw', hraw, hraw', hedits⟩ := h.fetch u
    · exact ⟨n, ⟨raw, (read_congr hfetch).trans hread, hn⟩, .refl n⟩
    · obtain rfl := hraw.unique (read_eq_ok_iff.mp hread)
      obtain ⟨n', hn', hreordered⟩ := (alike_of_edits hedits u).onward n hn
      exact ⟨n', ⟨raw', read_eq_ok_iff.mpr hraw', hn'⟩, hreordered⟩
  · rintro u n' ⟨raw', hread', hn'⟩
    obtain hfetch | ⟨raw, raw₁, hraw, hraw', hedits⟩ := h.fetch u
    · exact ⟨n', ⟨raw', (read_congr hfetch).symm.trans hread', hn'⟩, .refl n'⟩
    · obtain rfl := hraw'.unique (read_eq_ok_iff.mp hread')
      obtain ⟨n, hn, hreordered⟩ := (alike_of_edits hedits u).back n' hn'
      exact ⟨n, ⟨raw, read_eq_ok_iff.mpr hraw, hn⟩, hreordered⟩

/-- The source answers for the same locations. -/
theorem sized_of_edited {free : Bool} (h : source.EditedTo free source') (hsized : source.Sized) :
    source'.Sized := by
  obtain ⟨locations, hlength, honly⟩ := hsized
  refine ⟨locations, h.size ▸ hlength, fun u hu => honly u ?_⟩
  obtain hfetch | ⟨raw, -, ⟨text, htext, -⟩, -⟩ := h.fetch u
  · rwa [hfetch] at hu
  · rw [htext]
    rfl

/-- Both compilations of a location are the same, whatever is registered, if only members were
changed that are not consulted and the order of keywords. If the order of declared properties was
changed as well, the compilations from an empty registry differ in it only. -/
theorem compile_of_edited :
    (source.EditedTo false source' → ∀ registry location,
      compile source' registry location = compile source registry location) ∧
    (source.Sized → source.EditedTo true source' → ∀ location,
      SameUpToOrder (compile source ∅ location) (compile source' ∅ location)) :=
  ⟨fun h => compile_eq_of_matches (matches_of_edited h) h.size, fun hsized h =>
    sameUpToOrder_compile (makesAlike_of_edited h) hsized (sized_of_edited h hsized)⟩

/-! ### An example: an object with two properties -/

namespace Reworded

/-- The schema. -/
def members : Json.Members :=
  [("type", .string "object"), ("properties", .object [("a", .object []), ("b", .object [])])]

/-- The schema with a title in front of its type, and the type last. -/
def titled : Json.Members :=
  [("title", .string "t"), ("properties", .object [("a", .object []), ("b", .object [])]),
    ("type", .string "object")]

/-- The schema with its properties declared in another order. -/
def swapped : Json.Members :=
  members.insert "properties" (.object [("b", .object []), ("a", .object [])])

/-- A source that has one schema and nothing else. -/
def sourceOf (members : Json.Members) : Source :=
  .ofDocuments [(LinkedList.location, .ok (Json.object members).compact)]

/-- Other locations have no document. -/
theorem editedTo_sourceOf {free : Bool} {members members' : Json.Members}
    (hparse : Json.parse? (Json.object members).compact = some (.object members))
    (hparse' : Json.parse? (Json.object members').compact = some (.object members'))
    (h : ReflTransGen (Json.Edit free false) (.object members) (.object members')) :
    (sourceOf members).EditedTo free (sourceOf members') := by
  refine ⟨rfl, fun u => ?_⟩
  by_cases hu : u = LinkedList.location
  · subst hu
    exact .inr ⟨_, _, ⟨_, by simp [sourceOf, Source.ofDocuments], hparse⟩,
      ⟨_, by simp [sourceOf, Source.ofDocuments], hparse'⟩, h⟩
  · have hnot : (u == LinkedList.location) = false := beq_eq_false_iff_ne.mpr hu
    exact .inl (by simp [sourceOf, Source.ofDocuments, List.lookup_cons, hnot])

/-- The node of the schema. -/
def node : Node := .object [⟨"a", false, .any⟩, ⟨"b", false, .any⟩] .allowed

theorem elaborate_members (base : Url) :
    Node.elaborate base (.object members) = ⟨[], .ok node⟩ := by
  simp [members, node, Node.elaborate.eq_def, Node.elaborateObject, Node.elaborateAdditional.eq_def,
    Node.elaborateDeclared.eq_def, Node.elaborateProperties, Json.Members.get?, List.lookup_cons,
    Node.required?, Node.boolKeyword?, Except.map]
  rfl

theorem compile_members :
    (compile (sourceOf members) ∅ LinkedList.location).result = .ok node := by
  have hread : Worklist.read (sourceOf members) LinkedList.location = .ok (.object members) := by
    cbv
  have hloop : findLoop? ∅ [(LinkedList.location, node)] = none := by cbv
  have hcompile := compile_single LinkedList.withoutFragment_location rfl Nat.zero_lt_one hread
    (by rw [elaborate_members]) (by simp [elaborate_members]) hloop
  rw [hcompile]

end Reworded

/-- A title changes nothing, and the order of properties only their own. -/
theorem compile_reworded : (Reworded.sourceOf Reworded.members).Sized ∧
    (Reworded.sourceOf Reworded.members).EditedTo false (Reworded.sourceOf Reworded.titled) ∧
    (compile (Reworded.sourceOf Reworded.members) ∅ LinkedList.location).result
      = .ok Reworded.node ∧
    compile (Reworded.sourceOf Reworded.titled) ∅ LinkedList.location
      = compile (Reworded.sourceOf Reworded.members) ∅ LinkedList.location ∧
    (Reworded.sourceOf Reworded.members).EditedTo true (Reworded.sourceOf Reworded.swapped) ∧
    SameUpToOrder (compile (Reworded.sourceOf Reworded.members) ∅ LinkedList.location)
      (compile (Reworded.sourceOf Reworded.swapped) ∅ LinkedList.location) := by
  have hsized : (Reworded.sourceOf Reworded.members).Sized := Source.sized_ofDocuments _
  have htitled : (Reworded.sourceOf Reworded.members).EditedTo false
      (Reworded.sourceOf Reworded.titled) := by
    refine Reworded.editedTo_sourceOf (by cbv) (by cbv) ?_
    have horder : Json.Edit false false (.object Reworded.members)
        (.object (Reworded.members.reverse)) :=
      .order (by decide) (List.reverse_perm _).symm
    have hadd : Json.Edit false false (.object (Reworded.members.reverse))
        (.object Reworded.titled) :=
      @Json.Edit.add false false [] _ "title" _ (by decide)
    exact (ReflTransGen.single horder).tail hadd
  have hswapped : (Reworded.sourceOf Reworded.members).EditedTo true
      (Reworded.sourceOf Reworded.swapped) := by
    refine Reworded.editedTo_sourceOf (by cbv) (by cbv) (.single ?_)
    exact .orderProperties rfl rfl rfl rfl (.swap _ _ _)
  exact ⟨hsized, htitled, Reworded.compile_members, compile_of_edited.1 htitled ∅ _, hswapped,
    compile_of_edited.2 hsized hswapped _⟩

end Compilation
end DraftSchema
