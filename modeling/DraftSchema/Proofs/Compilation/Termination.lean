import DraftSchema.Proofs.Compilation.History

/-!
# `DraftSchema.Proofs.Compilation.Termination`: compilations come to an end

A compilation counts down a limit on the documents that it takes, and the search for loops
one on the length of a path. Neither limit is part of what a compilation means: `WalksTo`,
`DrainsTo` and `ComesTo` say what it comes to where nothing is counted, step by step, so
that it comes to something only if it takes finitely many steps. A source is a function,
because no location is asked for twice while one compilation lasts. The theorems:

* `walksTo_walkAll`: a walk ends, because the locations on its path are different ones, and
  all of them are in the batch or named by a node.
* `drainsTo_drain`: the documents that wait get used up, because every document that starts
  to wait is one more that the source has.
* `compile_ends`: so every compilation ends, whatever the registry holds, and in the one way
  in which it ends with a limit that is high enough.
-/

set_option autoImplicit false

namespace DraftSchema.Compilation

/-! ### The search for loops -/

/-- What a walk over some locations comes to. A location is left out if it is finished,
closes a loop if it is on the path, and is otherwise walked through, with the path made
longer by it. -/
inductive WalksTo (targets : Url → List Url) :
    (path finished us : List Url) → Walk → Prop where
  | done {path finished : List Url} : WalksTo targets path finished [] (.ok finished)
  | finished {path finished rest : List Url} {u : Url} {result : Walk} (h : u ∈ finished)
      (hrest : WalksTo targets path finished rest result) :
      WalksTo targets path finished (u :: rest) result
  | loop {path finished rest : List Url} {u : Url} (hnew : u ∉ finished) (h : u ∈ path) :
      WalksTo targets path finished (u :: rest) (.error (path.dropWhile (· ≠ u) ++ [u]))
  | stopped {path finished rest loop : List Url} {u : Url} (hnew : u ∉ finished)
      (hfresh : u ∉ path)
      (hon : WalksTo targets (path ++ [u]) finished (targets u) (.error loop)) :
      WalksTo targets path finished (u :: rest) (.error loop)
  | passed {path finished finished' rest : List Url} {u : Url} {result : Walk}
      (hnew : u ∉ finished) (hfresh : u ∉ path)
      (hon : WalksTo targets (path ++ [u]) finished (targets u) (.ok finished'))
      (hrest : WalksTo targets path (u :: finished') rest result) :
      WalksTo targets path finished (u :: rest) result

/-- A walk comes to one thing. -/
theorem WalksTo.unique {targets : Url → List Url} {path finished us : List Url}
    {result result' : Walk} (h : WalksTo targets path finished us result)
    (h' : WalksTo targets path finished us result') : result = result' := by
  induction h generalizing result' with
  | done =>
    cases h'
    rfl
  | finished hmem _ ih =>
    cases h' with
    | finished _ hrest => exact ih hrest
    | loop hnew | stopped hnew | passed hnew => exact absurd hmem hnew
  | loop hnew hmem =>
    cases h' with
    | finished h => exact absurd h hnew
    | loop => rfl
    | stopped _ hfresh | passed _ hfresh => exact absurd hmem hfresh
  | stopped hnew hfresh _ ih =>
    cases h' with
    | finished h => exact absurd h hnew
    | loop _ h => exact absurd h hfresh
    | stopped _ _ hon => exact ih hon
    | passed _ _ hon => cases ih hon
  | passed hnew hfresh _ _ ihon ihrest =>
    cases h' with
    | finished h => exact absurd h hnew
    | loop _ h => exact absurd h hfresh
    | stopped _ _ hon => cases ihon hon
    | passed _ _ hon hrest =>
      cases ihon hon
      exact ihrest hrest

/-- Locations are walked one after the other. It is enough that the walk goes on from those
that are neither finished nor on the path. -/
theorem walksTo_walkAll_of_on {targets : Url → List Url} {depth : Nat} {path us : List Url}
    (hon : ∀ u ∈ us, u ∉ path → ∃ left, depth = left + 1 ∧ ∀ finished,
      WalksTo targets (path ++ [u]) finished (targets u)
        (walkAll targets left (path ++ [u]) finished (targets u))) (finished : List Url) :
    WalksTo targets path finished us (walkAll targets depth path finished us) := by
  induction us generalizing finished with
  | nil =>
    rw [walkAll]
    exact .done
  | cons u rest ih =>
    have hrest := ih fun v hv => hon v (List.mem_cons_of_mem _ hv)
    rw [walkAll]
    by_cases hfin : u ∈ finished
    · rw [walk.eq_def, if_pos hfin]
      exact .finished hfin (hrest finished)
    · by_cases hmem : u ∈ path
      · rw [walk.eq_def, if_neg hfin, if_pos hmem]
        exact .loop hfin hmem
      · obtain ⟨left, rfl, hwalk⟩ := hon u List.mem_cons_self hmem
        have hu := hwalk finished
        rw [walk, if_neg hfin, if_neg hmem]
        rcases hwalked : walkAll targets left (path ++ [u]) finished (targets u)
          with loop | finished'
        · rw [hwalked] at hu
          exact .stopped hfin hmem hu
        · rw [hwalked] at hu
          exact .passed hfin hmem hu (hrest (u :: finished'))

/-- Where there is depth for every path, the depth has no part in what a walk comes to. -/
theorem walksTo_walkAll {targets : Url → List Url} {known : Finset Url}
    (hclosed : Known targets known) {depth : Nat} {path us : List Url}
    (hroom : HasRoom known path depth) (hus : ∀ u ∈ us, u ∈ known) (finished : List Url) :
    WalksTo targets path finished us (walkAll targets depth path finished us) := by
  -- A path that gets longer leaves room for one location less.
  induction depth generalizing path us finished with
  | zero =>
    refine walksTo_walkAll_of_on (fun u hu hmem => ?_) finished
    obtain ⟨left, hleft, -⟩ := hroom.next (hus u hu) hmem
    omega
  | succ depth ih =>
    refine walksTo_walkAll_of_on (fun u hu hmem => ?_) finished
    obtain ⟨left, hleft, hnext⟩ := hroom.next (hus u hu) hmem
    obtain rfl : left = depth := by omega
    exact ⟨left, rfl, ih hnext (hclosed u (hus u hu))⟩

/-- The search through a batch ends, whatever the batch and the registry are. -/
theorem walksTo_batch (registry : Registry) (batch : List (Url × Node)) :
    WalksTo (gates registry batch) [] [] (batch.map (·.1))
      (walkAll (gates registry batch) (depthBound registry batch) [] [] (batch.map (·.1))) :=
  walksTo_walkAll (known_searched registry batch) (hasRoom_depthBound registry batch)
    (fun _ hu => mem_searched hu) []

/-! ### The documents that wait -/

namespace Worklist

/-- What compiling the documents that wait comes to, with the number of documents that are
taken for it. -/
inductive DrainsTo (source : Source) (registry : Registry) :
    Nat → Worklist → Worklist × Option SchemaError → Prop where
  | done {w : Worklist} (h : w.pending = []) : DrainsTo source registry 0 w (w, none)
  | unread {w w' : Worklist} {u : Url} {raw : Json} {rest : List (Url × Json)} {e : SchemaError}
      (h : w.pending = (u, raw) :: rest)
      (hscheduled : { w with pending := rest }.scheduleAll source registry
        (Node.elaborate u raw).references = (w', some e)) :
      DrainsTo source registry 1 w (w', some e)
  | defect {w w' : Worklist} {u : Url} {raw : Json} {rest : List (Url × Json)} {d : Defect}
      (h : w.pending = (u, raw) :: rest)
      (hscheduled : { w with pending := rest }.scheduleAll source registry
        (Node.elaborate u raw).references = (w', none))
      (hnode : (Node.elaborate u raw).result = .error d) :
      DrainsTo source registry 1 w (w', some ⟨u.text, .defect d⟩)
  | next {w w' : Worklist} {u : Url} {raw : Json} {rest : List (Url × Json)} {node : Node}
      {taken : Nat} {outcome : Worklist × Option SchemaError} (h : w.pending = (u, raw) :: rest)
      (hscheduled : { w with pending := rest }.scheduleAll source registry
        (Node.elaborate u raw).references = (w', none))
      (hnode : (Node.elaborate u raw).result = .ok node)
      (hrest : DrainsTo source registry taken
        { w' with compiled := w'.compiled ++ [(u, node)] } outcome) :
      DrainsTo source registry (taken + 1) w outcome

variable {source : Source} {registry : Registry} {w : Worklist}

/-- Compiling the documents that wait comes to one thing. -/
theorem DrainsTo.unique {taken taken' : Nat} {outcome outcome' : Worklist × Option SchemaError}
    (h : DrainsTo source registry taken w outcome)
    (h' : DrainsTo source registry taken' w outcome') : outcome = outcome' := by
  induction h generalizing taken' outcome' with
  | done hnil =>
    cases h' with
    | done => rfl
    | unread h | defect h | next h => simp [hnil] at h
  | unread hpending hscheduled =>
    cases h' with
    | done h => simp [hpending] at h
    | unread h hscheduled' =>
      cases hpending.symm.trans h
      exact hscheduled.symm.trans hscheduled'
    | defect h hscheduled' | next h hscheduled' =>
      cases hpending.symm.trans h
      cases hscheduled.symm.trans hscheduled'
  | defect hpending hscheduled hnode =>
    cases h' with
    | done h => simp [hpending] at h
    | unread h hscheduled' =>
      cases hpending.symm.trans h
      cases hscheduled.symm.trans hscheduled'
    | defect h hscheduled' hnode' =>
      cases hpending.symm.trans h
      cases hscheduled.symm.trans hscheduled'
      cases hnode.symm.trans hnode'
      rfl
    | next h hscheduled' hnode' =>
      cases hpending.symm.trans h
      cases hnode.symm.trans hnode'
  | next hpending hscheduled hnode _ ih =>
    cases h' with
    | done h => simp [hpending] at h
    | unread h hscheduled' =>
      cases hpending.symm.trans h
      cases hscheduled.symm.trans hscheduled'
    | defect h hscheduled' hnode' =>
      cases hpending.symm.trans h
      cases hnode.symm.trans hnode'
    | next h hscheduled' hnode' hrest =>
      cases hpending.symm.trans h
      cases hscheduled.symm.trans hscheduled'
      cases hnode.symm.trans hnode'
      exact ih hrest

/-- With a limit that suffices for all documents that the source has, the limit has no part
in what compiling the documents that wait comes to. -/
theorem drainsTo_drain {locations : List Url} (honly : source.AnswersOnly locations)
    (hw : Valid source registry [] w) {limit : Nat}
    (hlimit : locations.length ≤ w.compiled.length + limit) :
    ∃ taken ≤ limit, DrainsTo source registry taken w (w.drain source registry limit) := by
  -- A document that is taken is one less that may be taken and one more that is compiled.
  induction limit generalizing w with
  | zero =>
    have hlength := hw.length_le honly
    have hpending : w.pending = [] := List.eq_nil_of_length_eq_zero (by omega)
    rw [drain_of_pending_eq_nil _ hpending]
    exact ⟨0, Nat.le_refl 0, .done hpending⟩
  | succ limit ih =>
    rcases hpending : w.pending with _ | ⟨⟨u, raw⟩, rest⟩
    · rw [drain_of_pending_eq_nil _ hpending]
      exact ⟨0, Nat.zero_le _, .done hpending⟩
    · rw [drain_of_pending_eq_cons limit hpending]
      rcases hscheduled : { w with pending := rest }.scheduleAll source registry
        (Node.elaborate u raw).references with ⟨w₁, _ | e⟩ <;> rw [hscheduled]
      · rcases hnode : (Node.elaborate u raw).result with d | node
        · exact ⟨1, by omega, .defect hpending hscheduled hnode⟩
        · obtain ⟨hw₁, -, hcompiled⟩ := hw.step hpending hscheduled hnode
          have hlimit₁ : locations.length ≤ (w₁.compiled ++ [(u, node)]).length + limit := by
            rw [List.length_append, List.length_singleton, hcompiled]
            omega
          obtain ⟨taken, htaken, hrest⟩ := ih hw₁ hlimit₁
          exact ⟨taken + 1, by omega, .next hpending hscheduled hnode hrest⟩
      · exact ⟨1, by omega, .unread hpending hscheduled⟩

end Worklist

/-! ### Compilations -/

/-- What is made of the documents that were collected for a location, with the loop among
them that is met first, if there is one. -/
inductive Concludes (registry : Registry) (location : Url) :
    Worklist × Option SchemaError → Compilation → Prop where
  | failed {w : Worklist} {e : SchemaError} :
      Concludes registry location (w, some e) ⟨w.fetched, registry, .error e⟩
  | loops {w : Worklist} {loop : List Url}
      (hwalk : WalksTo (gates registry w.compiled) [] [] (w.compiled.map (·.1)) (.error loop)) :
      Concludes registry location (w, none) ⟨w.fetched, registry, .error (loopError loop)⟩
  | registers {w : Worklist} {finished : List Url}
      (hwalk : WalksTo (gates registry w.compiled) [] [] (w.compiled.map (·.1)) (.ok finished)) :
      Concludes registry location (w, none)
        ⟨w.fetched, registry.registerAll w.compiled,
          match (registry.registerAll w.compiled).get? location with
          | some node => .ok node
          | none => .error (.notFound location.withoutFragment.text)⟩

/-- One thing is made of the documents. -/
theorem Concludes.unique {registry : Registry} {location : Url}
    {outcome : Worklist × Option SchemaError} {c c' : Compilation}
    (h : Concludes registry location outcome c) (h' : Concludes registry location outcome c') :
    c = c' := by
  cases h with
  | failed =>
    cases h'
    rfl
  | loops hwalk =>
    cases h' with
    | loops hwalk' =>
      cases hwalk.unique hwalk'
      rfl
    | registers hwalk' => cases hwalk.unique hwalk'
  | registers hwalk =>
    cases h' with
    | loops hwalk' => cases hwalk.unique hwalk'
    | registers hwalk' => rfl

/-- What compiling a location comes to, with the number of documents that are taken for
it. -/
inductive ComesTo (source : Source) (registry : Registry) (location : Url) :
    Nat → Compilation → Prop where
  | unread {w : Worklist} {e : SchemaError}
      (h : Worklist.start.schedule source registry location.withoutFragment = (w, some e)) :
      ComesTo source registry location 0 ⟨w.fetched, registry, .error e⟩
  | collected {w : Worklist} {taken : Nat} {outcome : Worklist × Option SchemaError}
      {c : Compilation}
      (h : Worklist.start.schedule source registry location.withoutFragment = (w, none))
      (hdrain : w.DrainsTo source registry taken outcome)
      (hconcludes : Concludes registry location outcome c) :
      ComesTo source registry location taken c

/-- Compiling a location comes to one thing. -/
theorem ComesTo.unique {source : Source} {registry : Registry} {location : Url}
    {taken taken' : Nat} {c c' : Compilation} (h : ComesTo source registry location taken c)
    (h' : ComesTo source registry location taken' c') : c = c' := by
  -- The phases come to one thing each, so that both go the same way.
  cases h with
  | unread hstart =>
    cases h' with
    | unread hstart' =>
      cases hstart.symm.trans hstart'
      rfl
    | collected hstart' => cases hstart.symm.trans hstart'
  | collected hstart hdrain hconcludes =>
    cases h' with
    | unread hstart' => cases hstart.symm.trans hstart'
    | collected hstart' hdrain' hconcludes' =>
      cases hstart.symm.trans hstart'
      cases hdrain.unique hdrain'
      exact hconcludes.unique hconcludes'

/-- The compilation that is made of the documents that were collected for a location. -/
def conclude (registry : Registry) (location : Url) :
    Worklist × Option SchemaError → Compilation
  | (w, some e) => ⟨w.fetched, registry, .error e⟩
  | (w, none) =>
    match findLoop? registry w.compiled with
    | some loop => ⟨w.fetched, registry, .error (loopError loop)⟩
    | none =>
      ⟨w.fetched, registry.registerAll w.compiled,
        match (registry.registerAll w.compiled).get? location with
        | some node => .ok node
        | none => .error (.notFound location.withoutFragment.text)⟩

/-- A compilation collects documents and makes something of them. -/
theorem compile_eq_conclude (source : Source) (registry : Registry) (location : Url) :
    compile source registry location
      = conclude registry location (collect source registry location.withoutFragment) := by
  rw [compile_eq]
  rcases collect source registry location.withoutFragment with ⟨w, _ | e⟩
  · rfl
  · rfl

section

variable {source : Source} {registry : Registry} {location : Url} {locations : List Url}

/-- The search for loops ends, whatever was collected. -/
theorem concludes_conclude (registry : Registry) (location : Url)
    (outcome : Worklist × Option SchemaError) :
    Concludes registry location outcome (conclude registry location outcome) := by
  obtain ⟨w, _ | e⟩ := outcome
  · have hwalk := walksTo_batch registry w.compiled
    rcases hwalked : walkAll (gates registry w.compiled) (depthBound registry w.compiled) [] []
      (w.compiled.map (·.1)) with loop | finished <;> rw [hwalked] at hwalk
    · have hfound : findLoop? registry w.compiled = some loop := by rw [findLoop?, hwalked]
      simp only [conclude, hfound]
      exact .loops hwalk
    · have hfound : findLoop? registry w.compiled = none := by rw [findLoop?, hwalked]
      simp only [conclude, hfound]
      exact .registers hwalk
  · exact .failed

/-- With a limit on the documents that suffices for all that the source has, the limit has
no part in what the compilation comes to. -/
theorem comesTo_limited (honly : source.AnswersOnly locations) (registry : Registry)
    (location : Url) {limit : Nat} (hlimit : locations.length ≤ limit) :
    ∃ taken ≤ limit, ComesTo source registry location taken (conclude registry location
      (match Worklist.start.schedule source registry location.withoutFragment with
        | (w, some e) => (w, some e)
        | (w, none) => w.drain source registry limit)) := by
  rcases hstart : Worklist.start.schedule source registry location.withoutFragment
    with ⟨w, _ | e⟩
  · obtain ⟨hw, -, -⟩ := Worklist.valid_schedule (Worklist.valid_start source registry)
      (Url.withoutFragment_withoutFragment location) hstart
    obtain ⟨taken, htaken, hdrain⟩ :=
      Worklist.drainsTo_drain honly hw (hlimit.trans (Nat.le_add_left limit _))
    exact ⟨taken, htaken, .collected hstart hdrain (concludes_conclude registry location _)⟩
  · exact ⟨0, Nat.zero_le _, .unread hstart⟩

/-- A compilation with a source that has no more documents than it states comes to what it
comes to without a limit. -/
theorem comesTo_compile (honly : source.AnswersOnly locations)
    (hsize : locations.length ≤ source.size) (registry : Registry) (location : Url) :
    ∃ taken ≤ source.size,
      ComesTo source registry location taken (compile source registry location) := by
  rw [compile_eq_conclude]
  exact comesTo_limited honly registry location hsize

/-- With a source that answers for finitely many locations, every compilation ends, whatever
the registry holds: it takes no more documents than the source has, it comes to one thing,
and that is what it comes to with every limit from the number of documents upward. So does
the search for loops in every batch. -/
theorem compile_ends (honly : source.AnswersOnly locations) (registry : Registry) :
    (∀ location, ∃ taken ≤ locations.length, ∃ c, ComesTo source registry location taken c ∧
      (∀ taken' c', ComesTo source registry location taken' c' → c' = c) ∧
      (locations.length ≤ source.size → compile source registry location = c)) ∧
    ∀ batch : List (Url × Node), ∃ found,
      WalksTo (gates registry batch) [] [] (batch.map (·.1)) found ∧
      (∀ found', WalksTo (gates registry batch) [] [] (batch.map (·.1)) found' →
        found' = found) ∧
      walkAll (gates registry batch) (depthBound registry batch) [] [] (batch.map (·.1))
        = found := by
  refine ⟨fun location => ?_, fun batch => ?_⟩
  · obtain ⟨taken, htaken, hc⟩ :=
      comesTo_limited honly registry location (Nat.le_refl locations.length)
    refine ⟨taken, htaken, _, hc, fun taken' c' hc' => hc'.unique hc, fun hsize => ?_⟩
    obtain ⟨taken', -, hcompile⟩ := comesTo_compile honly hsize registry location
    exact hcompile.unique hc
  · have hwalk := walksTo_batch registry batch
    exact ⟨_, hwalk, fun found' hfound' => hfound'.unique hwalk, rfl⟩

end

/-! ### An example: documents that refer to each other

Each of two schemas is about arrays whose elements have the other one. Two nodes that were
made by hand refer to each other and to nothing else, one of them with a fragment. -/

namespace Mutual

/-- A location of a file. -/
def file (path : String) : Url := ⟨"file", some ⟨"", "", none, none⟩, path, none, none⟩

/-- The schema of arrays whose elements have the schema that a reference leads to. -/
def arrayOf (reference : String) : Json :=
  .object [("type", .string "array"), ("items", .object [("$ref", .string reference)])]

/-- The source that has the two schemas. -/
def source : Source := .ofDocuments
  [(file "/a", .ok (arrayOf "b").compact), (file "/b", .ok (arrayOf "a").compact)]

/-- The nodes that were made by hand. -/
def registry : Registry :=
  ⟨[(file "/x", .reference { file "/y" with fragment := some "here" }),
    (file "/y", .reference (file "/x"))]⟩

end Mutual

/-- Compiling one of the two schemas takes two documents at most. -/
theorem mutual_ends :
    Mutual.source.AnswersOnly [Mutual.file "/a", Mutual.file "/b"] ∧
      ∃ taken ≤ 2, ComesTo Mutual.source Mutual.registry (Mutual.file "/a") taken
        (compile Mutual.source Mutual.registry (Mutual.file "/a")) := by
  have honly : Mutual.source.AnswersOnly [Mutual.file "/a", Mutual.file "/b"] :=
    Source.answersOnly_ofDocuments _
  obtain ⟨taken, htaken, c, hc, -, hcompile⟩ :=
    (compile_ends honly Mutual.registry).1 (Mutual.file "/a")
  refine ⟨honly, taken, htaken, ?_⟩
  rw [hcompile (Nat.le_refl 2)]
  exact hc

end DraftSchema.Compilation
