import DraftSchema.Proofs.Node.Declared
import DraftSchema.Proofs.Validation.Answers
import DraftSchema.Proofs.Validation.Checks

/-!
# `DraftSchema.Proofs.Validation.Walks`: the walk through a document

A schema without unions is applied to a document by a walk: it comes to a place of the
document with a schema, and from there to the parts of the place with the schemas that govern
them. `Registry.Walk` lists the visits of a walk in their order, each with the path to its
place and the checks that are made there. The theorems:

* `Walk.unique`: a node is applied to a value in one way.
* `Walk.nodup_paths`: no place is visited twice.
* `Walk.exists_visit_of_member`: every member of an object is visited, with what governs it:
  the schema of the property that declares it or, if it is not declared, what holds for
  undeclared members.
-/

set_option autoImplicit false

namespace DraftSchema

open Json (Path Step)

/-! ### Visits -/

/-- What a place of a document is checked against. -/
inductive Applied where
  | node (n : Node) (v : Json)
  /-- A property that an object lacks. -/
  | lacking (p : Property Node)
  /-- A member that is not declared, where no schema holds for it. -/
  | additional (forbidden : Bool) (v : Json)

/-- The checks at a place, in their order. A value of another type is checked for nothing
else. -/
def Applied.checks : Applied → List Check
  | .node (.simple schema) v =>
    .ofType schema.type v ::
      if schema.type.accepts v then Condition.all.map (.condition · schema v) else []
  | .node (.object _ _) v => [.isObject v]
  | .node (.array _ minItems maxItems) (.array elements) =>
    [.isArray (.array elements), .atMost maxItems elements.length,
      .atLeast minItems elements.length]
  | .node (.array _ _ _) v => [.isArray v]
  | .node (.union _) _ => []
  | .node (.reference _) _ => []
  | .lacking p => [.present p.name p.required]
  | .additional forbidden _ => [.expected forbidden]

/-- A place that a walk comes to. -/
structure Visit where
  path : Path
  applied : Applied

namespace Visit

/-- The checks of a visit, with the place. -/
def checks (x : Visit) : List (Path × Check) := x.applied.checks.map (x.path, ·)

/-- The visits to the parts of a value, from those of walks through the parts. -/
def inParts (parts : List (Step × List Visit)) : List Visit :=
  parts.flatMap fun part => part.2.map fun x => ⟨part.1 :: x.path, x.applied⟩

theorem mem_inParts {parts : List (Step × List Visit)} {y : Visit} :
    y ∈ inParts parts ↔
      ∃ part ∈ parts, ∃ x ∈ part.2, (⟨part.1 :: x.path, x.applied⟩ : Visit) = y := by
  simp [inParts]

/-- No place is visited twice if that is so in each part and no part is visited twice. -/
theorem nodup_inParts {parts : List (Step × List Visit)} (hsteps : (parts.map (·.1)).Nodup)
    (hinner : ∀ part ∈ parts, (part.2.map (·.path)).Nodup) :
    ((inParts parts).map (·.path)).Nodup := by
  have hpaths : (inParts parts).map (·.path)
      = parts.flatMap fun part => (part.2.map (·.path)).map (part.1 :: ·) := by
    simp [inParts, List.map_flatMap, Function.comp_def]
  rw [hpaths, List.nodup_flatMap]
  refine ⟨fun part hpart => ?_, ?_⟩
  · exact (hinner part hpart).map fun _ _ heq => (List.cons.inj heq).2
  · -- The paths into different parts start with different steps.
    refine (List.pairwise_map.mp hsteps).imp fun {a b} hne => ?_
    intro path ha hb
    obtain ⟨front, -, rfl⟩ := List.mem_map.mp ha
    obtain ⟨back, -, heq⟩ := List.mem_map.mp hb
    exact hne (List.cons.inj heq).1.symm

/-- The whole value is visited apart from its parts. -/
theorem nodup_cons_inParts {parts : List (Step × List Visit)} (applied : Applied)
    (hsteps : (parts.map (·.1)).Nodup)
    (hinner : ∀ part ∈ parts, (part.2.map (·.path)).Nodup) :
    (((⟨[], applied⟩ : Visit) :: inParts parts).map (·.path)).Nodup := by
  rw [List.map_cons, List.nodup_cons]
  refine ⟨fun hmem => ?_, nodup_inParts hsteps hinner⟩
  obtain ⟨x, hx, hpath⟩ := List.mem_map.mp hmem
  obtain ⟨part, -, y, -, rfl⟩ := mem_inParts.mp hx
  cases hpath

end Visit

/-- Whether undeclared members are forbidden, unless there is a schema for them. -/
def Additional.forbids : Additional Node → Option Bool
  | .allowed => some false
  | .forbidden => some true
  | .schema _ => none

/-- There is a schema for undeclared members, or it is known whether they are forbidden. -/
theorem Additional.schema_or_forbids (additional : Additional Node) :
    (∃ n, additional = .schema n) ∨ ∃ forbidden, additional.forbids = some forbidden := by
  cases additional with
  | allowed => exact .inr ⟨false, rfl⟩
  | forbidden => exact .inr ⟨true, rfl⟩
  | schema n => exact .inl ⟨n, rfl⟩

/-- The members that no property declares, in their order. -/
def Json.Members.beyond (members : Json.Members) (properties : List (Property Node)) :
    Json.Members :=
  members.filter fun m => !properties.any (·.name = m.1)

theorem Json.Members.mem_beyond {members : Json.Members} {properties : List (Property Node)}
    {m : String × Json} :
    m ∈ members.beyond properties ↔ m ∈ members ∧ ∀ p ∈ properties, p.name ≠ m.1 := by
  simp [beyond]

namespace Registry

/-- A node is applied to a value with some visits. A reference is followed without a step, and
no parts of a value of another type are visited. Unions are not applied. -/
inductive Walk (r : Registry) : Node → Json → List Visit → Prop where
  | simple (schema : SimpleSchema) (v : Json) :
      Walk r (.simple schema) v [⟨[], .node (.simple schema) v⟩]
  | notObject (properties : List (Property Node)) (additional : Additional Node) {v : Json}
      (h : ∀ members, v ≠ .object members) :
      Walk r (.object properties additional) v [⟨[], .node (.object properties additional) v⟩]
  | object {properties : List (Property Node)} {additional : Additional Node}
      {members : Json.Members} (declared : Property Node → List Visit)
      (undeclared : String × Json → List Visit)
      (hpresent : ∀ p ∈ properties, ∀ v, members.get? p.name = some v →
        Walk r p.schema v (declared p))
      (habsent : ∀ p ∈ properties, members.get? p.name = none →
        declared p = [⟨[], .lacking p⟩])
      (hschema : ∀ n, additional = .schema n → ∀ m ∈ members.beyond properties,
        Walk r n m.2 (undeclared m))
      (hplain : ∀ forbidden, additional.forbids = some forbidden →
        ∀ m ∈ members.beyond properties, undeclared m = [⟨[], .additional forbidden m.2⟩]) :
      Walk r (.object properties additional) (.object members)
        (⟨[], .node (.object properties additional) (.object members)⟩ ::
          Visit.inParts (properties.map (fun p => (.name p.name, declared p)) ++
            (members.beyond properties).map fun m => (.name m.1, undeclared m)))
  | notArray (items : Node) (minItems maxItems : Nat) {v : Json}
      (h : ∀ elements, v ≠ .array elements) :
      Walk r (.array items minItems maxItems) v [⟨[], .node (.array items minItems maxItems) v⟩]
  | array {items : Node} {minItems maxItems : Nat} {elements : List Json}
      (inner : Nat → List Visit)
      (h : ∀ i v, elements[i]? = some v → Walk r items v (inner i)) :
      Walk r (.array items minItems maxItems) (.array elements)
        (⟨[], .node (.array items minItems maxItems) (.array elements)⟩ ::
          Visit.inParts (elements.zipIdx.map fun e => (.index e.2, inner e.2)))
  | reference {location : Url} {n : Node} {v : Json} {visits : List Visit}
      (hn : r.get? location = some n) (h : Walk r n v visits) :
      Walk r (.reference location) v visits

/-- A node is applied to a value by itself, or by the node that it refers to. -/
inductive AppliedAs (r : Registry) : Node → Json → Applied → Prop where
  | simple (schema : SimpleSchema) (v : Json) :
      AppliedAs r (.simple schema) v (.node (.simple schema) v)
  | object (properties : List (Property Node)) (additional : Additional Node) (v : Json) :
      AppliedAs r (.object properties additional) v (.node (.object properties additional) v)
  | array (items : Node) (minItems maxItems : Nat) (v : Json) :
      AppliedAs r (.array items minItems maxItems) v (.node (.array items minItems maxItems) v)
  | reference {location : Url} {n : Node} {v : Json} {applied : Applied}
      (hn : r.get? location = some n) (h : AppliedAs r n v applied) :
      AppliedAs r (.reference location) v applied

/-- What governs a member of an object: the schema of the property that declares it or, if it
is not declared, what holds for undeclared members. -/
inductive Governs (r : Registry) (properties : List (Property Node))
    (additional : Additional Node) : String × Json → Applied → Prop where
  | declared {p : Property Node} {v : Json} {applied : Applied} (hp : p ∈ properties)
      (h : r.AppliedAs p.schema v applied) : Governs r properties additional (p.name, v) applied
  | schema {n : Node} {m : String × Json} {applied : Applied}
      (hm : ∀ p ∈ properties, p.name ≠ m.1) (hadditional : additional = .schema n)
      (h : r.AppliedAs n m.2 applied) : Governs r properties additional m applied
  | plain {forbidden : Bool} {m : String × Json} (hm : ∀ p ∈ properties, p.name ≠ m.1)
      (hadditional : additional.forbids = some forbidden) :
      Governs r properties additional m (.additional forbidden m.2)

namespace Walk

variable {r : Registry} {n : Node} {v : Json} {visits others : List Visit}

/-- A node is applied to a value in one way. -/
theorem unique (h : r.Walk n v visits) (h' : r.Walk n v others) : visits = others := by
  induction h generalizing others with
  | simple schema v =>
    cases h' with
    | simple => rfl
  | notObject properties additional hv =>
    cases h' with
    | notObject => rfl
    | object => exact absurd rfl (hv _)
  | @object properties additional members declared undeclared _ habsent _ hplain ihpresent
      ihschema =>
    cases h' with
    | notObject _ _ hv => exact absurd rfl (hv _)
    | object declared' undeclared' hpresent' habsent' hschema' hplain' =>
      -- Each part is visited in one way, so that the lists of the parts are the same.
      have hdeclared : ∀ p ∈ properties, declared p = declared' p := by
        intro p hp
        rcases hvalue : members.get? p.name with _ | v
        · rw [habsent p hp hvalue, habsent' p hp hvalue]
        · exact ihpresent p hp v hvalue (hpresent' p hp v hvalue)
      have hundeclared : ∀ m ∈ members.beyond properties, undeclared m = undeclared' m := by
        intro m hm
        rcases additional.schema_or_forbids with ⟨n, hn⟩ | ⟨forbidden, hforbids⟩
        · exact ihschema n hn m hm (hschema' n hn m hm)
        · rw [hplain forbidden hforbids m hm, hplain' forbidden hforbids m hm]
      have hproperties : properties.map (fun p => (Step.name p.name, declared p))
          = properties.map fun p => (Step.name p.name, declared' p) :=
        List.map_congr_left fun p hp => by rw [hdeclared p hp]
      have hbeyond : (members.beyond properties).map (fun m => (Step.name m.1, undeclared m))
          = (members.beyond properties).map fun m => (Step.name m.1, undeclared' m) :=
        List.map_congr_left fun m hm => by rw [hundeclared m hm]
      rw [hproperties, hbeyond]
  | notArray items minItems maxItems hv =>
    cases h' with
    | notArray => rfl
    | array => exact absurd rfl (hv _)
  | @array items minItems maxItems elements inner _ ih =>
    cases h' with
    | notArray _ _ _ hv => exact absurd rfl (hv _)
    | array inner' h' =>
      have hinner : ∀ e ∈ elements.zipIdx, inner e.2 = inner' e.2 := by
        intro e he
        have hindex : elements[e.2]? = some e.1 := List.mem_zipIdx_iff_getElem?.mp he
        exact ih e.2 e.1 hindex (h' e.2 e.1 hindex)
      have helements : elements.zipIdx.map (fun e => (Step.index e.2, inner e.2))
          = elements.zipIdx.map fun e => (Step.index e.2, inner' e.2) :=
        List.map_congr_left fun e he => by rw [hinner e he]
      rw [helements]
  | reference hn _ ih =>
    cases h' with
    | reference hn' h' =>
      obtain rfl := Option.some.inj (hn.symm.trans hn')
      exact ih h'

/-- A walk starts at the whole value. -/
theorem exists_head (h : r.Walk n v visits) :
    ∃ applied, ⟨[], applied⟩ ∈ visits ∧ r.AppliedAs n v applied := by
  induction h with
  | simple schema v => exact ⟨_, List.mem_cons_self, .simple schema v⟩
  | notObject properties additional => exact ⟨_, List.mem_cons_self, .object _ _ _⟩
  | object => exact ⟨_, List.mem_cons_self, .object _ _ _⟩
  | notArray => exact ⟨_, List.mem_cons_self, .array _ _ _ _⟩
  | array => exact ⟨_, List.mem_cons_self, .array _ _ _ _⟩
  | reference hn _ ih =>
    obtain ⟨applied, hmem, happlied⟩ := ih
    exact ⟨applied, hmem, .reference hn happlied⟩

/-- The steps from an object are different names. -/
theorem nodup_steps {properties : List (Property Node)} {members : Json.Members}
    (hproperties : (properties.map (·.name)).Nodup) (hmembers : (members.map (·.1)).Nodup)
    (declared : Property Node → List Visit) (undeclared : String × Json → List Visit) :
    ((properties.map (fun p => (Step.name p.name, declared p)) ++
      (members.beyond properties).map fun m => (Step.name m.1, undeclared m)).map
        (·.1)).Nodup := by
  have hsteps : (properties.map (fun p => (Step.name p.name, declared p)) ++
      (members.beyond properties).map fun m => (Step.name m.1, undeclared m)).map (·.1)
        = (properties.map (·.name) ++ (members.beyond properties).map (·.1)).map Step.name := by
    simp [Function.comp_def]
  rw [hsteps]
  refine List.Nodup.map (fun _ _ heq => Step.name.inj heq) ?_
  refine List.Nodup.append hproperties ?_ fun name hdeclared hundeclared => ?_
  · exact hmembers.sublist (List.filter_sublist.map _)
  · obtain ⟨p, hp, rfl⟩ := List.mem_map.mp hdeclared
    obtain ⟨m, hm, hname⟩ := List.mem_map.mp hundeclared
    exact (Json.Members.mem_beyond.mp hm).2 p hp hname.symm

/-- No place is visited twice, if no object has a name twice and no property is declared
twice. -/
theorem nodup_paths (honce : r.DeclaresOnce) (h : r.Walk n v visits) (hn : n.DeclaresOnce)
    (hv : v.NamesOnce) : (visits.map (·.path)).Nodup := by
  induction h with
  | simple => exact List.nodup_singleton _
  | notObject => exact List.nodup_singleton _
  | @object properties additional members declared undeclared _ habsent _ hplain ihpresent
      ihschema =>
    cases hn with
    | object hnames hproperties hadditional =>
      cases hv with
      | object hdistinct hvalues =>
        refine Visit.nodup_cons_inParts _ (nodup_steps hnames hdistinct _ _) fun part hpart => ?_
        rcases List.mem_append.mp hpart with hpart | hpart
        · obtain ⟨p, hp, rfl⟩ := List.mem_map.mp hpart
          -- A property is visited inside its value, or once where there is none.
          rcases hvalue : members.get? p.name with _ | w
          · rw [habsent p hp hvalue]
            exact List.nodup_singleton _
          · exact ihpresent p hp w hvalue (hproperties p hp)
              (hvalues _ (Json.Members.mem_of_get? hvalue))
        · obtain ⟨m, hm, rfl⟩ := List.mem_map.mp hpart
          have hmem := (Json.Members.mem_beyond.mp hm).1
          rcases additional.schema_or_forbids with ⟨n, hn⟩ | ⟨forbidden, hforbids⟩
          · exact ihschema n hn m hm (hadditional n hn) (hvalues m hmem)
          · rw [hplain forbidden hforbids m hm]
            exact List.nodup_singleton _
  | notArray => exact List.nodup_singleton _
  | @array items minItems maxItems elements inner _ ih =>
    cases hn with
    | array _ _ hitems =>
      cases hv with
      | array helements =>
        refine Visit.nodup_cons_inParts _ ?_ fun part hpart => ?_
        · have hsteps : (elements.zipIdx.map fun e => (Step.index e.2, inner e.2)).map (·.1)
              = (List.range' 0 elements.length).map Step.index := by
            rw [← List.zipIdx_map_snd 0 elements, List.map_map, List.map_map]
            rfl
          rw [hsteps]
          exact List.Nodup.map (fun _ _ heq => Step.index.inj heq) List.nodup_range'
        · obtain ⟨e, he, rfl⟩ := List.mem_map.mp hpart
          have hindex : elements[e.2]? = some e.1 := List.mem_zipIdx_iff_getElem?.mp he
          exact ih e.2 e.1 hindex hitems (helements _ (List.mem_of_getElem? hindex))
  | reference hget _ ih => exact ih (honce _ _ hget) hv

/-- Every member of an object is visited, with what governs it. -/
theorem exists_visit_of_root {properties : List (Property Node)} {additional : Additional Node}
    {members : Json.Members} (hdistinct : (members.map (·.1)).Nodup)
    {declared : Property Node → List Visit} {undeclared : String × Json → List Visit}
    (hpresent : ∀ p ∈ properties, ∀ v, members.get? p.name = some v →
      r.Walk p.schema v (declared p))
    (hschema : ∀ n, additional = .schema n → ∀ m ∈ members.beyond properties,
      r.Walk n m.2 (undeclared m))
    (hplain : ∀ forbidden, additional.forbids = some forbidden →
      ∀ m ∈ members.beyond properties, undeclared m = [⟨[], .additional forbidden m.2⟩])
    {m : String × Json} (hm : m ∈ members) (root : Visit) :
    ∃ y ∈ root :: Visit.inParts (properties.map (fun p => (.name p.name, declared p)) ++
        (members.beyond properties).map fun m => (.name m.1, undeclared m)),
      y.path = [.name m.1] ∧ r.Governs properties additional m y.applied := by
  obtain ⟨name, w⟩ := m
  by_cases hdeclared : ∃ p ∈ properties, p.name = name
  · obtain ⟨p, hp, rfl⟩ := hdeclared
    have hvalue : members.get? p.name = some w :=
      (Json.Members.get?_eq_some_iff_mem hdistinct).mpr hm
    obtain ⟨applied, hmem, happlied⟩ := (hpresent p hp w hvalue).exists_head
    refine ⟨⟨[.name p.name], applied⟩, ?_, rfl, .declared hp happlied⟩
    refine List.mem_cons_of_mem _ (Visit.mem_inParts.mpr
      ⟨(.name p.name, declared p), ?_, _, hmem, rfl⟩)
    exact List.mem_append_left _ (List.mem_map_of_mem hp)
  · have hother : ∀ p ∈ properties, p.name ≠ name := fun p hp heq => hdeclared ⟨p, hp, heq⟩
    have hbeyond := Json.Members.mem_beyond.mpr ⟨hm, hother⟩
    obtain ⟨applied, hmem, hgoverns⟩ : ∃ applied, ⟨[], applied⟩ ∈ undeclared (name, w) ∧
        r.Governs properties additional (name, w) applied := by
      rcases additional.schema_or_forbids with ⟨n, hn⟩ | ⟨forbidden, hforbids⟩
      · obtain ⟨applied, hmem, happlied⟩ := (hschema n hn _ hbeyond).exists_head
        exact ⟨applied, hmem, .schema hother hn happlied⟩
      · rw [hplain forbidden hforbids _ hbeyond]
        exact ⟨_, List.mem_cons_self, .plain hother hforbids⟩
    refine ⟨⟨[.name name], applied⟩, ?_, rfl, hgoverns⟩
    refine List.mem_cons_of_mem _ (Visit.mem_inParts.mpr
      ⟨(.name name, undeclared (name, w)), ?_, _, hmem, rfl⟩)
    exact List.mem_append_right _ (List.mem_map_of_mem hbeyond)

/-- Every member of an object that a walk comes to is visited, with what governs it. -/
theorem exists_visit_of_member (h : r.Walk n v visits) (hv : v.NamesOnce) {x : Visit}
    (hx : x ∈ visits) {properties : List (Property Node)} {additional : Additional Node}
    {members : Json.Members} (happlied : x.applied = .node (.object properties additional)
      (.object members)) {m : String × Json} (hm : m ∈ members) :
    ∃ y ∈ visits, y.path = x.path ++ [.name m.1] ∧ r.Governs properties additional m y.applied := by
  -- What is found in a part is found from the whole, one step further in.
  have hpart : ∀ {parts : List (Step × List Visit)} {part : Step × List Visit} {x' : Visit}
      (head : Visit), part ∈ parts →
      (∃ y ∈ part.2, y.path = x'.path ++ [.name m.1] ∧
        r.Governs properties additional m y.applied) →
      ∃ y ∈ head :: Visit.inParts parts, y.path = (part.1 :: x'.path) ++ [.name m.1] ∧
        r.Governs properties additional m y.applied := by
    rintro parts part x' head hpart ⟨y, hy, hpath, hgoverns⟩
    refine ⟨⟨part.1 :: y.path, y.applied⟩, ?_, by rw [hpath]; rfl, hgoverns⟩
    exact List.mem_cons_of_mem _ (Visit.mem_inParts.mpr ⟨part, hpart, y, hy, rfl⟩)
  induction h generalizing x with
  | simple =>
    rw [List.mem_singleton.mp hx] at happlied
    cases happlied
  | notObject _ _ hnot =>
    rw [List.mem_singleton.mp hx] at happlied
    cases happlied
    exact absurd rfl (hnot members)
  | @object properties' additional' members' declared undeclared hpresent habsent hschema hplain
      ihpresent ihschema =>
    cases hv with
    | object hdistinct hvalues =>
      rcases List.mem_cons.mp hx with rfl | hx
      · cases happlied
        exact exists_visit_of_root hdistinct hpresent hschema hplain hm _
      · obtain ⟨part, hmem, x', hx', rfl⟩ := Visit.mem_inParts.mp hx
        refine hpart _ hmem ?_
        rcases List.mem_append.mp hmem with hmem | hmem
        · obtain ⟨p, hp, rfl⟩ := List.mem_map.mp hmem
          rcases hvalue : members'.get? p.name with _ | w
          · rw [habsent p hp hvalue] at hx'
            rw [List.mem_singleton.mp hx'] at happlied
            cases happlied
          · exact ihpresent p hp w hvalue (hvalues _ (Json.Members.mem_of_get? hvalue)) hx' happlied
        · obtain ⟨other, hother, rfl⟩ := List.mem_map.mp hmem
          rcases additional'.schema_or_forbids with ⟨n, hn⟩ | ⟨forbidden, hforbids⟩
          · exact ihschema n hn other hother
              (hvalues _ (Json.Members.mem_beyond.mp hother).1) hx' happlied
          · rw [hplain forbidden hforbids other hother] at hx'
            rw [List.mem_singleton.mp hx'] at happlied
            cases happlied
  | notArray =>
    rw [List.mem_singleton.mp hx] at happlied
    cases happlied
  | @array items minItems maxItems elements inner _ ih =>
    cases hv with
    | array helements =>
      rcases List.mem_cons.mp hx with rfl | hx
      · cases happlied
      · obtain ⟨part, hmem, x', hx', rfl⟩ := Visit.mem_inParts.mp hx
        refine hpart _ hmem ?_
        obtain ⟨e, he, rfl⟩ := List.mem_map.mp hmem
        have hindex : elements[e.2]? = some e.1 := List.mem_zipIdx_iff_getElem?.mp he
        exact ih e.2 e.1 hindex (helements _ (List.mem_of_getElem? hindex)) hx' happlied
  | reference _ _ ih => exact ih hv hx happlied

end Walk

/-! ### Nodes without unions -/

/-- A part of a node, the second one, or what the node refers to. -/
inductive Part (r : Registry) : Node → Node → Prop where
  | property {properties : List (Property Node)} {additional : Additional Node}
      {p : Property Node} (hp : p ∈ properties) : Part r (.object properties additional) p.schema
  | additional {properties : List (Property Node)} {schema : Node} :
      Part r (.object properties (.schema schema)) schema
  | items {items : Node} {minItems maxItems : Nat} : Part r (.array items minItems maxItems) items
  | member {members : List Node} {n : Node} (hn : n ∈ members) : Part r (.union members) n
  | target {location : Url} {n : Node} (hn : r.get? location = some n) :
      Part r (.reference location) n

/-- There is no union in the node or in what it refers to, at any depth. -/
def WithoutUnions (r : Registry) (n : Node) : Prop :=
  ∀ part, Relation.ReflTransGen r.Part n part → ∀ members, part ≠ .union members

/-- The checks that a check needs are of parts of the node. -/
theorem Part.of_calls {r : Registry} {callee caller : Node × Json} (h : r.Calls callee caller) :
    r.Part caller.1 callee.1 := by
  cases h with
  | property hp => exact .property hp
  | undeclared => exact .additional
  | element => exact .items
  | member hn => exact .member hn
  | target hn => exact .target hn

theorem WithoutUnions.of_calls {r : Registry} {callee caller : Node × Json}
    (hfree : r.WithoutUnions caller.1) (h : r.Calls callee caller) :
    r.WithoutUnions callee.1 :=
  fun part hpart => hfree part (.head (.of_calls h) hpart)

/-- A node for objects is applied to an object if its parts are applied to the members. -/
theorem exists_walk_object {r : Registry} {properties : List (Property Node)}
    {additional : Additional Node} {members : Json.Members}
    (hpart : ∀ n v, r.Calls (n, v) (.object properties additional, .object members) →
      ∃ visits, r.Walk n v visits) :
    ∃ visits, r.Walk (.object properties additional) (.object members) visits := by
  have hdeclared : ∀ p : Property Node, ∃ visits, p ∈ properties →
      (∀ v, members.get? p.name = some v → r.Walk p.schema v visits) ∧
        (members.get? p.name = none → visits = [⟨[], .lacking p⟩]) := by
    intro p
    by_cases hp : p ∈ properties
    · rcases hvalue : members.get? p.name with _ | v
      · exact ⟨_, fun _ => ⟨fun _ heq => (by cases heq), fun _ => rfl⟩⟩
      · obtain ⟨visits, hvisits⟩ := hpart _ _ (.property hp hvalue)
        exact ⟨visits, fun _ => ⟨fun _ heq => Option.some.inj heq ▸ hvisits,
          fun heq => (by cases heq)⟩⟩
    · exact ⟨[], fun h => absurd h hp⟩
  have hundeclared : ∀ m : String × Json, ∃ visits, m ∈ members.beyond properties →
      (∀ n, additional = .schema n → r.Walk n m.2 visits) ∧
        ∀ forbidden, additional.forbids = some forbidden →
          visits = [⟨[], .additional forbidden m.2⟩] := by
    intro m
    by_cases hm : m ∈ members.beyond properties
    · cases additional with
      | schema n =>
        obtain ⟨visits, hvisits⟩ := hpart _ _ (.undeclared (Json.Members.mem_beyond.mp hm).1)
        exact ⟨visits, fun _ => ⟨fun _ heq => Additional.schema.inj heq ▸ hvisits,
          fun _ heq => (by cases heq)⟩⟩
      | _ =>
        exact ⟨_, fun _ => ⟨fun _ heq => (by cases heq), fun _ heq => by
          rw [← Option.some.inj heq]⟩⟩
    · exact ⟨[], fun h => absurd h hm⟩
  -- One walk is chosen for each property and each member.
  choose declared hdeclared using hdeclared
  choose undeclared hundeclared using hundeclared
  exact ⟨_, .object declared undeclared (fun p hp => (hdeclared p hp).1)
    (fun p hp => (hdeclared p hp).2) (fun n hn m hm => (hundeclared m hm).1 n hn)
    fun forbidden hforbids m hm => (hundeclared m hm).2 forbidden hforbids⟩

/-- A node for arrays is applied to an array if its items are applied to the elements. -/
theorem exists_walk_array {r : Registry} {items : Node} {minItems maxItems : Nat}
    {elements : List Json}
    (hpart : ∀ n v, r.Calls (n, v) (.array items minItems maxItems, .array elements) →
      ∃ visits, r.Walk n v visits) :
    ∃ visits, r.Walk (.array items minItems maxItems) (.array elements) visits := by
  have hinner : ∀ i : Nat, ∃ visits, ∀ v, elements[i]? = some v → r.Walk items v visits := by
    intro i
    rcases hindex : elements[i]? with _ | v
    · exact ⟨[], fun _ heq => by cases heq⟩
    · obtain ⟨visits, hvisits⟩ := hpart _ _ (.element (List.mem_of_getElem? hindex))
      exact ⟨visits, fun _ heq => Option.some.inj heq ▸ hvisits⟩
  choose inner hinner using hinner
  exact ⟨_, .array inner hinner⟩

/-- In a sound registry a node without unions is applied to every value. -/
theorem exists_walk {r : Registry} (hsound : r.Sound) {n : Node} (hclosed : n.ClosedIn r)
    (hfree : r.WithoutUnions n) (v : Json) : ∃ visits, r.Walk n v visits := by
  refine hsound.check_induction
    (motive := fun n v => r.WithoutUnions n → ∃ visits, r.Walk n v visits)
    (fun n v hclosed ih hfree => ?_) hclosed v hfree
  -- The induction is on the checks that a check needs, since references do not get smaller.
  have hpart : ∀ n' v', r.Calls (n', v') (n, v) → ∃ visits, r.Walk n' v' visits :=
    fun n' v' hcall => ih n' v' hcall (hfree.of_calls hcall)
  cases n with
  | simple schema => exact ⟨_, .simple schema v⟩
  | object properties additional =>
    cases v with
    | object members => exact exists_walk_object hpart
    | _ => exact ⟨_, .notObject properties additional (by simp)⟩
  | array items minItems maxItems =>
    cases v with
    | array elements => exact exists_walk_array hpart
    | _ => exact ⟨_, .notArray items minItems maxItems (by simp)⟩
  | union members => exact absurd rfl (hfree _ .refl members)
  | reference location =>
    obtain ⟨target, htarget⟩ := has_iff.mp (hclosed location (by simp [Node.references]))
    obtain ⟨visits, hvisits⟩ := hpart target v (.target htarget)
    exact ⟨visits, .reference htarget hvisits⟩

end Registry
end DraftSchema
