import DraftSchema.Proofs.Session.Runs
import DraftSchema.Proofs.Validation.Paths

/-!
# `DraftSchema.Proofs.Session.Places`: what violations are about

The location of a violation is the text of a path. The path leads to a part of the
document, or from an object of it to a declared property that the object lacks. Unions and
references add no step to a path. The theorems:

* `Registry.violations_placed`: the violations that a sound registry finds have such paths.
* `IsPlace.text_injective`: where all names are plain, the text of a path tells the path.
* `violations_addressed`: both for a session.
-/

set_option autoImplicit false

namespace DraftSchema

open Json (Path Step)

/-! ### Declared properties -/

namespace Registry

/-- The node, or one that it leads to, declares a property with the name. -/
inductive Declares (r : Registry) : Node → String → Prop where
  | here {properties : List (Property Node)} {additional : Additional Node} {p : Property Node}
      (hp : p ∈ properties) : Declares r (.object properties additional) p.name
  | property {properties : List (Property Node)} {additional : Additional Node}
      {p : Property Node} {name : String} (hp : p ∈ properties) (h : Declares r p.schema name) :
      Declares r (.object properties additional) name
  | additional {properties : List (Property Node)} {schema : Node} {name : String}
      (h : Declares r schema name) : Declares r (.object properties (.schema schema)) name
  | items {items : Node} {minItems maxItems : Nat} {name : String} (h : Declares r items name) :
      Declares r (.array items minItems maxItems) name
  | member {members : List Node} {n : Node} {name : String} (hn : n ∈ members)
      (h : Declares r n name) : Declares r (.union members) name
  | target {location : Url} {n : Node} {name : String} (hn : r.get? location = some n)
      (h : Declares r n name) : Declares r (.reference location) name

/-- The names that are declared for a part of a check are declared for the whole. -/
theorem Declares.of_calls {r : Registry} {callee caller : Node × Json}
    (hcall : r.Calls callee caller) {name : String} (h : r.Declares callee.1 name) :
    r.Declares caller.1 name := by
  cases hcall with
  | property hp hvalue => exact .property hp h
  | undeclared hvalue => exact .additional h
  | element hvalue => exact .items h
  | member hn => exact .member hn h
  | target hn => exact .target hn h

end Registry

/-! ### Places of violations -/

/-- The path leads to a part of the document, or from an object in it to a property that
the schema declares and the object lacks. -/
def IsPlace (r : Registry) (n : Node) (document : Json) (path : Path) : Prop :=
  (∃ part, document.Leads path part) ∨
    ∃ name, r.Declares n name ∧ document.Lacks path name

/-- The violation is about what the path leads to: a part of the document, or a declared
property that is missing, and then the message says so. -/
structure Violation.IsAt (x : Violation) (r : Registry) (n : Node) (document : Json)
    (path : Path) : Prop where
  location : x.location = path.text
  place : (∃ part, document.Leads path part) ∨
    ∃ name, r.Declares n name ∧ document.Lacks path name ∧
      x.message = "Missing required property " ++ name

/-- Every violation in the list has a place. -/
def AllPlaced (r : Registry) (n : Node) (document : Json) (vs : List Violation) : Prop :=
  ∀ x ∈ vs, ∃ path, x.IsAt r n document path

variable {r : Registry} {n : Node} {v : Json}

theorem Violation.IsAt.isPlace {x : Violation} {path : Path} (h : x.IsAt r n v path) :
    IsPlace r n v path := by
  rcases h.place with hleads | ⟨name, hdeclares, hlacks, -⟩
  · exact .inl hleads
  · exact .inr ⟨name, hdeclares, hlacks⟩

namespace AllPlaced

variable {vs vs' : List Violation}

theorem nil : AllPlaced r n v [] := by simp [AllPlaced]

/-- Violations of the whole document. -/
theorem atRoot (h : ∀ x ∈ vs, x.location = "") : AllPlaced r n v vs :=
  fun x hx => ⟨[], h x hx, .inl ⟨v, .here v⟩⟩

theorem append (h : AllPlaced r n v vs) (h' : AllPlaced r n v vs') :
    AllPlaced r n v (vs ++ vs') := by
  intro x hx
  rcases List.mem_append.mp hx with hx | hx
  · exact h x hx
  · exact h' x hx

theorem flatMap {α : Type} {l : List α} {f : α → List Violation}
    (h : ∀ a ∈ l, AllPlaced r n v (f a)) : AllPlaced r n v (l.flatMap f) := by
  intro x hx
  obtain ⟨a, ha, hx⟩ := List.mem_flatMap.mp hx
  exact h a ha x hx

/-- A check of the same value against what a node leaves it to adds no step. -/
theorem of_calls {n' : Node} (h : AllPlaced r n' v vs) (hcall : r.Calls (n', v) (n, v)) :
    AllPlaced r n v vs := by
  intro x hx
  obtain ⟨path, hpath⟩ := h x hx
  refine ⟨path, hpath.location, ?_⟩
  rcases hpath.place with hleads | ⟨name, hdeclares, hlacks⟩
  · exact .inl hleads
  · exact .inr ⟨name, .of_calls hcall hdeclares, hlacks⟩

/-- A check of a part of the value adds the step to that part. -/
theorem within {n' : Node} {part : Json} (step : Step) (h : AllPlaced r n' part vs)
    (hcall : r.Calls (n', part) (n, v))
    (hstep : ∀ {path : Path} {inner : Json}, part.Leads path inner →
      v.Leads (step :: path) inner) :
    AllPlaced r n v (vs.map (·.within step.text)) := by
  intro x hx
  obtain ⟨y, hy, rfl⟩ := List.mem_map.mp hx
  obtain ⟨path, hpath⟩ := h y hy
  refine ⟨step :: path, ?_, ?_⟩
  · rw [Violation.within, hpath.location]
    rfl
  · rcases hpath.place with ⟨inner, hleads⟩ | ⟨name, hdeclares, hlacks, hmessage⟩
    · exact .inl ⟨inner, hstep hleads⟩
    · exact .inr ⟨name, .of_calls hcall hdeclares, hlacks.cons hstep, hmessage⟩

end AllPlaced

/-- The text of a path that is a name only. -/
theorem Json.Path.text_singleton (name : String) : Path.text [.name name] = name := by
  rw [Path.text, Violation.within, Path.text]
  simp [Violation.separator, Step.text]

/-! ### Answers -/

namespace Registry

/-- A declared member that is missing is told from the object that lacks it. -/
theorem propertyViolations_placed {properties : List (Property Node)}
    {additional : Additional Node} {members : Json.Members} {p : Property Node}
    (hp : p ∈ properties)
    (h : ∀ v, members.get? p.name = some v → AllPlaced r p.schema v (r.violations p.schema v)) :
    AllPlaced r (.object properties additional) (.object members)
      (r.propertyViolations members p) := by
  unfold propertyViolations
  split
  · rename_i v hv
    exact (h v hv).within (.name p.name) (.property hp hv)
      (.member (Json.Members.mem_of_get? hv))
  · rename_i hnone
    split
    · intro x hx
      rw [List.mem_singleton.mp hx]
      exact ⟨[.name p.name], (Json.Path.text_singleton p.name).symm,
        .inr ⟨p.name, .here hp, ⟨[], members, rfl, .here _, hnone⟩, rfl⟩⟩
    · exact .nil

/-- A member that is not declared is a part of the document. -/
theorem undeclaredViolations_placed {properties : List (Property Node)}
    {additional : Additional Node} {members : Json.Members} {name : String}
    (hmem : (name, v) ∈ members)
    (h : ∀ schema, additional = .schema schema → AllPlaced r schema v (r.violations schema v)) :
    AllPlaced r (.object properties additional) (.object members)
      (r.undeclaredViolations additional name v) := by
  cases additional with
  | allowed => exact .nil
  | forbidden =>
    intro x hx
    rw [List.mem_singleton.mp hx]
    exact ⟨[.name name], (Json.Path.text_singleton name).symm, .inl ⟨v, .member hmem (.here v)⟩⟩
  | schema schema =>
    exact (h schema rfl).within (.name name) (.undeclared hmem) (.member hmem)

/-- The number of elements is that of the whole array. -/
theorem sizeViolations_placed (minItems maxItems count : Nat) :
    AllPlaced r n v (Resolver.sizeViolations minItems maxItems count) := by
  refine .atRoot fun x hx => ?_
  unfold Resolver.sizeViolations at hx
  rcases List.mem_append.mp hx with hx | hx
  all_goals
    split at hx
    · rw [List.mem_singleton.mp hx]
      rfl
    · cases hx

/-- Simple schemas are about the whole value. -/
theorem simple_violations_placed (schema : SimpleSchema) :
    AllPlaced r n v (schema.violations v) := by
  refine .atRoot fun x hx => ?_
  unfold SimpleSchema.violations at hx
  split at hx
  · obtain ⟨fault, -, rfl⟩ := List.mem_map.mp hx
    rfl
  · rw [List.mem_singleton.mp hx]
    rfl

theorem violation_placed (fault : StructureFault) :
    AllPlaced r n v [Resolver.violation fault] :=
  .atRoot fun x hx => by
    rw [List.mem_singleton.mp hx]
    rfl

/-- What a value violates in a sound registry has a place in the value. -/
theorem violations_placed (h : r.Sound) (hn : n.ClosedIn r) (v : Json) :
    AllPlaced r n v (r.violations n v) := by
  refine h.check_induction (motive := fun n v => AllPlaced r n v (r.violations n v))
    (fun n v hn ih => ?_) hn v
  cases n with
  | simple schema =>
    rw [violations_simple]
    exact simple_violations_placed schema
  | object properties additional =>
    cases v with
    | object members =>
      rw [violations_object]
      refine .append (.flatMap fun p hp => ?_) (.flatMap fun entry hentry => ?_)
      · exact propertyViolations_placed hp fun v hv => ih p.schema v (.property hp hv)
      · obtain ⟨name, v⟩ := entry
        split
        · exact .nil
        · refine undeclaredViolations_placed hentry fun schema heq => ?_
          subst heq
          exact ih schema v (.undeclared hentry)
    | _ =>
      rw [violations_object_of_not r _ _ (by simp)]
      exact violation_placed _
  | array items minItems maxItems =>
    cases v with
    | array elements =>
      rw [violations_array]
      refine (sizeViolations_placed _ _ _).append (.flatMap fun entry hentry => ?_)
      have hindex : elements[entry.2]? = some entry.1 := List.mem_zipIdx_iff_getElem?.mp hentry
      have hcall : r.Calls (items, entry.1) (.array items minItems maxItems, .array elements) :=
        .element (List.mem_of_getElem? hindex)
      exact (ih items entry.1 hcall).within (.index entry.2) hcall (.element hindex)
    | _ =>
      rw [violations_array_of_not r _ _ _ (by simp)]
      exact violation_placed _
  | union members =>
    rw [violations_union]
    split
    · rename_i hany
      -- The violations of a union are those of one of its members.
      obtain ⟨n, hmem, heq⟩ := List.mem_map.mp (Resolver.fewest_mem (map_violations_ne_nil hany))
      rw [← heq]
      exact (ih n v (.member hmem)).of_calls (.member hmem)
    · exact violation_placed _
  | reference u =>
    obtain ⟨n, hget⟩ := has_iff.mp (hn u (by simp [Node.references]))
    rw [violations_reference h hget]
    exact (ih n v (.target hget)).of_calls (.target hget)

end Registry

/-! ### Names that are plain -/

/-- Where the names in the document and the declared ones are plain, those in the path to a
place are. -/
theorem IsPlace.plain (hplain : ∀ name, v.HasName name ∨ r.Declares n name →
    Json.IsPlainName name) {path : Path} (h : IsPlace r n v path) : path.Plain := by
  intro name hname
  rcases h with ⟨part, hleads⟩ | ⟨missing, hdeclares, front, members, rfl, hleads, -⟩
  · exact hplain name (.inl (hleads.hasName hname))
  · rcases List.mem_append.mp hname with hfront | hlast
    · exact hplain name (.inl (hleads.hasName hfront))
    · obtain rfl : name = missing := Step.name.inj (List.mem_singleton.mp hlast)
      exact hplain name (.inr hdeclares)

/-- Then the text of a path tells the path. -/
theorem IsPlace.text_injective (hplain : ∀ name, v.HasName name ∨ r.Declares n name →
    Json.IsPlainName name) {p q : Path} (hp : IsPlace r n v p) (hq : IsPlace r n v q)
    (h : p.text = q.text) : p = q :=
  Path.text_injective (hp.plain hplain) (hq.plain hplain) h

namespace Session

/-- Let all references of a node lead into a sound registry. Then each violation that a
session finds has the text of a path that leads to a part of the document, or to a required
property that an object in the document lacks, which the message names. If no name in the
document and no declared one is empty or has a dot or an opening bracket, different places
have different texts, so that the violation tells its place. -/
theorem violations_addressed {s : Session} {n : Node} (hsound : s.registry.Sound)
    (hclosed : n.ClosedIn s.registry) (source : Source) (document : Json) :
    (∀ x ∈ ((validate source n document).run s).1,
      ∃ path, x.IsAt s.registry n document path) ∧
    ((∀ name, document.HasName name ∨ s.registry.Declares n name → Json.IsPlainName name) →
      (∀ p q, IsPlace s.registry n document p → IsPlace s.registry n document q →
        p.text = q.text → p = q) ∧
      ∀ x ∈ ((validate source n document).run s).1,
        ∃! path, x.IsAt s.registry n document path) := by
  have hplaced : ∀ x ∈ ((validate source n document).run s).1,
      ∃ path, x.IsAt s.registry n document path := by
    rw [run_validate hsound hclosed]
    exact Registry.violations_placed hsound hclosed document
  -- A path that fits is a place, and the text of a place is that of no other one.
  refine ⟨hplaced, fun hplain => ⟨fun p q hp hq h => hp.text_injective hplain hq h, ?_⟩⟩
  intro x hx
  obtain ⟨path, hpath⟩ := hplaced x hx
  refine ⟨path, hpath, fun other hother => ?_⟩
  exact hother.isPlace.text_injective hplain hpath.isPlace
    (hother.location.symm.trans hpath.location)

end Session

/-! ### An example -/

namespace LinkedList

/-- Linked lists have one property. -/
theorem declares_next {r : Registry} (hr : r.get? location = some node) {name : String}
    (h : r.Declares node name) : name = "next" := by
  -- The schema refers to itself, so that the induction is over both nodes on the way.
  suffices hall : ∀ n, r.Declares n name → n = node ∨ n = .reference location → name = "next" from
    hall node h (.inl rfl)
  clear h
  intro n h
  induction h with
  | here hp =>
    rintro (heq | heq)
    · cases heq
      rw [List.mem_singleton.mp hp]
    · cases heq
  | property hp _ ih =>
    rintro (heq | heq)
    · cases heq
      rw [List.mem_singleton.mp hp] at ih
      exact ih (.inr rfl)
    · cases heq
  | additional _ ih => rintro (heq | heq) <;> cases heq
  | items _ ih => rintro (heq | heq) <;> cases heq
  | member _ _ ih => rintro (heq | heq) <;> cases heq
  | target hn _ ih =>
    rintro (heq | heq)
    · cases heq
    · cases heq
      rw [hr, Option.some_inj] at hn
      exact ih (.inl hn.symm)

/-- A linked list whose second cell has a member that is not declared. -/
def faulty : Json := .object [("next", .object [("other", .null)])]

theorem hasName_faulty {name : String} (h : faulty.HasName name) :
    name = "next" ∨ name = "other" := by
  obtain ⟨path, members, value, hleads, hmem⟩ := h
  rcases hleads with _ | ⟨hnext, hleads⟩
  · exact .inl (Prod.mk.inj (List.mem_singleton.mp hmem)).1
  · obtain ⟨rfl, rfl⟩ := Prod.mk.inj (List.mem_singleton.mp hnext)
    rcases hleads with _ | ⟨hother, hleads⟩
    · exact .inr (Prod.mk.inj (List.mem_singleton.mp hmem)).1
    · obtain ⟨rfl, rfl⟩ := Prod.mk.inj (List.mem_singleton.mp hother)
      cases hleads

/-- The list violates its schema in the member that is not declared, and nowhere else. -/
theorem violations_faulty {r : Registry} (hsound : r.Sound) (hr : r.get? location = some node) :
    r.violations node faulty = [⟨"next.other", "Unexpected property"⟩] := by
  have hinner : r.violations node (.object [("other", .null)])
      = [⟨"other", "Unexpected property"⟩] := by
    rw [node, Registry.violations_object]
    rfl
  rw [faulty, node, Registry.violations_object]
  simp only [List.flatMap_cons, List.flatMap_nil, List.append_nil, Registry.propertyViolations,
    Json.Members.get?, List.lookup_cons_self, Registry.violations_reference hsound hr, hinner]
  rfl

/-- What is wrong with it is told with its place, and with that of nothing else. -/
theorem faulty_addressed :
    ∃! path, (Violation.mk "next.other" "Unexpected property").IsAt
      (Session.after [(source, .get location)]).registry node faulty path := by
  have hsound : (Session.after [(source, .get location)]).registry.Sound :=
    Session.sound_after (by simp [Request.byHand])
  have hclosed := hsound.closed location node get?_after
  have hplain : ∀ name, faulty.HasName name ∨
      (Session.after [(source, .get location)]).registry.Declares node name →
        Json.IsPlainName name := by
    rintro name (hname | hname)
    · rcases hasName_faulty hname with rfl | rfl <;> exact ⟨by decide, by decide, by decide⟩
    · obtain rfl := declares_next get?_after hname
      exact ⟨by decide, by decide, by decide⟩
  have hfound : ((Session.validate source node faulty).run
      (Session.after [(source, .get location)])).1
        = [⟨"next.other", "Unexpected property"⟩] := by
    rw [Session.run_validate hsound hclosed]
    exact violations_faulty hsound get?_after
  have hplaced := ((Session.violations_addressed hsound hclosed source faulty).2 hplain).2
  rw [hfound] at hplaced
  exact hplaced _ (List.mem_singleton_self _)

end LinkedList
end DraftSchema
