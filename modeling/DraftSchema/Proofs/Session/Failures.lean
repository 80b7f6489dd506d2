import DraftSchema.Proofs.Session.Places
import DraftSchema.Proofs.Validation.Walks
import Mathlib.Data.List.Forall2

/-!
# `DraftSchema.Proofs.Session.Failures`: no failure hides another one

A schema without unions is applied to a document by a walk. What the document violates are
the checks of that walk that fail, one violation for each of them and in their order. The
theorems:

* `Visit.forall₂_failures`: what visits find are their checks that fail.
* `Registry.violations_eq_report`: what a value violates is what the visits of its walk find.
* `Session.failures_reported`: both for a session, with every failure once.
-/

set_option autoImplicit false

namespace DraftSchema

open Json (Path Step)
open List (Forall₂)

/-! ### What visits find -/

namespace Visit

open scoped Classical in
/-- The checks of some visits that fail, in their order. -/
noncomputable def failures (visits : List Visit) : List (Path × Check) :=
  (visits.flatMap checks).filter fun check => ∃ message, check.2.Fails message

/-- The violation that is found for a check at a place. -/
def told? (check : Path × Check) : Option Violation := check.2.found?.map (⟨check.1.text, ·⟩)

/-- The violations that some visits find. -/
def report (visits : List Visit) : List Violation := (visits.flatMap checks).filterMap told?

/-- A check is told with its place and the message with which it fails. -/
theorem told?_eq_some {check : Path × Check} {x : Violation} :
    told? check = some x ↔ x.location = check.1.text ∧ check.2.Fails x.message := by
  obtain ⟨location, message⟩ := x
  rw [told?, Option.map_eq_some_iff, Check.fails_iff]
  constructor
  · rintro ⟨m, hfound, heq⟩
    obtain ⟨rfl, rfl⟩ := Violation.mk.inj heq
    exact ⟨rfl, hfound⟩
  · rintro ⟨hlocation, hfound⟩
    exact ⟨message, hfound, by rw [← hlocation]⟩

/-- What visits find are their checks that fail, one by one. -/
theorem forall₂_failures (visits : List Visit) :
    Forall₂ (fun failure x => x.location = failure.1.text ∧ failure.2.Fails x.message)
      (failures visits) (report visits) := by
  unfold failures report
  -- Both lists leave out the same checks: a check is told exactly if it fails.
  induction visits.flatMap checks with
  | nil => exact .nil
  | cons check rest ih =>
    rcases htold : told? check with _ | x
    · have hfails : ¬ ∃ message, check.2.Fails message := by
        rintro ⟨message, h⟩
        have hsome := told?_eq_some (x := ⟨check.1.text, message⟩).mpr ⟨rfl, h⟩
        rw [htold] at hsome
        cases hsome
      rw [List.filterMap_cons_none htold, List.filter_cons_of_neg (by simpa using hfails)]
      exact ih
    · have hx := told?_eq_some.mp htold
      rw [List.filterMap_cons_some htold,
        List.filter_cons_of_pos (by simpa using ⟨x.message, hx.2⟩)]
      exact .cons hx ih

/-- No check is made twice at a place. -/
theorem nodup_checks (applied : Applied) : applied.checks.Nodup := by
  unfold Applied.checks
  split
  · rename_i schema v
    have hconditions : (Condition.all.map (Check.condition · schema v)).Nodup := by
      refine List.Nodup.map (fun _ _ heq => ?_) (by decide)
      exact (Check.condition.inj heq).1
    split
    · simp [hconditions]
    · simp
  all_goals simp

/-- No failure is listed twice if no place is visited twice. -/
theorem nodup_failures {visits : List Visit} (h : (visits.map (·.path)).Nodup) :
    (failures visits).Nodup := by
  -- The checks of one visit are different, and those of two visits are at different places.
  refine List.Nodup.filter _ (List.nodup_flatMap.mpr ⟨fun x _ => ?_, ?_⟩)
  · exact (nodup_checks x.applied).map fun _ _ heq => (Prod.mk.inj heq).2
  · refine (List.pairwise_map.mp h).imp fun {x y} hne => ?_
    intro check hx hy
    obtain ⟨c, -, rfl⟩ := List.mem_map.mp hx
    obtain ⟨c', -, heq⟩ := List.mem_map.mp hy
    exact hne (Prod.mk.inj heq).1.symm

theorem report_cons (x : Visit) (rest : List Visit) :
    report (x :: rest) = x.checks.filterMap told? ++ report rest := by
  rw [report, List.flatMap_cons, List.filterMap_append]
  rfl

theorem report_append (front back : List Visit) :
    report (front ++ back) = report front ++ report back := by
  rw [report, List.flatMap_append, List.filterMap_append]
  rfl

/-- What is found behind a step is found there, with the step in front of its place. -/
theorem report_behind (step : Step) (visits : List Visit) :
    report (visits.map fun x => ⟨step :: x.path, x.applied⟩)
      = (report visits).map (·.within step.text) := by
  induction visits with
  | nil => rfl
  | cons x rest ih =>
    have hchecks : (Visit.mk (step :: x.path) x.applied).checks.filterMap told?
        = (x.checks.filterMap told?).map (·.within step.text) := by
      simp only [checks, List.filterMap_map, List.map_filterMap, Function.comp_def, told?,
        Option.map_map]
      rfl
    rw [List.map_cons, report_cons, report_cons, List.map_append, hchecks, ih]

/-- What is found in the parts of a value is found in the value, further in. -/
theorem report_inParts (parts : List (Step × List Visit)) :
    report (inParts parts)
      = parts.flatMap fun part => (report part.2).map (·.within part.1.text) := by
  induction parts with
  | nil => rfl
  | cons part rest ih =>
    show report (part.2.map _ ++ inParts rest) = _
    rw [report_append, report_behind, ih, List.flatMap_cons]

/-- What is found at the place where a walk starts is about the whole value. -/
theorem report_root (applied : Applied) (rest : List Visit) :
    report (⟨[], applied⟩ :: rest)
      = (applied.checks.filterMap Check.found?).map .atRoot ++ report rest := by
  rw [report_cons, checks, List.filterMap_map, List.map_filterMap]
  rfl

/-- A walk may visit nothing but the whole value. -/
theorem report_singleton (applied : Applied) :
    report [⟨[], applied⟩] = (applied.checks.filterMap Check.found?).map .atRoot :=
  (report_root applied []).trans (List.append_nil _)

end Visit

/-! ### What values violate -/

/-- A value violates in a simple schema what is found for its checks. -/
theorem SimpleSchema.violations_eq_found (schema : SimpleSchema) (v : Json) :
    schema.violations v
      = ((Applied.node (.simple schema) v).checks.filterMap Check.found?).map .atRoot := by
  rcases htype : schema.type.accepts v with _ | _
  · simp only [violations, Applied.checks, htype]
    rw [List.filterMap_cons_some (b := "Invalid type: must be of type " ++ schema.type.name)
      (by simp [Check.found?, htype])]
    rfl
  · have hfound : (Condition.all.map (Check.condition · schema v)).filterMap Check.found?
        = (schema.faults v).map SimpleSchema.Fault.message := by
      rw [faults_eq_filterMap, List.filterMap_map, List.map_filterMap]
      rfl
    simp only [violations, Applied.checks, htype, if_true]
    rw [List.filterMap_cons_none (by simp [Check.found?, htype]), hfound, List.map_map]
    rfl

namespace Registry

variable {r : Registry}

/-- A message about a whole member names the member. -/
theorem within_atRoot (name message : String) :
    (Violation.atRoot message).within name = ⟨name, message⟩ := by
  show Violation.mk (Path.text [.name name]) message = _
  rw [Json.Path.text_singleton]

/-- The members that no property declares, where all members are gone through. -/
theorem flatMap_beyond {α : Type} (properties : List (Property Node)) (members : Json.Members)
    (f : String × Json → List α) :
    (members.beyond properties).flatMap f
      = members.flatMap fun m => if properties.any (·.name = m.1) then [] else f m := by
  unfold Json.Members.beyond
  induction members with
  | nil => rfl
  | cons m rest ih =>
    rw [List.flatMap_cons, List.filter_cons]
    rcases hdeclared : properties.any (·.name = m.1) with _ | _
    · simp only [Bool.not_false, if_true, List.flatMap_cons, ih]
      rfl
    · simp only [Bool.not_true, Bool.false_eq_true, if_false, ih]
      rfl

/-- What is found for a declared property. -/
theorem propertyViolations_eq_report {members : Json.Members} {p : Property Node}
    {visits : List Visit}
    (hpresent : ∀ v, members.get? p.name = some v →
      r.violations p.schema v = Visit.report visits)
    (habsent : members.get? p.name = none → visits = [⟨[], .lacking p⟩]) :
    r.propertyViolations members p = (Visit.report visits).map (·.within p.name) := by
  unfold propertyViolations
  split
  · rename_i v hv
    rw [hpresent v hv]
  · rename_i hnone
    rw [habsent hnone, Visit.report_singleton]
    rcases hrequired : p.required with _ | _
    · simp [Applied.checks, Check.found?, hrequired]
    · simp [Applied.checks, Check.found?, hrequired, within_atRoot]

/-- What is found for an undeclared member. -/
theorem undeclaredViolations_eq_report {additional : Additional Node} {m : String × Json}
    {visits : List Visit}
    (hschema : ∀ n, additional = .schema n → r.violations n m.2 = Visit.report visits)
    (hplain : ∀ forbidden, additional.forbids = some forbidden →
      visits = [⟨[], .additional forbidden m.2⟩]) :
    r.undeclaredViolations additional m.1 m.2 = (Visit.report visits).map (·.within m.1) := by
  cases additional with
  | schema n => rw [undeclaredViolations, hschema n rfl]
  | allowed =>
    rw [hplain false rfl, Visit.report_singleton]
    rfl
  | forbidden =>
    rw [hplain true rfl, Visit.report_singleton]
    simp [undeclaredViolations, Applied.checks, Check.found?, within_atRoot]

/-- The bounds on its size that an array violates. -/
theorem sizeViolations_eq_found (items : Node) (minItems maxItems : Nat) (elements : List Json) :
    Resolver.sizeViolations minItems maxItems elements.length
      = ((Applied.node (.array items minItems maxItems) (.array elements)).checks.filterMap
          Check.found?).map .atRoot := by
  simp only [Resolver.sizeViolations, Applied.checks, SimpleSchema.filterMap_cons_eq_append,
    Check.found?]
  split <;> split <;> rfl

/-- What a value violates is what the visits of its walk find. -/
theorem violations_eq_report (hsound : r.Sound) {n : Node} {v : Json} {visits : List Visit}
    (h : r.Walk n v visits) : r.violations n v = Visit.report visits := by
  induction h with
  | simple schema v =>
    rw [violations_simple, Visit.report_singleton, SimpleSchema.violations_eq_found]
  | @notObject properties additional v hv =>
    rw [violations_object_of_not r properties additional hv, Visit.report_singleton]
    cases v with
    | object members => exact absurd rfl (hv members)
    | _ => rfl
  | @object properties additional members declared undeclared _ habsent _ hplain ihpresent
      ihschema =>
    have hproperties : ∀ p ∈ properties, r.propertyViolations members p
        = (Visit.report (declared p)).map (·.within p.name) := fun p hp =>
      propertyViolations_eq_report (fun v hv => ihpresent p hp v hv) (habsent p hp)
    have hbeyond : ∀ m ∈ members.beyond properties, r.undeclaredViolations additional m.1 m.2
        = (Visit.report (undeclared m)).map (·.within m.1) := fun m hm =>
      undeclaredViolations_eq_report (fun n hn => ihschema n hn m hm)
        fun forbidden hforbids => hplain forbidden hforbids m hm
    -- The type of the value holds, so that only its parts are left.
    rw [violations_object, ← flatMap_beyond, List.flatMap_congr hproperties,
      List.flatMap_congr hbeyond, Visit.report_root, Visit.report_inParts, List.flatMap_append,
      List.flatMap_map, List.flatMap_map]
    rfl
  | @notArray items minItems maxItems v hv =>
    rw [violations_array_of_not r items minItems maxItems hv, Visit.report_singleton]
    cases v with
    | array elements => exact absurd rfl (hv elements)
    | _ => rfl
  | @array items minItems maxItems elements inner _ ih =>
    have hinner : ∀ e ∈ elements.zipIdx, (r.violations items e.1).map (·.within s!"[{e.2}]")
        = (Visit.report (inner e.2)).map (·.within (Step.index e.2).text) := by
      intro e he
      rw [ih e.2 e.1 (List.mem_zipIdx_iff_getElem?.mp he)]
      rfl
    rw [violations_array, List.flatMap_congr hinner, Visit.report_root, Visit.report_inParts,
      List.flatMap_map, sizeViolations_eq_found]
  | reference hn _ ih =>
    rw [violations_reference hsound hn, ih]

end Registry

namespace Session

/-- No node that compilations register declares a property twice. -/
theorem declaresOnce_after {requests : List (Source × Request)}
    (h : ∀ request ∈ requests, request.2.byHand = false) :
    (after requests).registry.DeclaresOnce :=
  after_keeps (fun _ _ hn => by simp at hn) fun request hrequest =>
    ⟨fun _ location honce => Compilation.declaresOnce_compile request.1 honce location,
      h request hrequest⟩

/-- What a session compiles declares no property twice, and no object in a document that was
read from a text has a name twice. In a session with such a sound registry, let a node without
unions that has all its references registered be applied to a document. There is one walk that
does so, and what the document violates are the checks of the walk that fail: in their order,
each with the place of the check and its message, and nothing else. If the node declares no
property twice and no object in the document has a name twice, then no place is visited twice
and no failure is listed twice, and every member of an object is visited once, with the
property that declares it or else with what holds for undeclared members. The session stays as
it was. -/
theorem failures_reported (source : Source) (s : Session) (honce : s.registry.DeclaresOnce) :
    (∀ location : Url, ((compile source location).run s).2.registry.DeclaresOnce ∧
      ∀ n, ((compile source location).run s).1 = .ok n → n.DeclaresOnce) ∧
    (∀ text document, Json.parse? text = some document → document.NamesOnce) ∧
    ∀ (n : Node) (document : Json), s.registry.Sound → n.ClosedIn s.registry →
      s.registry.WithoutUnions n →
        ∃ visits report,
          s.registry.Walk n document visits ∧
          (∀ others, s.registry.Walk n document others → others = visits) ∧
          (validate source n document).run s = (report, s) ∧
          Forall₂ (fun failure x => x.location = failure.1.text ∧ failure.2.Fails x.message)
            (Visit.failures visits) report ∧
          (n.DeclaresOnce → document.NamesOnce →
            (Visit.failures visits).Nodup ∧ (visits.map (·.path)).Nodup ∧
            ∀ x ∈ visits, ∀ properties additional members,
              x.applied = .node (.object properties additional) (.object members) →
                ∀ m ∈ members, ∃ y ∈ visits, y.path = x.path ++ [.name m.1] ∧
                  s.registry.Governs properties additional m y.applied ∧
                  ∀ z ∈ visits, z.path = y.path → z = y) := by
  refine ⟨fun location => ?_, fun _ _ => Json.namesOnce_of_parse?,
    fun n document hsound hclosed hfree => ?_⟩
  · rw [run_compile]
    have hregistry := Compilation.declaresOnce_compile source honce location
    exact ⟨hregistry, fun n hn => hregistry location n (Compilation.get?_of_compile hn)⟩
  · obtain ⟨visits, hwalk⟩ := Registry.exists_walk hsound hclosed hfree document
    refine ⟨visits, s.registry.violations n document, hwalk, fun others h => h.unique hwalk,
      run_validate hsound hclosed source document, ?_, fun hn hnames => ?_⟩
    · rw [Registry.violations_eq_report hsound hwalk]
      exact Visit.forall₂_failures visits
    · have hpaths := hwalk.nodup_paths honce hn hnames
      refine ⟨Visit.nodup_failures hpaths, hpaths, ?_⟩
      intro x hx properties additional members happlied m hm
      obtain ⟨y, hy, hpath, hgoverns⟩ := hwalk.exists_visit_of_member hnames hx happlied hm
      exact ⟨y, hy, hpath, hgoverns, fun z hz heq => List.inj_on_of_nodup_map hpaths hz hy heq⟩

end Session

/-! ### A linked list with one failure -/

namespace LinkedList

/-- There is no union in the schema of linked lists. -/
theorem withoutUnions_node {r : Registry} (hr : r.get? location = some node) :
    r.WithoutUnions node := by
  intro part hpart
  have hparts : part = node ∨ part = .reference location := by
    induction hpart with
    | refl => exact .inl rfl
    | tail _ hstep ih =>
      rcases ih with rfl | rfl
      · cases hstep with
        | property hp =>
          rw [List.mem_singleton.mp hp]
          exact .inr rfl
      · cases hstep with
        | target hn => exact .inl (Option.some.inj (hn.symm.trans hr))
  rcases hparts with rfl | rfl <;> exact fun _ heq => by cases heq

theorem namesOnce_faulty : faulty.NamesOnce := by
  refine .object (by decide) fun m hm => ?_
  obtain rfl := List.mem_singleton.mp hm
  refine .object (by decide) fun m hm => ?_
  obtain rfl := List.mem_singleton.mp hm
  exact .null

/-- The undeclared member of the second cell is the one failure of the walk. -/
theorem faulty_reported :
    ∃ visits failure,
      (Session.after [(source, .get location)]).registry.Walk node faulty visits ∧
      Visit.failures visits = [failure] ∧ failure.1.text = "next.other" ∧
      failure.2.Fails "Unexpected property" ∧ (visits.map (·.path)).Nodup := by
  have hcompiled : ∀ request ∈ [(source, Request.get location)], request.2.byHand = false := by
    simp [Request.byHand]
  have hsound := Session.sound_after hcompiled
  have honce := Session.declaresOnce_after hcompiled
  have hclosed := hsound.closed location node get?_after
  obtain ⟨-, -, hreported⟩ := Session.failures_reported source _ honce
  obtain ⟨visits, report, hwalk, -, hrun, hfailures, hplaces⟩ :=
    hreported node faulty hsound hclosed (withoutUnions_node get?_after)
  have hreport : report = [⟨"next.other", "Unexpected property"⟩] := by
    rw [Session.run_validate hsound hclosed, violations_faulty hsound get?_after] at hrun
    exact (Prod.mk.inj hrun).1.symm
  rw [hreport] at hfailures
  obtain ⟨failure, rest, ⟨hplace, hfails⟩, hrest, hvisits⟩ :=
    List.forall₂_cons_right_iff.mp hfailures
  rw [List.forall₂_nil_right_iff.mp hrest] at hvisits
  exact ⟨visits, failure, hwalk, hvisits, hplace.symm, hfails,
    (hplaces (honce location node get?_after) namesOnce_faulty).2.1⟩

end LinkedList
end DraftSchema
