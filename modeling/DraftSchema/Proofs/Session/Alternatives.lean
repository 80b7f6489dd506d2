import DraftSchema.Proofs.Satisfaction.Adequacy
import DraftSchema.Proofs.Session.Runs

/-!
# `DraftSchema.Proofs.Session.Alternatives`: what a value violates in a union

A union asks its members for the types that they accept. If one accepts the type of a value,
the value violates what it violates in the member that it comes closest to, and otherwise it
violates its type, with the names of the types that the members accept. The theorems:

* `Resolver.exists_fewest`: the list that a union keeps is that of the first member with the
  fewest violations.
* `Resolver.firstOccurrences_distinct`: every type is named once, where it was met first.
* `Registry.length_violations_union`: in both cases a union has as many violations as the
  member with the fewest.
* `union_reports_closest`: all this for a session.
-/

set_option autoImplicit false

namespace DraftSchema

/-- The first of some things with the shortest list. -/
def IsFirstShortest {α : Type} (list : α → List Violation) (l : List α) (a : α) : Prop :=
  ∃ front back, l = front ++ a :: back ∧
    (∀ b ∈ front, (list a).length < (list b).length) ∧
    ∀ b ∈ back, (list a).length ≤ (list b).length

/-- The texts of a list, each once, in the order in which they come first. -/
structure FirstOccurrences (texts names : List String) : Prop where
  mem_iff : ∀ t, t ∈ names ↔ t ∈ texts
  nodup : names.Nodup
  ordered : names.Pairwise fun a b => texts.idxOf a < texts.idxOf b

/-! ### The closest member -/

namespace IsFirstShortest

variable {α : Type} {list : α → List Violation} {l : List α} {a : α}

theorem mem (h : IsFirstShortest list l a) : a ∈ l := by
  obtain ⟨front, back, rfl, -, -⟩ := h
  simp

theorem length_le (h : IsFirstShortest list l a) {b : α} (hb : b ∈ l) :
    (list a).length ≤ (list b).length := by
  obtain ⟨front, back, rfl, hfront, hback⟩ := h
  rcases List.mem_append.mp hb with hb | hb
  · exact Nat.le_of_lt (hfront b hb)
  · rcases List.mem_cons.mp hb with rfl | hb
    · exact Nat.le_refl _
    · exact hback b hb

/-- Something with a longer list in front makes no difference. -/
theorem cons (h : IsFirstShortest list l a) {b : α} (hb : (list a).length < (list b).length) :
    IsFirstShortest list (b :: l) a := by
  obtain ⟨front, back, rfl, hfront, hback⟩ := h
  exact ⟨b :: front, back, rfl, List.forall_mem_cons.mpr ⟨hb, hfront⟩, hback⟩

/-- Something whose list is no shorter than that of the head makes no difference behind it. -/
theorem insert {first b : α} (h : IsFirstShortest list (first :: l) a)
    (hb : (list first).length ≤ (list b).length) :
    IsFirstShortest list (first :: b :: l) a := by
  obtain ⟨front, back, hl, hfront, hback⟩ := h
  cases front with
  | nil =>
    obtain ⟨rfl, rfl⟩ := List.cons.inj hl
    exact ⟨[], b :: l, rfl, by simp, List.forall_mem_cons.mpr ⟨hb, hback⟩⟩
  | cons c front =>
    obtain ⟨rfl, rfl⟩ := List.cons.inj hl
    have hfirst := hfront first List.mem_cons_self
    refine ⟨first :: b :: front, back, rfl, ?_, hback⟩
    intro x hx
    rcases List.mem_cons.mp hx with rfl | hx
    · exact hfirst
    · rcases List.mem_cons.mp hx with rfl | hx
      · exact Nat.lt_of_lt_of_le hfirst hb
      · exact hfront x (List.mem_cons_of_mem _ hx)

end IsFirstShortest

namespace Resolver

/-- The list that is kept is that of the first thing with the shortest list. -/
theorem exists_fewest {α : Type} (list : α → List Violation) {l : List α} (h : l ≠ []) :
    ∃ a, IsFirstShortest list l a ∧ fewest (l.map list) = list a := by
  obtain ⟨first, rest, rfl⟩ := List.exists_cons_of_ne_nil h
  simp only [List.map_cons, fewest]
  clear h
  induction rest generalizing first with
  | nil => exact ⟨first, ⟨[], [], rfl, by simp, by simp⟩, rfl⟩
  | cons next rest ih =>
    rw [List.map_cons, List.foldl_cons]
    split
    · rename_i hlt
      obtain ⟨a, ha, hfold⟩ := ih next
      have hle := ha.length_le List.mem_cons_self
      exact ⟨a, ha.cons (by omega), hfold⟩
    · rename_i hle
      obtain ⟨a, ha, hfold⟩ := ih first
      exact ⟨a, ha.insert (by omega), hfold⟩

/-! ### The names of types -/

/-- One more text is added where it is new. -/
theorem distinct_concat (texts : List String) (t : String) :
    distinct (texts ++ [t]) = if t ∈ distinct texts then distinct texts
      else distinct texts ++ [t] := by
  rw [distinct, List.foldl_append]
  rfl

/-- Each text is kept where it comes first. -/
theorem firstOccurrences_distinct (texts : List String) :
    FirstOccurrences texts (distinct texts) := by
  induction texts using List.reverseRecOn with
  | nil => exact ⟨fun t => Iff.rfl, List.nodup_nil, .nil⟩
  | append_singleton texts t ih =>
    -- The texts that were kept so far stand where they stood.
    have hindex : ∀ a ∈ distinct texts, (texts ++ [t]).idxOf a = texts.idxOf a := by
      intro a ha
      exact List.idxOf_append_of_mem ((ih.mem_iff a).mp ha)
    have hordered : (distinct texts).Pairwise fun a b =>
        (texts ++ [t]).idxOf a < (texts ++ [t]).idxOf b := by
      refine ih.ordered.imp_of_mem fun {a b} ha hb hlt => ?_
      rwa [hindex a ha, hindex b hb]
    rw [distinct_concat]
    split
    · rename_i hknown
      refine ⟨fun a => ?_, ih.nodup, hordered⟩
      rw [ih.mem_iff, List.mem_append, List.mem_singleton]
      refine ⟨.inl, ?_⟩
      rintro (ha | rfl)
      · exact ha
      · exact (ih.mem_iff a).mp hknown
    · rename_i hnew
      have hfresh : t ∉ texts := fun ht => hnew ((ih.mem_iff t).mpr ht)
      refine ⟨fun a => ?_, ?_, ?_⟩
      · rw [List.mem_append, List.mem_append, ih.mem_iff]
      · rw [List.nodup_append]
        refine ⟨ih.nodup, List.nodup_singleton t, ?_⟩
        intro a ha b hb heq
        rw [List.mem_singleton] at hb
        exact hnew (hb ▸ heq ▸ ha)
      · rw [List.pairwise_append]
        refine ⟨hordered, List.pairwise_singleton _ _, ?_⟩
        intro a ha b hb
        rw [List.mem_singleton.mp hb, hindex a ha, List.idxOf_append_of_notMem hfresh]
        have hlt := List.idxOf_lt_length_of_mem ((ih.mem_iff a).mp ha)
        omega

end Resolver

/-! ### Answers -/

namespace Registry

variable {r : Registry} {members : List Node} {v : Json}

/-- A value of a type that is not accepted has one violation. -/
theorem length_violations_of_rejected {n : Node} (h : r.accepts n v = false) :
    (r.violations n v).length = 1 := by
  obtain ⟨expected, hfound⟩ := (r.resolver.agree r.size n v).onlyType h
  show (r.resolver.validate r.size n v).length = 1
  rw [hfound]
  rfl

/-- Where a member accepts the type of a value, the violations are those of the first member
that has the fewest. -/
theorem violations_union_of_accepted (h : ∃ n ∈ members, r.accepts n v = true) :
    ∃ n, IsFirstShortest (r.violations · v) members n ∧
      r.violations (.union members) v = r.violations n v := by
  obtain ⟨n, hmem, hn⟩ := h
  have hany : members.any (r.accepts · v) = true := List.any_eq_true.mpr ⟨n, hmem, hn⟩
  rw [violations_union, if_pos hany]
  exact Resolver.exists_fewest (r.violations · v) (List.ne_nil_of_mem hmem)

/-- Where no member accepts the type of a value, the value violates the type and nothing
else. -/
theorem violations_union_of_rejected (h : ∀ n ∈ members, r.accepts n v = false) :
    r.violations (.union members) v
      = [Resolver.violation (.noAlternative (Resolver.distinct (members.map r.describe)))] := by
  have hany : ¬ members.any (r.accepts · v) = true := by
    intro hany
    obtain ⟨n, hmem, hn⟩ := List.any_eq_true.mp hany
    rw [h n hmem] at hn
    cases hn
  rw [violations_union, if_neg hany]

/-- A union has as many violations as the member with the fewest. -/
theorem length_violations_union (h : members ≠ []) :
    (∃ n ∈ members, (r.violations (.union members) v).length = (r.violations n v).length) ∧
      ∀ n ∈ members, (r.violations (.union members) v).length ≤ (r.violations n v).length := by
  by_cases haccepted : ∃ n ∈ members, r.accepts n v = true
  · obtain ⟨n, hn, heq⟩ := violations_union_of_accepted haccepted
    rw [heq]
    exact ⟨⟨n, hn.mem, rfl⟩, fun m hm => hn.length_le hm⟩
  · have hrejected : ∀ n ∈ members, r.accepts n v = false := by
      intro n hmem
      exact Bool.eq_false_iff.mpr fun hn => haccepted ⟨n, hmem, hn⟩
    -- The types of all members are violated, once in each.
    rw [violations_union_of_rejected hrejected]
    have hone : ∀ n ∈ members, (r.violations n v).length = 1 := fun n hmem =>
      length_violations_of_rejected (hrejected n hmem)
    obtain ⟨n, hmem⟩ := List.exists_mem_of_ne_nil members h
    exact ⟨⟨n, hmem, (hone n hmem).symm⟩, fun m hm => (hone m hm).symm.le⟩

end Registry

namespace Session

/-- Let a value be checked against a union whose references lead into a sound registry. The
session stays as it was. The value violates nothing if and only if it violates nothing in some
member. If a member accepts its type, it violates what it violates in the first of the members
with the fewest violations, whether or not that one accepts the type, and otherwise it violates
its type: then the members are described, each distinct description once and in the order in
which they come first. In both cases there are as many violations as in a member with the
fewest, if there is a member. -/
theorem union_reports_closest {s : Session} {members : List Node} (hsound : s.registry.Sound)
    (hclosed : (Node.union members).ClosedIn s.registry) (source : Source) (v : Json) :
    let found : Node → List Violation := fun n => ((validate source n v).run s).1
    let accepted : Node → Bool := fun n => ((accepts source n v).run s).1
    let described : Node → String := fun n => ((describe source n).run s).1
    ((validate source (.union members) v).run s).2 = s ∧
    (found (.union members) = [] ↔ ∃ n ∈ members, found n = []) ∧
    ((∃ n ∈ members, accepted n = true) →
      ∃ n, IsFirstShortest found members n ∧ found (.union members) = found n) ∧
    ((∀ n ∈ members, accepted n = false) →
      ∃ names, FirstOccurrences (members.map described) names ∧
        found (.union members) = [⟨"", "Invalid type: must be one of: [" ++
          String.intercalate ", " (names.map fun name => "\"" ++ name ++ "\"") ++ "]"⟩]) ∧
    (members ≠ [] →
      (∃ n ∈ members, (found (.union members)).length = (found n).length) ∧
        ∀ n ∈ members, (found (.union members)).length ≤ (found n).length) := by
  intro found accepted described
  have hmember : ∀ n ∈ members, n.ClosedIn s.registry := fun n hmem =>
    hsound.closed.of_calls (show s.registry.Calls (n, v) (.union members, v) from .member hmem)
      hclosed
  -- The answers of the session are those of its registry.
  have hfound : ∀ n ∈ members, found n = s.registry.violations n v := fun n hmem =>
    congrArg Prod.fst (run_validate hsound (hmember n hmem) source v)
  have haccepted : ∀ n ∈ members, accepted n = s.registry.accepts n v := fun n hmem =>
    congrArg Prod.fst (run_accepts hsound (hmember n hmem) source v)
  have hdescribed : ∀ n ∈ members, described n = s.registry.describe n := fun n hmem =>
    congrArg Prod.fst (run_describe hsound (hmember n hmem) source)
  have hunion : found (.union members) = s.registry.violations (.union members) v :=
    congrArg Prod.fst (run_validate hsound hclosed source v)
  refine ⟨congrArg Prod.snd (run_validate hsound hclosed source v), ?_, ?_, ?_, ?_⟩
  · rw [hunion, Registry.violations_union_eq_nil]
    exact exists_congr fun n => and_congr_right fun hmem => by rw [hfound n hmem]
  · rintro ⟨n, hmem, hn⟩
    rw [haccepted n hmem] at hn
    obtain ⟨best, ⟨front, back, hmembers, hfront, hback⟩, heq⟩ :=
      Registry.violations_union_of_accepted ⟨n, hmem, hn⟩
    have hbest : best ∈ members := by simp [hmembers]
    refine ⟨best, ⟨front, back, hmembers, fun m hm => ?_, fun m hm => ?_⟩, ?_⟩
    · rw [hfound best hbest, hfound m (by simp [hmembers, hm])]
      exact hfront m hm
    · rw [hfound best hbest, hfound m (by simp [hmembers, hm])]
      exact hback m hm
    · rw [hunion, heq, hfound best hbest]
  · intro hrejected
    refine ⟨_, Resolver.firstOccurrences_distinct (members.map described), ?_⟩
    rw [hunion, List.map_congr_left hdescribed, Registry.violations_union_of_rejected fun n hmem =>
      (haccepted n hmem).symm.trans (hrejected n hmem)]
    rfl
  · intro hne
    obtain ⟨⟨n, hmem, heq⟩, hle⟩ := Registry.length_violations_union (r := s.registry) (v := v) hne
    rw [hunion]
    exact ⟨⟨n, hmem, by rw [heq, hfound n hmem]⟩, fun m hm => by rw [hfound m hm]; exact hle m hm⟩

/-- `null` is neither a linked list nor a text, and linked lists, which the union has twice,
are described once. -/
theorem null_of_no_alternative :
    ∃ names, FirstOccurrences ["object", "string", "object"] names ∧
      ((validate LinkedList.source (.union [.reference LinkedList.location,
        .simple (.ofType .string), .reference LinkedList.location]) .null).run
          (after [(LinkedList.source, .get LinkedList.location)])).1
        = [⟨"", "Invalid type: must be one of: [" ++
          String.intercalate ", " (names.map fun name => "\"" ++ name ++ "\"") ++ "]"⟩] := by
  have hsound : (after [(LinkedList.source, .get LinkedList.location)]).registry.Sound :=
    sound_after (by simp [Request.byHand])
  have hlist := Node.closedIn_reference LinkedList.get?_after
  have htext : (Node.simple (.ofType .string)).ClosedIn
      (after [(LinkedList.source, .get LinkedList.location)]).registry := by
    simp [Node.ClosedIn, Node.references]
  have hclosed : (Node.union [.reference LinkedList.location, .simple (.ofType .string),
      .reference LinkedList.location]).ClosedIn
        (after [(LinkedList.source, .get LinkedList.location)]).registry := by
    intro u hu
    rw [Node.references, Node.mem_memberReferences] at hu
    obtain ⟨n, hn, hu⟩ := hu
    simp only [List.mem_cons, List.not_mem_nil, or_false] at hn
    rcases hn with rfl | rfl | rfl
    · exact hlist u hu
    · exact htext u hu
    · exact hlist u hu
  obtain ⟨-, -, -, hrejected, -⟩ := union_reports_closest hsound hclosed LinkedList.source .null
  simp only [List.mem_cons, List.not_mem_nil, or_false, forall_eq_or_imp, forall_eq, List.map_cons,
    List.map_nil, run_accepts hsound hlist, run_accepts hsound htext, run_describe hsound hlist,
    run_describe hsound htext, Registry.accepts_reference hsound LinkedList.get?_after,
    Registry.describe_reference hsound LinkedList.get?_after, LinkedList.node,
    Registry.accepts_object, Registry.accepts_simple, Registry.describe_object,
    Registry.describe_simple] at hrejected
  exact hrejected ⟨trivial, rfl, trivial⟩

end Session
end DraftSchema
