import DraftSchema.Proofs.Json.Canonical
import DraftSchema.Proofs.Node.Built
import Mathlib

/-!
# `DraftSchema.Proofs.SimpleSchema.Enumeration`: values that are listed

A schema may list the values that it admits. What is listed is compared by canonical form
(`Json.canonical`), so that being the same is an equivalence of values, and nothing that is
listed is turned away. The theorems:

* `Json.sameValue_refl`, `Json.sameValue_symm` and `Json.sameValue_trans`: an equivalence of
  values in which every name stands once.
* `IsBuilt.accepts_listed`: what is listed in a schema is of its type.
* `isNone_enumerationFault?_congr`: numbers with one value are both listed or both not.
* `listed_by_canonical_value`: all of these, and what the equivalence is.
-/

set_option autoImplicit false

namespace DraftSchema

namespace Json

variable {u v w : Json}

/-- A value is the same as itself. -/
theorem sameValue_refl (hv : v.NamesOnce) : v.sameValue v = true :=
  (sameValue_iff_canonical hv hv).mpr rfl

/-- The order of two values makes no difference. -/
theorem sameValue_symm (hv : v.NamesOnce) (hw : w.NamesOnce) (h : v.sameValue w = true) :
    w.sameValue v = true := by
  rw [sameValue_iff_canonical hv hw] at h
  rw [sameValue_iff_canonical hw hv]
  exact h.symm

/-- Values that are the same as a third one are the same. -/
theorem sameValue_trans (hu : u.NamesOnce) (hv : v.NamesOnce) (hw : w.NamesOnce)
    (huv : u.sameValue v = true) (hvw : v.sameValue w = true) : u.sameValue w = true := by
  rw [sameValue_iff_canonical hu hv] at huv
  rw [sameValue_iff_canonical hv hw] at hvw
  rw [sameValue_iff_canonical hu hw]
  exact huv.trans hvw

end Json

namespace SimpleSchema

variable {s : SimpleSchema} {values : List Json}

/-- Every value that a schema lists is of its type. -/
theorem IsBuilt.accepts_listed (h : s.IsBuilt) (hvalues : s.enumeration = some values)
    {v : Json} (hv : v ∈ values) : s.type.accepts v = true := by
  obtain ⟨k, hconflict, -, -, henumeration⟩ := h.exists_keywords
  have hlisted := (Keywords.conflict?_eq_none.mp hconflict).2.2.2.2
  rw [henumeration] at hvalues
  exact (Keywords.enumerationConflict?_eq_none.mp hlisted values hvalues).2.2 v hv

/-- A value that is listed is found in the list. -/
theorem enumerationFault?_of_listed (hvalues : s.enumeration = some values) {v : Json}
    (hv : v ∈ values) (hnames : v.NamesOnce) : s.enumerationFault? v = none := by
  rw [enumerationFault?_eq_none]
  intro allowed hallowed
  rw [hvalues] at hallowed
  cases hallowed
  exact ⟨v, hv, Json.sameValue_refl hnames⟩

/-- A number is listed under any literal that spells it. Of the values in the list only numbers
have a part in that. -/
theorem isNone_enumerationFault?_congr (s : SimpleSchema) {m n : Json.Number}
    (h : m.canonical = n.canonical) :
    (s.enumerationFault? (.number m)).isNone = (s.enumerationFault? (.number n)).isNone := by
  have hlisted : ∀ w : Json, w.sameValue (.number m) = w.sameValue (.number n) := by
    intro w
    cases w with
    | number literal =>
      show literal.sameValue m = literal.sameValue n
      rw [Bool.eq_iff_iff, Json.Number.sameValue_iff, Json.Number.sameValue_iff, h]
    | _ => rfl
  rw [Bool.eq_iff_iff, Option.isNone_iff_eq_none, Option.isNone_iff_eq_none,
    enumerationFault?_eq_none, enumerationFault?_eq_none]
  simp only [hlisted]

/-- Values in which every name stands once are the same exactly if they have one canonical
form, in which numbers are the numbers that they spell, literals that spell no decimal stay as
they are written, elements stand in their order and members in none. So being the same is an
equivalence. Every value that a schema lists is of its type and is found in the list. Two
literals that spell decimals with one value are both listed or both not. -/
theorem listed_by_canonical_value :
    (∀ v w : Json, v.NamesOnce → w.NamesOnce →
      (v.sameValue w = true ↔ v.canonical = w.canonical)) ∧
    (∀ v : Json, v.NamesOnce → v.sameValue v = true) ∧
    (∀ v w : Json, v.NamesOnce → w.NamesOnce → v.sameValue w = true → w.sameValue v = true) ∧
    (∀ u v w : Json, u.NamesOnce → v.NamesOnce → w.NamesOnce →
      u.sameValue v = true → v.sameValue w = true → u.sameValue w = true) ∧
    (∀ (s : SimpleSchema) (values : List Json), s.IsBuilt → s.enumeration = some values →
      ∀ v ∈ values, v.NamesOnce →
        s.type.accepts v = true ∧ s.enumerationFault? v = none) ∧
    (∀ (s : SimpleSchema) (m n : Json.Number) (a b : Decimal),
      Decimal.ofNumber? m = some a → Decimal.ofNumber? n = some b → a.value = b.value →
        (s.enumerationFault? (.number m)).isNone
          = (s.enumerationFault? (.number n)).isNone) := by
  refine ⟨fun v w => Json.sameValue_iff_canonical, fun v => Json.sameValue_refl,
    fun v w => Json.sameValue_symm, fun u v w => Json.sameValue_trans, ?_, ?_⟩
  · intro s values hbuilt hvalues v hv hnames
    exact ⟨hbuilt.accepts_listed hvalues hv, enumerationFault?_of_listed hvalues hv hnames⟩
  · intro s m n a b hm hn hvalue
    refine isNone_enumerationFault?_congr s ?_
    unfold Json.Number.canonical
    rw [hm, hn]
    simp only [hvalue]

/-- Members in another order and numbers in another spelling leave the canonical form as it
is. The numbers one, one point zero and ten with the exponent minus one are all listed where
one of them is. -/
theorem one_listed_in_any_spelling :
    let one : Json.Number := ⟨false, [1], [], none⟩
    let onePointZero : Json.Number := ⟨false, [1], [0], none⟩
    let tenth : Json.Number := ⟨false, [1, 0], [], some ⟨true, [1]⟩⟩
    let v : Json := .object [("a", .number one), ("b", .array [.number tenth])]
    let w : Json := .object [("b", .array [.number onePointZero]), ("a", .number tenth)]
    let s : SimpleSchema := { ofType .number with enumeration := some [.number onePointZero] }
    v.canonical = w.canonical ∧ w.sameValue v = true ∧ v.sameValue v = true ∧
      s.enumerationFault? (.number onePointZero) = none ∧
      (s.enumerationFault? (.number tenth)).isNone = true ∧
      (s.enumerationFault? (.number one)).isNone = true := by
  intro one onePointZero tenth v w s
  obtain ⟨hform, hrefl, hsymm, htrans, hlisted, hnumber⟩ := listed_by_canonical_value
  have hv : v.NamesOnce := by
    refine .object (by decide) ?_
    simp only [List.mem_cons, List.not_mem_nil, or_false, forall_eq_or_imp, forall_eq]
    refine ⟨.number one, .array ?_⟩
    simp only [List.mem_cons, List.not_mem_nil, or_false, forall_eq]
    exact .number tenth
  have hw : w.NamesOnce := by
    refine .object (by decide) ?_
    simp only [List.mem_cons, List.not_mem_nil, or_false, forall_eq_or_imp, forall_eq]
    refine ⟨.array ?_, .number tenth⟩
    simp only [List.mem_cons, List.not_mem_nil, or_false, forall_eq]
    exact .number onePointZero
  have hvw : v.sameValue w = true := by cbv
  have hwv := hsymm v w hv hw hvw
  have hfound : s.enumerationFault? (.number onePointZero) = none :=
    (hlisted s [.number onePointZero] ⟨.number, { enumeration := some [.number onePointZero] }, rfl⟩
      rfl _ List.mem_cons_self (.number onePointZero)).2
  have htenth := hnumber s onePointZero tenth ⟨10, 1⟩ ⟨10, 1⟩ (by cbv) (by cbv) rfl
  have hone := hnumber s onePointZero one ⟨10, 1⟩ ⟨1, 0⟩ (by cbv) (by cbv)
    (by norm_num [Decimal.value])
  rw [hfound] at htenth hone
  exact ⟨(hform v w hv hw).mp hvw, hwv, htrans v w v hv hw hv hvw hwv, hfound, htenth.symm,
    hone.symm⟩

end SimpleSchema
end DraftSchema
