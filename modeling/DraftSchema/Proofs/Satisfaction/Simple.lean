import DraftSchema.Proofs.Satisfaction.Keywords

/-!
# `DraftSchema.Proofs.Satisfaction.Simple`: simple schemas and their keywords

A simple schema is made from the keywords that a schema gives. A value violates nothing
in it exactly if the value is of its type and meets those keywords. The theorems:

* `violations_eq_nil`: the conditions of a simple schema, one by one.
* `violations_eq_nil_iff_meetsKeywords`: both put together.
-/

set_option autoImplicit false

namespace DraftSchema

/-! ### Types -/

/-- The accepted values are those of the type. -/
theorem SimpleType.accepts_iff {type : SimpleType} {v : Json} :
    type.accepts v ↔ OfType type v := by
  refine ⟨fun h => ?_, fun h => ?_⟩
  · unfold accepts at h
    split at h
    · exact .string _
    · exact .number _
    · exact .integer h
    · exact .boolean _
    · exact .null
    · exact .any _
    · simp at h
  · cases h with
    | integer h => exact h
    | _ => rfl

/-! ### Conditions -/

namespace SimpleSchema

variable {s : SimpleSchema} {v : Json}

theorem patternFault?_eq_none : s.patternFault? v = none ↔
    ∀ p text, s.pattern = some p → v = .string text → p.isFullMatch text := by
  unfold patternFault?
  split
  · split
    · rename_i text p hp
      simp [hp]
    · rename_i hp
      simp [hp]
  · rename_i hv
    simp only [true_iff]
    exact fun p text _ heq => absurd heq (hv text)

theorem formatFault?_eq_none : s.formatFault? v = none ↔
    ∀ name f, s.format = some name → Format.ofName? name = some f → f.holds v := by
  unfold formatFault?
  rcases hformat : s.format with _ | name
  · simp
  · -- A name without a meaning asks for nothing.
    rcases hname : Format.ofName? name with _ | f
    · refine iff_of_true (by simp [hname]) fun name' f heq hf => ?_
      cases heq
      simp [hname] at hf
    · refine ⟨fun h name' f' heq hf => ?_, fun h => ?_⟩
      · cases heq
        obtain rfl : f = f' := by simpa [hname] using hf
        simpa [hname] using h
      · simp [hname, h name f rfl hname]

theorem minimumFault?_eq_none {literal : Json.Number} {d : Decimal} :
    s.minimumFault? literal d = none ↔
      ∀ bound, s.minimum = some bound → d.lt bound = false ∧
        (s.exclusiveMinimum = true → d.le bound = false) := by
  unfold minimumFault?
  rcases hminimum : s.minimum with _ | bound
  · simp
  · simp only [Option.some.injEq, forall_eq']
    cases s.exclusiveMinimum <;> cases d.le bound <;> cases d.lt bound <;> simp

theorem maximumFault?_eq_none {literal : Json.Number} {d : Decimal} :
    s.maximumFault? literal d = none ↔
      ∀ bound, s.maximum = some bound → bound.lt d = false ∧
        (s.exclusiveMaximum = true → bound.le d = false) := by
  unfold maximumFault?
  rcases hmaximum : s.maximum with _ | bound
  · simp
  · simp only [Option.some.injEq, forall_eq']
    cases s.exclusiveMaximum <;> cases bound.le d <;> cases bound.lt d <;> simp

/-- Bounds are on values that are decimals. -/
theorem rangeFaults_eq_nil : s.rangeFaults v = [] ↔
    ∀ d, v.decimal? = some d →
      (∀ bound, s.minimum = some bound → d.lt bound = false ∧
        (s.exclusiveMinimum = true → d.le bound = false)) ∧
      ∀ bound, s.maximum = some bound → bound.lt d = false ∧
        (s.exclusiveMaximum = true → bound.le d = false) := by
  unfold rangeFaults
  split
  · rename_i literal
    -- A number that is no decimal is in every range.
    rcases hd : Decimal.ofNumber? literal with _ | d
    · simp [Json.decimal?, hd]
    · simp only [Json.decimal?, hd, List.append_eq_nil_iff, Option.toList_eq_nil_iff,
        minimumFault?_eq_none, maximumFault?_eq_none, Option.some.injEq, forall_eq']
  · rename_i hv
    have hnone : v.decimal? = none := by
      unfold Json.decimal?
      split
      · rename_i literal
        exact absurd rfl (hv literal)
      · rfl
    simp [hnone]

theorem lengthFaults_eq_nil : s.lengthFaults v = [] ↔
    ∀ text, v = .string text →
      s.minLength ≤ text.length ∧ (0 < s.maxLength → text.length ≤ s.maxLength) := by
  unfold lengthFaults
  split
  · rename_i text
    simp only [List.append_eq_nil_iff, Json.string.injEq, forall_eq']
    refine and_congr ?_ ?_
    · split <;> simp <;> omega
    · split <;> simp <;> omega
  · rename_i hv
    simp only [true_iff]
    exact fun text heq => absurd heq (hv text)

theorem enumerationFault?_eq_none : s.enumerationFault? v = none ↔
    ∀ allowed, s.enumeration = some allowed → ∃ w ∈ allowed, w.sameValue v := by
  unfold enumerationFault?
  rcases henumeration : s.enumeration with _ | allowed
  · simp
  · simp

/-- Nothing is violated if the value is of the type and meets all conditions. -/
theorem violations_eq_nil : s.violations v = [] ↔
    s.type.accepts v ∧ s.patternFault? v = none ∧ s.formatFault? v = none ∧
      s.rangeFaults v = [] ∧ s.lengthFaults v = [] ∧ s.enumerationFault? v = none := by
  unfold violations
  cases s.type.accepts v with
  | true => simp [faults]
  | false => simp

/-- A type without conditions asks for nothing but the type. -/
theorem violations_ofType {type : SimpleType} :
    (ofType type).violations v = [] ↔ OfType type v := by
  rw [violations_eq_nil, patternFault?_eq_none, formatFault?_eq_none, rangeFaults_eq_nil,
    lengthFaults_eq_nil, enumerationFault?_eq_none, SimpleType.accepts_iff]
  simp [ofType]

/-- A value violates nothing in a simple schema if it is of its type and meets its
keywords. -/
theorem violations_eq_nil_iff_meetsKeywords {members : Json.Members} {type : SimpleType}
    {k : Keywords} (hk : Node.simpleKeywords? members = .ok k)
    (hs : ofKeywords? type k = .ok s) :
    s.violations v = [] ↔ OfType type v ∧ MeetsKeywords members v := by
  obtain ⟨hpattern, hformat, hminLength, hmaxLength, hminimum, hmaximum, hexclusiveMinimum,
    hexclusiveMaximum, henumeration⟩ := Node.simpleKeywords?_eq_ok hk
  unfold ofKeywords? at hs
  split at hs
  · simp at hs
  · cases hs
    rw [violations_eq_nil, patternFault?_eq_none, formatFault?_eq_none, rangeFaults_eq_nil,
      lengthFaults_eq_nil, enumerationFault?_eq_none, SimpleType.accepts_iff]
    refine and_congr_right fun _ => ⟨?_, ?_⟩
    · -- What the keywords ask for are the conditions that were read from them.
      rintro ⟨hp, hf, hr, hl, he⟩
      exact {
        pattern := fun source p text hsource hof hv =>
          hp p text ((Node.patternKeyword?_eq_ok hpattern p).mp ⟨source, hsource, hof⟩) hv
        format := fun name f hname hof =>
          hf name f ((Node.stringKeyword?_eq_ok hformat name).mp hname) hof
        minimum := fun bound d hbound hd => by
          rw [Node.decimalKeyword?_eq_ok hminimum] at hbound
          obtain ⟨hlt, hle⟩ := (hr d hd).1 bound hbound
          refine ⟨hlt, fun hexclusive => hle ?_⟩
          rw [(Node.boolKeyword?_eq_ok hexclusiveMinimum true).mp hexclusive]
          rfl
        maximum := fun bound d hbound hd => by
          rw [Node.decimalKeyword?_eq_ok hmaximum] at hbound
          obtain ⟨hlt, hle⟩ := (hr d hd).2 bound hbound
          refine ⟨hlt, fun hexclusive => hle ?_⟩
          rw [(Node.boolKeyword?_eq_ok hexclusiveMaximum true).mp hexclusive]
          rfl
        minLength := fun bound text hbound hv => by
          rw [Node.countKeyword?_eq_ok hminLength] at hbound
          simpa [hbound] using (hl text hv).1
        maxLength := fun bound text hbound hv => by
          rw [Node.countKeyword?_eq_ok hmaxLength] at hbound
          simpa [hbound] using (hl text hv).2
        enumeration := fun allowed hallowed =>
          he allowed ((Node.listKeyword?_eq_ok henumeration allowed).mp hallowed) }
    · intro h
      refine ⟨fun p text hp hv => ?_, fun name f hname hof => ?_, fun d hd => ⟨?_, ?_⟩,
        fun text hv => ⟨?_, ?_⟩, fun allowed hallowed => ?_⟩
      · obtain ⟨source, hsource, hof⟩ := (Node.patternKeyword?_eq_ok hpattern p).mpr hp
        exact h.pattern source p text hsource hof hv
      · exact h.format name f ((Node.stringKeyword?_eq_ok hformat name).mpr hname) hof
      · intro bound hbound
        obtain ⟨hlt, hle⟩ := h.minimum bound d
          ((Node.decimalKeyword?_eq_ok hminimum).trans hbound) hd
        refine ⟨hlt, fun hexclusive => hle ?_⟩
        rw [Node.boolKeyword?_eq_ok hexclusiveMinimum]
        exact (Option.getD_eq_iff.mp hexclusive).resolve_right (by simp)
      · intro bound hbound
        obtain ⟨hlt, hle⟩ := h.maximum bound d
          ((Node.decimalKeyword?_eq_ok hmaximum).trans hbound) hd
        refine ⟨hlt, fun hexclusive => hle ?_⟩
        rw [Node.boolKeyword?_eq_ok hexclusiveMaximum]
        exact (Option.getD_eq_iff.mp hexclusive).resolve_right (by simp)
      · -- A length that is not given is read as zero, which asks for nothing.
        rcases hbound : k.minLength with _ | bound
        · exact Nat.zero_le _
        · exact h.minLength bound text ((Node.countKeyword?_eq_ok hminLength).trans hbound) hv
      · rcases hbound : k.maxLength with _ | bound
        · exact fun hpos => absurd hpos (Nat.lt_irrefl 0)
        · exact h.maxLength bound text ((Node.countKeyword?_eq_ok hmaxLength).trans hbound) hv
      · exact h.enumeration allowed ((Node.listKeyword?_eq_ok henumeration allowed).mpr hallowed)

end SimpleSchema
end DraftSchema
