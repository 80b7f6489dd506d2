import DraftSchema.Proofs.Language
import DraftSchema.Proofs.Node.Elaborates
import DraftSchema.Proofs.Satisfaction.Simple

/-!
# `DraftSchema.Proofs.Language.Keywords`: which keywords are read

A keyword is read if it is not given or has a value that it can have, and a simple type can
carry it or not. The theorems:

* `conflict?_eq_none`: when keywords are in no conflict with a type.
* `exists_simple?_iff`: a schema of a simple type is read exactly if the type can carry its
  keywords.
-/

set_option autoImplicit false

namespace DraftSchema

/-! ### Names of types -/

/-- A name in any case stands for the type that is called so. -/
theorem SimpleType.ofName?_eq_some {name : String} {type : SimpleType} :
    ofName? name = some type ↔ type.IsCalled name := by
  unfold IsCalled
  refine ⟨fun h => by simpa using List.find?_some h, fun h => ?_⟩
  -- The six names are different.
  unfold ofName?
  rw [← h]
  cases type <;> decide

/-- The names that stand for a type without more keywords. -/
theorem Node.exists_named?_iff {name : String} :
    (∃ n, named? name = .ok n) ↔ IsTypeName name := by
  unfold named?
  split
  · exact iff_of_true ⟨_, rfl⟩ (.object rfl)
  · exact iff_of_true ⟨_, rfl⟩ (.array rfl)
  · rename_i hobject harray
    unfold simpleType?
    rcases hname : SimpleType.ofName? name with _ | type
    · refine iff_of_false (by simp [Except.map]) fun h => ?_
      cases h with
      | object h => exact hobject h
      | array h => exact harray h
      | simple h => simp [SimpleType.ofName?_eq_some.mpr h] at hname
    · exact iff_of_true ⟨_, rfl⟩ (.simple (SimpleType.ofName?_eq_some.mp hname))

/-! ### Reading keywords -/

namespace Node

variable {members : Json.Members} {name : String}

/-- What holds of two names. -/
theorem forall_mem_pair {P : String → Prop} {a b : String} : (∀ x ∈ [a, b], P x) ↔ P a ∧ P b := by
  simp

/-- A truth value is read where one is given or nothing is. -/
theorem exists_boolKeyword?_iff :
    (∃ o, boolKeyword? members name = .ok o) ↔
      ∀ v, members.get? name = some v → ∃ b, v = .bool b := by
  simp only [boolKeyword?_eq_ok_iff, exists_reads_iff, isSome_truth?]

/-- A count is read where one is given or nothing is. -/
theorem exists_countKeyword?_iff :
    (∃ o, countKeyword? members name = .ok o) ↔
      ∀ v, members.get? name = some v → (count? v).isSome := by
  simp only [countKeyword?_eq_ok_iff, exists_reads_iff]

end Node

/-! ### Conflicts -/

namespace SimpleSchema.Keywords

variable {k : Keywords} {type : SimpleType}

theorem patternConflict?_eq_none :
    k.patternConflict? type = none ↔ (k.pattern.isSome → type = .string) := by
  unfold patternConflict?
  by_cases htype : type = .string <;> simp [htype]

theorem formatConflict?_eq_none : k.formatConflict? type = none ↔
    ∀ name, k.format = some name → ∀ f, Format.ofName? name = some f → f.suits type := by
  unfold formatConflict?
  rcases k.format with _ | name
  · simp
  · simp only [Option.bind_some, Option.some.injEq, forall_eq']
    -- A name that stands for no format is in no conflict.
    rcases hname : Format.ofName? name with _ | f <;> simp

theorem lengthConflict?_eq_none : k.lengthConflict? type = none ↔
    (k.minLength.isSome → type = .string) ∧ (k.maxLength.isSome → type = .string) := by
  unfold lengthConflict?
  by_cases htype : type = .string
  · simp [htype]
  · simp [htype, firstGiven]

theorem rangeConflict?_eq_none : k.rangeConflict? type = none ↔
    (k.minimum.isSome → type.isNumeric) ∧ (k.maximum.isSome → type.isNumeric) ∧
      (k.exclusiveMinimum.isSome → type.isNumeric) ∧
      (k.exclusiveMaximum.isSome → type.isNumeric) := by
  unfold rangeConflict?
  by_cases htype : type.isNumeric
  · simp [htype]
  · simp [htype, firstGiven]

theorem enumerationConflict?_eq_none : k.enumerationConflict? type = none ↔
    ∀ values, k.enumeration = some values →
      type ≠ .null ∧ type ≠ .any ∧ ∀ w ∈ values, type.accepts w := by
  unfold enumerationConflict?
  rcases k.enumeration with _ | values
  · simp
  · by_cases hnull : type = .null
    · simp [hnull]
    · by_cases hany : type = .any
      · simp [hany]
      · simp [hnull, hany]

/-- The keywords are in no conflict with a type if none of them is. -/
theorem conflict?_eq_none : k.conflict? type = none ↔
    k.patternConflict? type = none ∧ k.formatConflict? type = none ∧
      k.lengthConflict? type = none ∧ k.rangeConflict? type = none ∧
      k.enumerationConflict? type = none := by
  simp [conflict?]

end SimpleSchema.Keywords

section

open Node SimpleSchema

variable {type : SimpleType} {members : Json.Members} {k : Keywords}

/-- Whether keywords that were read are in conflict with a type, in terms of what is given. -/
theorem conflict?_eq_none_iff_of_read (hk : simpleKeywords? members = .ok k) :
    k.conflict? type = none ↔
      (∀ v, members.get? "pattern" = some v → type = .string) ∧
      (∀ name, members.get? "format" = some (.string name) →
        ∀ f, Format.ofName? name = some f → f.suits type) ∧
      ((∀ v, members.get? "minLength" = some v → type = .string) ∧
        ∀ v, members.get? "maxLength" = some v → type = .string) ∧
      ((∀ v, members.get? "minimum" = some v → type.isNumeric) ∧
        (∀ v, members.get? "maximum" = some v → type.isNumeric) ∧
        (∀ v, members.get? "exclusiveMinimum" = some v → type.isNumeric) ∧
        ∀ v, members.get? "exclusiveMaximum" = some v → type.isNumeric) ∧
      ∀ values, members.get? "enumeration" = some (.array values) →
        type ≠ .null ∧ type ≠ .any ∧ ∀ w ∈ values, type.accepts w := by
  obtain ⟨-, hformat, -, -, -, -, -, -, henumeration⟩ := simpleKeywords?_eq_ok hk
  obtain ⟨hpattern, -, hminLength, hmaxLength, hminimum, hmaximum, hexclusiveMinimum,
    hexclusiveMaximum, -⟩ := simpleKeywords?_eq_ok_iff.mp hk
  rw [Keywords.conflict?_eq_none, Keywords.patternConflict?_eq_none,
    Keywords.formatConflict?_eq_none, Keywords.lengthConflict?_eq_none,
    Keywords.rangeConflict?_eq_none, Keywords.enumerationConflict?_eq_none,
    hpattern.isSome_imp_iff, hminLength.isSome_imp_iff, hmaxLength.isSome_imp_iff,
    hminimum.isSome_imp_iff, hmaximum.isSome_imp_iff, hexclusiveMinimum.isSome_imp_iff,
    hexclusiveMaximum.isSome_imp_iff]
  simp only [stringKeyword?_eq_ok hformat, listKeyword?_eq_ok henumeration]

/-- A type can carry keywords that were read and are in no conflict with it. -/
theorem carriesKeywords_of_read (hk : simpleKeywords? members = .ok k)
    (hconflict : k.conflict? type = none) : CarriesKeywords type members := by
  obtain ⟨hp, hf, ⟨hminl, hmaxl⟩, ⟨hmin, hmax, hexmin, hexmax⟩, he⟩ :=
    (conflict?_eq_none_iff_of_read hk).mp hconflict
  obtain ⟨hpattern, hformat, hminLength, hmaxLength, hminimum, hmaximum, hexclusiveMinimum,
    hexclusiveMaximum, henumeration⟩ := simpleKeywords?_eq_ok_iff.mp hk
  constructor
  case pattern =>
    intro v hv
    obtain ⟨p, hread⟩ := hpattern.of_given hv
    obtain ⟨source, hsource, hof⟩ := Option.bind_eq_some_iff.mp hread
    exact ⟨hp v hv, source, text?_eq_some.mp hsource, Option.isSome_of_eq_some hof⟩
  case format =>
    intro v hv
    obtain ⟨name, hread⟩ := hformat.of_given hv
    obtain rfl := text?_eq_some.mp hread
    exact ⟨name, rfl, hf name hv⟩
  case length =>
    rw [forall_mem_pair]
    exact ⟨fun v hv => ⟨hminl v hv, hminLength.isSome_of_given hv⟩,
      fun v hv => ⟨hmaxl v hv, hmaxLength.isSome_of_given hv⟩⟩
  case bound =>
    rw [forall_mem_pair]
    exact ⟨fun v hv => ⟨hmin v hv, hminimum.isSome_of_given hv⟩,
      fun v hv => ⟨hmax v hv, hmaximum.isSome_of_given hv⟩⟩
  case exclusive =>
    rw [forall_mem_pair]
    exact ⟨fun v hv => ⟨hexmin v hv, isSome_truth?.mp (hexclusiveMinimum.isSome_of_given hv)⟩,
      fun v hv => ⟨hexmax v hv, isSome_truth?.mp (hexclusiveMaximum.isSome_of_given hv)⟩⟩
  case enumeration =>
    intro v hv
    obtain ⟨values, hread⟩ := henumeration.of_given hv
    obtain rfl := elements?_eq_some.mp hread
    obtain ⟨hnull, hany, hvalues⟩ := he values hv
    exact ⟨hnull, hany, values, rfl, fun w hw => SimpleType.accepts_iff.mp (hvalues w hw)⟩

/-- Keywords that a type can carry are read. -/
theorem CarriesKeywords.exists_read (h : CarriesKeywords type members) :
    ∃ k, simpleKeywords? members = .ok k := by
  obtain ⟨hpattern, hformat, hlength, hbound, hexclusive, henumeration⟩ := h
  rw [forall_mem_pair] at hlength hbound hexclusive
  obtain ⟨pattern, hpattern⟩ : ∃ o, Reads pattern? (members.get? "pattern") o := by
    refine exists_reads_iff.mpr fun v hv => ?_
    obtain ⟨-, source, rfl, hof⟩ := hpattern v hv
    exact hof
  obtain ⟨format, hformat⟩ : ∃ o, Reads text? (members.get? "format") o := by
    refine exists_reads_iff.mpr fun v hv => ?_
    obtain ⟨name, rfl, -⟩ := hformat v hv
    rfl
  obtain ⟨minLength, hminLength⟩ := exists_reads_iff.mpr fun v hv => (hlength.1 v hv).2
  obtain ⟨maxLength, hmaxLength⟩ := exists_reads_iff.mpr fun v hv => (hlength.2 v hv).2
  obtain ⟨minimum, hminimum⟩ := exists_reads_iff.mpr fun v hv => (hbound.1 v hv).2
  obtain ⟨maximum, hmaximum⟩ := exists_reads_iff.mpr fun v hv => (hbound.2 v hv).2
  obtain ⟨exclusiveMinimum, hexclusiveMinimum⟩ :=
    exists_reads_iff.mpr fun v hv => isSome_truth?.mpr (hexclusive.1 v hv).2
  obtain ⟨exclusiveMaximum, hexclusiveMaximum⟩ :=
    exists_reads_iff.mpr fun v hv => isSome_truth?.mpr (hexclusive.2 v hv).2
  obtain ⟨enumeration, henumeration⟩ : ∃ o, Reads elements? (members.get? "enumeration") o := by
    refine exists_reads_iff.mpr fun v hv => ?_
    obtain ⟨-, -, values, rfl, -⟩ := henumeration v hv
    rfl
  refine ⟨⟨pattern, format, minLength, maxLength, minimum, maximum, exclusiveMinimum,
    exclusiveMaximum, enumeration⟩, ?_⟩
  rw [simpleKeywords?_eq_ok_iff]
  exact ⟨hpattern, hformat, hminLength, hmaxLength, hminimum, hmaximum, hexclusiveMinimum,
    hexclusiveMaximum, henumeration⟩

/-- Keywords that a type can carry are in no conflict with it. -/
theorem CarriesKeywords.conflict?_eq_none (h : CarriesKeywords type members)
    (hk : simpleKeywords? members = .ok k) : k.conflict? type = none := by
  obtain ⟨hpattern, hformat, hlength, hbound, hexclusive, henumeration⟩ := h
  rw [forall_mem_pair] at hlength hbound hexclusive
  rw [conflict?_eq_none_iff_of_read hk]
  refine ⟨fun v hv => (hpattern v hv).1, fun name hname => ?_,
    ⟨fun v hv => (hlength.1 v hv).1, fun v hv => (hlength.2 v hv).1⟩,
    ⟨fun v hv => (hbound.1 v hv).1, fun v hv => (hbound.2 v hv).1,
      fun v hv => (hexclusive.1 v hv).1, fun v hv => (hexclusive.2 v hv).1⟩,
    fun values hvalues => ?_⟩
  · obtain ⟨name', heq, hsuits⟩ := hformat _ hname
    obtain rfl : name = name' := by simpa using heq
    exact hsuits
  · obtain ⟨hnull, hany, values', heq, htyped⟩ := henumeration _ hvalues
    obtain rfl : values = values' := by simpa using heq
    exact ⟨hnull, hany, fun w hw => SimpleType.accepts_iff.mpr (htyped w hw)⟩

/-- A schema of a simple type is read exactly if the type can carry its keywords. -/
theorem exists_simple?_iff {name : String} :
    (∃ n, simple? name members = .ok n) ↔
      ∃ type : SimpleType, type.IsCalled name ∧ CarriesKeywords type members := by
  refine ⟨?_, ?_⟩
  · rintro ⟨n, h⟩
    obtain ⟨type, k, schema, hname, hk, hschema, -⟩ := simple?_eq_ok h
    refine ⟨type, SimpleType.ofName?_eq_some.mp hname, carriesKeywords_of_read hk ?_⟩
    unfold ofKeywords? at hschema
    split at hschema
    · cases hschema
    · assumption
  · rintro ⟨type, hname, h⟩
    obtain ⟨k, hk⟩ := h.exists_read
    obtain ⟨schema, hschema⟩ : ∃ schema, ofKeywords? type k = .ok schema := by
      rw [ofKeywords?, h.conflict?_eq_none hk]
      exact ⟨_, rfl⟩
    refine ⟨.simple schema, ?_⟩
    simp only [simple?, simpleType?, SimpleType.ofName?_eq_some.mpr hname, hk, bind, Except.bind,
      hschema]
    rfl

end

end DraftSchema
