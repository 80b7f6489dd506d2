import DraftSchema.Proofs.Satisfaction

/-!
# `DraftSchema.Proofs.Satisfaction.Keywords`: how keywords are read

A keyword that is not given is read as nothing, one that is given as what its value can be
read as, and one whose value cannot be read so is refused (`Node.Reads`). The theorems:

* `exists_reads_iff` and `Reads.of_given`: what reading a keyword comes to, whatever its values.
* `stringKeyword?_eq_ok_iff` and so on: each function that reads a keyword does this.
* `simpleKeywords?_eq_ok_iff`: so do the keywords of a simple schema, each from the member of
  its name.
-/

set_option autoImplicit false

namespace DraftSchema

namespace Node

variable {α : Type} {read : Json → Option α} {value : Option Json} {members : Json.Members}
  {name : String}

/-! ### Keywords of any kind -/

/-- A keyword that is not given is read as nothing, and another one as what its value is
read as. -/
inductive Reads (read : Json → Option α) : Option Json → Option α → Prop where
  | absent : Reads read none none
  | given {v : Json} {a : α} (h : read v = some a) : Reads read (some v) (some a)

/-- A keyword is read if its value is. -/
theorem exists_reads_iff :
    (∃ o, Reads read value o) ↔ ∀ v, value = some v → (read v).isSome := by
  refine ⟨?_, fun h => ?_⟩
  · rintro ⟨o, ho⟩ v rfl
    cases ho with
    | given h => rw [h]; rfl
  · cases value with
    | none => exact ⟨none, .absent⟩
    | some v =>
      obtain ⟨a, ha⟩ := Option.isSome_iff_exists.mp (h v rfl)
      exact ⟨some a, .given ha⟩

/-- The value of a keyword that is given is read. -/
theorem Reads.of_given {o : Option α} {v : Json} (h : Reads read value o) (hv : value = some v) :
    ∃ a, read v = some a := by
  subst hv
  cases h with
  | given h => exact ⟨_, h⟩

theorem Reads.isSome_of_given {o : Option α} {v : Json} (h : Reads read value o)
    (hv : value = some v) : (read v).isSome :=
  Option.isSome_iff_exists.mpr (h.of_given hv)

/-- What is asked for where something is read is asked for where the keyword is given. -/
theorem Reads.isSome_imp_iff {o : Option α} {P : Prop} (h : Reads read value o) :
    (o.isSome → P) ↔ ∀ v, value = some v → P := by
  cases h <;> simp

@[simp] theorem reads_none {o : Option α} : Reads read none o ↔ none = o := by
  refine ⟨fun h => ?_, fun h => h ▸ .absent⟩
  cases h
  rfl

@[simp] theorem reads_some {v : Json} {o : Option α} :
    Reads read (some v) o ↔ ∃ a, read v = some a ∧ some a = o := by
  refine ⟨fun h => ?_, ?_⟩
  · cases h with
    | given h => exact ⟨_, h, rfl⟩
  · rintro ⟨a, ha, rfl⟩
    exact .given ha

/-- The keyword is read as its value is, if there is one. -/
theorem Reads.bind_eq {o : Option α} (h : Reads read value o) : value.bind read = o := by
  cases h with
  | absent => rfl
  | given h => exact h

/-- Where there is one value for each result, the result tells the value. -/
theorem Reads.eq_some_iff {o : Option α} {f : α → Json} (h : Reads read value o)
    (hread : ∀ {v a}, read v = some a ↔ v = f a) (a : α) : value = some (f a) ↔ o = some a := by
  rw [← h.bind_eq]
  simp [Option.bind_eq_some_iff, hread]

/-! ### Kinds of keywords -/

/-- The text that a value is. -/
def text? : Json → Option String
  | .string s => some s
  | _ => none

/-- The truth value that a value is. -/
def truth? : Json → Option Bool
  | .bool b => some b
  | _ => none

/-- The elements that a value is. -/
def elements? : Json → Option (List Json)
  | .array values => some values
  | _ => none

/-- The pattern that a value spells. -/
def pattern? (v : Json) : Option Pattern := (text? v).bind Pattern.ofSource?

theorem text?_eq_some {v : Json} {s : String} : text? v = some s ↔ v = .string s := by
  cases v <;> simp [text?]

theorem truth?_eq_some {v : Json} {b : Bool} : truth? v = some b ↔ v = .bool b := by
  cases v <;> simp [truth?]

theorem isSome_truth? {v : Json} : (truth? v).isSome ↔ ∃ b, v = .bool b := by
  simp only [Option.isSome_iff_exists, truth?_eq_some]

theorem elements?_eq_some {v : Json} {values : List Json} :
    elements? v = some values ↔ v = .array values := by
  cases v <;> simp [elements?]

theorem stringKeyword?_eq_ok_iff {o : Option String} :
    stringKeyword? members name = .ok o ↔ Reads text? (members.get? name) o := by
  unfold stringKeyword?
  rcases members.get? name with _ | v
  · simp
  · cases v <;> simp [text?]

theorem boolKeyword?_eq_ok_iff {o : Option Bool} :
    boolKeyword? members name = .ok o ↔ Reads truth? (members.get? name) o := by
  unfold boolKeyword?
  rcases members.get? name with _ | v
  · simp
  · cases v <;> simp [truth?]

theorem listKeyword?_eq_ok_iff {o : Option (List Json)} :
    listKeyword? members name = .ok o ↔ Reads elements? (members.get? name) o := by
  unfold listKeyword?
  rcases members.get? name with _ | v
  · simp
  · cases v <;> simp [elements?]

theorem countKeyword?_eq_ok_iff {o : Option Nat} :
    countKeyword? members name = .ok o ↔ Reads count? (members.get? name) o := by
  unfold countKeyword?
  rcases members.get? name with _ | v
  · simp
  · rcases hcount : count? v with _ | n <;> simp [hcount]

theorem decimalKeyword?_eq_ok_iff {o : Option Decimal} :
    decimalKeyword? members name = .ok o ↔ Reads Json.decimal? (members.get? name) o := by
  unfold decimalKeyword?
  rcases members.get? name with _ | v
  · simp
  · cases v with
    | number literal =>
      rcases hd : Decimal.ofNumber? literal with _ | d <;> simp [Json.decimal?, hd]
    | _ => simp [Json.decimal?]

theorem patternKeyword?_eq_ok_iff {o : Option Pattern} :
    patternKeyword? members = .ok o ↔ Reads pattern? (members.get? "pattern") o := by
  unfold patternKeyword? stringKeyword?
  rcases members.get? "pattern" with _ | v
  · simp [bind, Except.bind]
  · cases v with
    | string source =>
      rcases hp : Pattern.ofSource? source with _ | p <;>
        simp [pattern?, text?, bind, Except.bind, hp]
    | _ => simp [pattern?, text?, bind, Except.bind]

/-! ### What was read -/

theorem stringKeyword?_eq_ok {o : Option String} (h : stringKeyword? members name = .ok o)
    (text : String) : members.get? name = some (.string text) ↔ o = some text :=
  (stringKeyword?_eq_ok_iff.mp h).eq_some_iff text?_eq_some text

theorem boolKeyword?_eq_ok {o : Option Bool} (h : boolKeyword? members name = .ok o) (b : Bool) :
    members.get? name = some (.bool b) ↔ o = some b :=
  (boolKeyword?_eq_ok_iff.mp h).eq_some_iff truth?_eq_some b

theorem listKeyword?_eq_ok {o : Option (List Json)} (h : listKeyword? members name = .ok o)
    (values : List Json) : members.get? name = some (.array values) ↔ o = some values :=
  (listKeyword?_eq_ok_iff.mp h).eq_some_iff elements?_eq_some values

theorem countKeyword?_eq_ok {o : Option Nat} (h : countKeyword? members name = .ok o) :
    (members.get? name).bind count? = o :=
  (countKeyword?_eq_ok_iff.mp h).bind_eq

theorem decimalKeyword?_eq_ok {o : Option Decimal} (h : decimalKeyword? members name = .ok o) :
    (members.get? name).bind Json.decimal? = o :=
  (decimalKeyword?_eq_ok_iff.mp h).bind_eq

theorem patternKeyword?_eq_ok {o : Option Pattern} (h : patternKeyword? members = .ok o)
    (p : Pattern) :
    (∃ source, members.get? "pattern" = some (.string source) ∧
      Pattern.ofSource? source = some p) ↔ o = some p := by
  rw [← (patternKeyword?_eq_ok_iff.mp h).bind_eq]
  simp only [Option.bind_eq_some_iff, pattern?, text?_eq_some]
  constructor
  · rintro ⟨source, hsource, hof⟩
    exact ⟨_, hsource, source, rfl, hof⟩
  · rintro ⟨v, hv, source, rfl, hof⟩
    exact ⟨source, hv, hof⟩

/-! ### Simple schemas -/

/-- A result that comes of another one. -/
theorem exists_of_bind_eq_ok {ε α β : Type} {x : Except ε α} {f : α → Except ε β} {b : β}
    (h : x >>= f = .ok b) : ∃ a, x = .ok a ∧ f a = .ok b := by
  rcases x with e | a
  · simp [bind, Except.bind] at h
  · exact ⟨a, rfl, h⟩

/-- Each keyword was read from the member of its name. -/
theorem simpleKeywords?_eq_ok {k : SimpleSchema.Keywords} (h : simpleKeywords? members = .ok k) :
    patternKeyword? members = .ok k.pattern ∧ stringKeyword? members "format" = .ok k.format ∧
      countKeyword? members "minLength" = .ok k.minLength ∧
      countKeyword? members "maxLength" = .ok k.maxLength ∧
      decimalKeyword? members "minimum" = .ok k.minimum ∧
      decimalKeyword? members "maximum" = .ok k.maximum ∧
      boolKeyword? members "exclusiveMinimum" = .ok k.exclusiveMinimum ∧
      boolKeyword? members "exclusiveMaximum" = .ok k.exclusiveMaximum ∧
      listKeyword? members "enumeration" = .ok k.enumeration := by
  unfold simpleKeywords? at h
  obtain ⟨pattern, hpattern, h⟩ := exists_of_bind_eq_ok h
  obtain ⟨format, hformat, h⟩ := exists_of_bind_eq_ok h
  obtain ⟨minLength, hminLength, h⟩ := exists_of_bind_eq_ok h
  obtain ⟨maxLength, hmaxLength, h⟩ := exists_of_bind_eq_ok h
  obtain ⟨minimum, hminimum, h⟩ := exists_of_bind_eq_ok h
  obtain ⟨maximum, hmaximum, h⟩ := exists_of_bind_eq_ok h
  obtain ⟨exclusiveMinimum, hexclusiveMinimum, h⟩ := exists_of_bind_eq_ok h
  obtain ⟨exclusiveMaximum, hexclusiveMaximum, h⟩ := exists_of_bind_eq_ok h
  obtain ⟨enumeration, henumeration, h⟩ := exists_of_bind_eq_ok h
  cases h
  exact ⟨hpattern, hformat, hminLength, hmaxLength, hminimum, hmaximum, hexclusiveMinimum,
    hexclusiveMaximum, henumeration⟩

/-- The keywords of a simple schema are read if each of them is. -/
theorem simpleKeywords?_eq_ok_iff {k : SimpleSchema.Keywords} :
    simpleKeywords? members = .ok k ↔
      Reads pattern? (members.get? "pattern") k.pattern ∧
      Reads text? (members.get? "format") k.format ∧
      Reads count? (members.get? "minLength") k.minLength ∧
      Reads count? (members.get? "maxLength") k.maxLength ∧
      Reads Json.decimal? (members.get? "minimum") k.minimum ∧
      Reads Json.decimal? (members.get? "maximum") k.maximum ∧
      Reads truth? (members.get? "exclusiveMinimum") k.exclusiveMinimum ∧
      Reads truth? (members.get? "exclusiveMaximum") k.exclusiveMaximum ∧
      Reads elements? (members.get? "enumeration") k.enumeration := by
  simp only [← patternKeyword?_eq_ok_iff, ← stringKeyword?_eq_ok_iff, ← countKeyword?_eq_ok_iff,
    ← decimalKeyword?_eq_ok_iff, ← boolKeyword?_eq_ok_iff, ← listKeyword?_eq_ok_iff]
  refine ⟨simpleKeywords?_eq_ok, ?_⟩
  rintro ⟨hpattern, hformat, hminLength, hmaxLength, hminimum, hmaximum, hexclusiveMinimum,
    hexclusiveMaximum, henumeration⟩
  simp only [simpleKeywords?, hpattern, hformat, hminLength, hmaxLength, hminimum, hmaximum,
    hexclusiveMinimum, hexclusiveMaximum, henumeration]
  rfl

end Node
end DraftSchema
