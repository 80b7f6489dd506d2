import DraftSchema.Proofs.Json.RoundTrip
import DraftSchema.Proofs.Satisfaction.Ranges
import DraftSchema.Proofs.Session.Runs

/-!
# `DraftSchema.Proofs.Session.Ranges`: numbers outside of a range

A number outside of the range of its schema is reported, with the end at which it is outside.
What is violated at an end can be told from all other violations of a number by its text. The
theorems:

* `filter_violations`: what a number violates at an end, among all that it violates.
* `ranges_exact`: a number of the right type is reported at an end exactly if it is outside
  there.
* `unexamined_numbers`: numbers that are outside and not reported.
-/

set_option autoImplicit false

namespace DraftSchema

/-- The violation is about a number that is outside of a range at an end. -/
def Violation.TellsOf (x : Violation) (e : RangeEnd) (literal : Json.Number) : Prop :=
  ∃ bound exclusive, x = .atRoot (e.fault literal bound exclusive).message

namespace SimpleSchema

/-- The schema that says otherwise whether a bound at an end is excluded. -/
def excluding (schema : SimpleSchema) (e : RangeEnd) (exclusive : Bool) : SimpleSchema :=
  match e with
  | .lower => { schema with exclusiveMinimum := exclusive }
  | .upper => { schema with exclusiveMaximum := exclusive }

/-- A number is outside of the range at an end. -/
def Outside (schema : SimpleSchema) (e : RangeEnd) (q : ℚ) : Prop :=
  ∃ bound, schema.Passes e q bound

end SimpleSchema

/-! ### What is said -/

namespace RangeEnd

/-- The word for numbers inside the range, seen from an end. -/
def word : RangeEnd → String
  | .lower => "greater"
  | .upper => "less"

/-- What is said at an end starts with the number and goes on with the word for the end. -/
theorem exists_message_fault (e : RangeEnd) (literal : Json.Number) (bound : Decimal)
    (exclusive : Bool) :
    ∃ rest, (e.fault literal bound exclusive).message.toList
      = "Value '".toList ++
          (literal.chars ++ ("' must be ".toList ++ (e.word.toList ++ rest))) := by
  have hparts : ∀ text after : String, ("Value '" ++ literal.text ++ text ++ after).toList
      = "Value '".toList ++ (literal.chars ++ (text.toList ++ after.toList)) := by
    intro text after
    have htext : literal.text.toList = literal.chars := String.toList_ofList
    rw [String.toList_append, String.toList_append, String.toList_append, htext,
      List.append_assoc, List.append_assoc]
  -- The text behind the number starts with the word by computation.
  cases e with
  | lower =>
    cases exclusive with
    | false => exact ⟨_, hparts "' must be greater or equal to " bound.text⟩
    | true =>
      show ∃ rest, ("Value '" ++ literal.text ++ "' must be greater than " ++ bound.text
        ++ " when exclusiveMinimum is true").toList = _
      rw [String.append_assoc]
      exact ⟨_, hparts "' must be greater than " _⟩
  | upper =>
    cases exclusive with
    | false => exact ⟨_, hparts "' must be less than or equal to " bound.text⟩
    | true =>
      show ∃ rest, ("Value '" ++ literal.text ++ "' must be less than " ++ bound.text
        ++ " when exclusiveMaximum is true").toList = _
      rw [String.append_assoc]
      exact ⟨_, hparts "' must be less than " _⟩

end RangeEnd

namespace Violation

variable {x : Violation} {e : RangeEnd} {literal : Json.Number}

/-- How the text of a violation about a range starts. -/
theorem TellsOf.exists_text (h : x.TellsOf e literal) :
    ∃ rest, x.message.toList
      = "Value '".toList ++
          (literal.chars ++ ("' must be ".toList ++ (e.word.toList ++ rest))) := by
  obtain ⟨bound, exclusive, rfl⟩ := h
  exact RangeEnd.exists_message_fault e literal bound exclusive

/-- A violation is about one end. -/
theorem TellsOf.unique {e' : RangeEnd} (h : x.TellsOf e literal) (h' : x.TellsOf e' literal) :
    e = e' := by
  obtain ⟨rest, hx⟩ := h.exists_text
  obtain ⟨rest', hx'⟩ := h'.exists_text
  have hwords : e.word.toList ++ rest = e'.word.toList ++ rest' :=
    List.append_cancel_left (List.append_cancel_left
      (List.append_cancel_left (hx.symm.trans hx')))
  cases e with
  | lower =>
    cases e' with
    | lower => rfl
    | upper =>
      have hfirst : some 'g' = some 'l' := congrArg List.head? hwords
      exact absurd hfirst (by decide)
  | upper =>
    cases e' with
    | upper => rfl
    | lower =>
      have hfirst : some 'l' = some 'g' := congrArg List.head? hwords
      exact absurd hfirst (by decide)

/-- That a value is of another type is not about a range. -/
theorem not_tellsOf_type (name : String) :
    ¬ (atRoot ("Invalid type: must be of type " ++ name)).TellsOf e literal := by
  intro h
  obtain ⟨rest, hx⟩ := h.exists_text
  rw [atRoot, String.toList_append] at hx
  have hfirst : some 'I' = some 'V' := congrArg List.head? hx
  exact absurd hfirst (by decide)

/-- That a number is not of a format is not about a range. -/
theorem not_tellsOf_format (name : String) :
    ¬ (atRoot (SimpleSchema.Fault.format (.number literal) name).message).TellsOf e literal := by
  intro h
  obtain ⟨rest, hx⟩ := h.exists_text
  have htext : (Json.number literal).display.toList = literal.chars := String.toList_ofList
  have hmessage : (SimpleSchema.Fault.format (.number literal) name).message.toList
      = ("Value '" ++ (Json.number literal).display ++ "' is not a valid " ++ name).toList := rfl
  rw [atRoot, hmessage, String.toList_append, String.toList_append, String.toList_append, htext,
    List.append_assoc, List.append_assoc] at hx
  have hbehind := List.append_cancel_left (List.append_cancel_left hx)
  have hthird : some 'i' = some 'm' := congrArg (·[2]?) hbehind
  exact absurd hthird (by decide)

/-- That a number is not listed is not about a range. -/
theorem not_tellsOf_enumeration (allowed : List Json) :
    ¬ (atRoot (SimpleSchema.Fault.enumeration (.number literal) allowed).message).TellsOf e
      literal := by
  intro h
  obtain ⟨rest, hx⟩ := h.exists_text
  have htext : (Json.number literal).compact.toList = literal.chars := String.toList_ofList
  have hmessage : (SimpleSchema.Fault.enumeration (.number literal) allowed).message.toList
      = ("Value " ++ (Json.number literal).compact ++ " must be one of: ["
        ++ String.intercalate ", " (allowed.map Json.compact) ++ "]").toList := rfl
  have hquote : "Value '".toList = "Value ".toList ++ "'".toList := rfl
  rw [atRoot, hmessage, String.toList_append, String.toList_append, String.toList_append,
    String.toList_append, htext, hquote, List.append_assoc, List.append_assoc, List.append_assoc,
    List.append_assoc] at hx
  have hbehind := List.append_cancel_left hx
  -- A quotation mark would be the first character of the literal or of what is behind it.
  rcases hchars : literal.chars with _ | ⟨c, cs⟩
  · rw [hchars] at hbehind
    have hfirst : some ' ' = some (Char.ofNat 39) := congrArg List.head? hbehind
    exact absurd hfirst (by decide)
  · rw [hchars] at hbehind
    have hfirst : some c = some (Char.ofNat 39) := congrArg List.head? hbehind
    have hdigit : ∀ digit : Digit, 40 ≤ digit.toChar.toNat := by decide
    have hmark : ∀ d ∈ ['-', '+', '.', 'e'], 40 ≤ d.toNat := by simp
    have hmem : c ∈ literal.chars := hchars ▸ List.mem_cons_self
    have hle := Json.forall_mem_number hdigit hmark c hmem
    rw [Option.some.inj hfirst] at hle
    exact absurd hle (by decide)

end Violation

/-! ### Schemas -/

namespace SimpleSchema

variable {schema : SimpleSchema} {e : RangeEnd} {literal : Json.Number}

/-- A format is missed by the value that is said to miss it. -/
theorem exists_of_formatFault? {v : Json} {f : Fault} (h : schema.formatFault? v = some f) :
    ∃ name, f = .format v name := by
  unfold formatFault? at h
  split at h
  · split at h
    · cases h
    · exact ⟨_, (Option.some.inj h).symm⟩
  · cases h

/-- What is not listed is the value that is said not to be listed. -/
theorem exists_of_enumerationFault? {v : Json} {f : Fault}
    (h : schema.enumerationFault? v = some f) : ∃ allowed, f = .enumeration v allowed := by
  unfold enumerationFault? at h
  split at h
  · cases h
  · split at h
    · cases h
    · exact ⟨_, (Option.some.inj h).symm⟩

/-- What is found at an end is told of that end. -/
theorem tellsOf_rangeFault {f : Fault} (h : schema.rangeFault? literal e = some f) :
    (Violation.atRoot f.message).TellsOf e literal := by
  obtain ⟨-, b, -, rfl⟩ := rangeFault?_eq_some.mp h
  exact ⟨b, schema.excludes e, rfl⟩

section

open scoped Classical

/-- What is told of an end, among the texts of some faults. -/
noncomputable def toldOf (e : RangeEnd) (literal : Json.Number) (faults : List Fault) :
    List Violation :=
  (faults.map fun f => .atRoot f.message).filter (·.TellsOf e literal)

theorem toldOf_append (fs gs : List Fault) :
    toldOf e literal (fs ++ gs) = toldOf e literal fs ++ toldOf e literal gs := by
  simp [toldOf]

theorem toldOf_eq_nil {found : Option Fault}
    (h : ∀ f, found = some f → ¬ (Violation.atRoot f.message).TellsOf e literal) :
    toldOf e literal found.toList = [] := by
  cases found with
  | none => rfl
  | some f => simp [toldOf, h f rfl]

theorem toldOf_eq_map {found : Option Fault}
    (h : ∀ f, found = some f → (Violation.atRoot f.message).TellsOf e literal) :
    toldOf e literal found.toList = found.toList.map fun f => .atRoot f.message := by
  cases found with
  | none => rfl
  | some f => simp [toldOf, h f rfl]

/-- What a number violates at an end, among all that it violates. -/
theorem filter_violations (h : schema.type.accepts (.number literal) = true) :
    (schema.violations (.number literal)).filter (·.TellsOf e literal)
      = (schema.rangeFault? literal e).toList.map fun f => .atRoot f.message := by
  have hformat : toldOf e literal (schema.formatFault? (.number literal)).toList = [] := by
    refine toldOf_eq_nil fun f hf => ?_
    obtain ⟨name, rfl⟩ := exists_of_formatFault? hf
    exact Violation.not_tellsOf_format name
  have henumeration :
      toldOf e literal (schema.enumerationFault? (.number literal)).toList = [] := by
    refine toldOf_eq_nil fun f hf => ?_
    obtain ⟨allowed, rfl⟩ := exists_of_enumerationFault? hf
    exact Violation.not_tellsOf_enumeration allowed
  have hother : ∀ e' : RangeEnd, e' ≠ e →
      toldOf e literal (schema.rangeFault? literal e').toList = [] := fun e' hne =>
    toldOf_eq_nil fun f hf htells => hne ((tellsOf_rangeFault hf).unique htells)
  have hrange : toldOf e literal (schema.rangeFaults (.number literal))
      = (schema.rangeFault? literal e).toList.map fun f => .atRoot f.message := by
    rw [← toldOf_eq_map fun f => tellsOf_rangeFault, rangeFaults_number, toldOf_append]
    cases e with
    | lower => rw [hother .upper (by simp), List.append_nil]
    | upper => rw [hother .lower (by simp), List.nil_append]
  show List.filter _ (if _ then _ else _) = _
  rw [if_pos h]
  show toldOf e literal ([] ++ (schema.formatFault? (.number literal)).toList
    ++ schema.rangeFaults (.number literal) ++ []
    ++ (schema.enumerationFault? (.number literal)).toList) = _
  simp only [toldOf_append, hformat, henumeration, hrange, List.append_nil, List.nil_append]

/-- A number of another type violates nothing else. -/
theorem violations_of_not_accepts {v : Json} (h : schema.type.accepts v = false) :
    schema.violations v = [.atRoot ("Invalid type: must be of type " ++ schema.type.name)] := by
  rw [violations, h]
  rfl

/-- At most one violation is about an end. -/
theorem length_filter_violations :
    ((schema.violations (.number literal)).filter (·.TellsOf e literal)).length ≤ 1 := by
  rcases htype : schema.type.accepts (.number literal) with _ | _
  · rw [violations_of_not_accepts htype]
    exact List.length_filter_le _ _
  · rw [filter_violations htype, List.length_map]
    cases schema.rangeFault? literal e <;> simp

/-- A violation about an end is of a number that is outside there and has a scale in range. -/
theorem exists_passes_of_tellsOf {x : Violation} (hx : x ∈ schema.violations (.number literal))
    (h : x.TellsOf e literal) :
    Decimal.scaleInRange literal.scale = true ∧ schema.Outside e literal.value := by
  rcases htype : schema.type.accepts (.number literal) with _ | _
  · rw [violations_of_not_accepts htype, List.mem_singleton] at hx
    subst hx
    exact absurd h (Violation.not_tellsOf_type schema.type.name)
  · have hmem : x ∈ (schema.violations (.number literal)).filter (·.TellsOf e literal) :=
      List.mem_filter.mpr ⟨hx, decide_eq_true h⟩
    rw [filter_violations htype, List.mem_map] at hmem
    obtain ⟨f, hf, -⟩ := hmem
    obtain ⟨hscale, bound, hpasses, -⟩ := rangeFault?_eq_some.mp (Option.mem_toList.mp hf)
    exact ⟨hscale, bound, hpasses⟩

/-- A number that is outside at an end is reported, if it is of the type and a decimal. -/
theorem mem_violations_of_passes (htype : schema.type.accepts (.number literal) = true)
    (hscale : Decimal.scaleInRange literal.scale = true) {bound : Decimal}
    (h : schema.Passes e literal.value bound) :
    .atRoot (e.fault literal bound (schema.excludes e)).message
      ∈ schema.violations (.number literal) := by
  have hfound : schema.rangeFault? literal e = some (e.fault literal bound (schema.excludes e)) :=
    rangeFault?_eq_some.mpr ⟨hscale, bound, h, rfl⟩
  have hmem : .atRoot (e.fault literal bound (schema.excludes e)).message
      ∈ (schema.violations (.number literal)).filter (·.TellsOf e literal) := by
    rw [filter_violations htype, hfound]
    exact List.mem_singleton.mpr rfl
  exact List.mem_of_mem_filter hmem

/-- Whether a bound is excluded does not matter at an end where there is none. -/
theorem endFault?_excluding (h : schema.bound e = none) (exclusive : Bool) (e' : RangeEnd)
    (d : Decimal) :
    (schema.excluding e exclusive).endFault? e' literal d = schema.endFault? e' literal d := by
  cases e with
  | lower =>
    cases e' with
    | lower =>
      have hminimum : schema.minimum = none := h
      simp only [endFault?, minimumFault?, excluding, hminimum]
    | upper => rfl
  | upper =>
    cases e' with
    | lower => rfl
    | upper =>
      have hmaximum : schema.maximum = none := h
      simp only [endFault?, maximumFault?, excluding, hmaximum]

/-- Whether a bound is excluded does not matter to any value where there is none. -/
theorem violations_excluding (h : schema.bound e = none) (exclusive : Bool) (v : Json) :
    (schema.excluding e exclusive).violations v = schema.violations v := by
  have hrange : (schema.excluding e exclusive).rangeFaults v = schema.rangeFaults v := by
    cases v with
    | number literal =>
      have hends : ∀ e', (schema.excluding e exclusive).rangeFault? literal e'
          = schema.rangeFault? literal e' := by
        intro e'
        unfold rangeFault?
        exact congrArg _ (funext fun d => endFault?_excluding h exclusive e' d)
      rw [rangeFaults_number, rangeFaults_number, hends, hends]
    | _ => rfl
  have hfaults : (schema.excluding e exclusive).faults v = schema.faults v := by
    unfold faults
    rw [hrange]
    cases e <;> rfl
  unfold violations
  rw [hfaults]
  cases e <;> rfl

end

end SimpleSchema

/-- The scale of an integer is in range. -/
theorem Json.Number.scaleInRange_of_isInteger {n : Json.Number} (h : n.isInteger = true) :
    Decimal.scaleInRange n.scale = true := by
  rw [Json.Number.isInteger, Bool.and_eq_true, List.isEmpty_iff, Option.isNone_iff_eq_none] at h
  obtain ⟨hfraction, hexponent⟩ := h
  rw [Json.Number.scale, hfraction, hexponent]
  rfl

namespace Session

/-- A simple schema is checked without looking at the session. -/
theorem run_validate_simple (source : Source) (s : Session) (schema : SimpleSchema) (v : Json) :
    (validate source (.simple schema) v).run s = (schema.violations v, s) := by
  have hpure : ∀ (r : Resolver (StateM Session)) (hops : Nat),
      r.validate hops (.simple schema) v = pure (schema.violations v) := by
    intro r hops
    rw [Resolver.validate]
  unfold validate
  simp only [hpure]
  rfl

open scoped Classical in
/-- Let a number be checked in any session against a schema of numbers, which may have a bound
at each end of a range and may exclude it. At most one violation is about an end, and then the
number that the literal spells is outside there: beyond the bound, or at the bound where that
is excluded. Every number that is outside is reported with the bound, if it is of the right
type, which for integers are the literals without point and exponent, and has a scale of a
signed 64-bit word, which all integers have. Whether a bound is excluded does not matter where
there is none. -/
theorem ranges_exact (source : Source) (s : Session) (schema : SimpleSchema)
    (literal : Json.Number) (e : RangeEnd) :
    let report := ((validate source (.simple schema) (.number literal)).run s).1
    (report.filter (·.TellsOf e literal)).length ≤ 1 ∧
    ((∃ x ∈ report, x.TellsOf e literal) → schema.Outside e literal.value) ∧
    (schema.type = .integer ∧ literal.isInteger ∨
        schema.type = .number ∧ Decimal.scaleInRange literal.scale →
      ∀ bound, schema.Passes e literal.value bound →
        .atRoot (e.fault literal bound (schema.excludes e)).message ∈ report) ∧
    (schema.type = .integer → literal.isInteger = false →
      report = [⟨"", "Invalid type: must be of type integer"⟩]) ∧
    (schema.bound e = none → ∀ exclusive v,
      (validate source (.simple (schema.excluding e exclusive)) v).run s
        = (validate source (.simple schema) v).run s) := by
  intro report
  have hreport : report = schema.violations (.number literal) :=
    congrArg Prod.fst (run_validate_simple source s schema (.number literal))
  rw [hreport]
  refine ⟨SimpleSchema.length_filter_violations, ?_, ?_, ?_, ?_⟩
  · rintro ⟨x, hx, htells⟩
    exact (SimpleSchema.exists_passes_of_tellsOf hx htells).2
  · intro hexamined bound hpasses
    rcases hexamined with ⟨htype, hinteger⟩ | ⟨htype, hscale⟩
    · exact SimpleSchema.mem_violations_of_passes (by rw [htype]; exact hinteger)
        (Json.Number.scaleInRange_of_isInteger hinteger) hpasses
    · exact SimpleSchema.mem_violations_of_passes (by rw [htype]; rfl) hscale hpasses
  · intro htype hliteral
    rw [SimpleSchema.violations_of_not_accepts (by rw [htype]; exact hliteral), htype]
    rfl
  · intro hbound exclusive v
    rw [run_validate_simple, run_validate_simple, SimpleSchema.violations_excluding hbound]

/-- Numbers below a minimum and above a maximum that are not reported there: one and a half is
no integer and is reported for that alone, and a power of ten with an exponent of twenty nines
is not compared with the bound. -/
theorem unexamined_numbers :
    let integers : SimpleSchema := { SimpleSchema.ofType .integer with minimum := some ⟨10, 0⟩ }
    let oneAndHalf : Json.Number := ⟨false, [1], [5], none⟩
    let numbers : SimpleSchema := { SimpleSchema.ofType .number with maximum := some ⟨5, 0⟩ }
    let immense : Json.Number := ⟨false, [1], [], some ⟨false, List.replicate 20 9⟩⟩
    (integers.Outside .lower oneAndHalf.value ∧
      ¬ ∃ x ∈ ((validate LinkedList.source (.simple integers) (.number oneAndHalf)).run start).1,
        x.TellsOf .lower oneAndHalf) ∧
    (numbers.Outside .upper immense.value ∧
      ¬ ∃ x ∈ ((validate LinkedList.source (.simple numbers) (.number immense)).run start).1,
        x.TellsOf .upper immense) := by
  intro integers oneAndHalf numbers immense
  refine ⟨⟨⟨⟨10, 0⟩, rfl, .inl ?_⟩, ?_⟩, ⟨⟨⟨5, 0⟩, rfl, .inl ?_⟩, ?_⟩⟩
  · show oneAndHalf.value < Decimal.value ⟨10, 0⟩
    norm_num [oneAndHalf, Json.Number.value, Decimal.value, Digit.value, Digit.valueFrom]
  · rw [run_validate_simple, SimpleSchema.violations_of_not_accepts rfl]
    rintro ⟨x, hx, htells⟩
    rw [List.mem_singleton.mp hx] at htells
    exact Violation.not_tellsOf_type _ htells
  · show Decimal.value ⟨5, 0⟩ < immense.value
    have hfive : Decimal.value ⟨5, 0⟩ = 5 := by norm_num [Decimal.value]
    have hpower : immense.value = 10 ^ (Digit.value (List.replicate 20 9) : Int) := by
      show (1 : ℚ) * (1 + 0 / 10 ^ 0) * 10 ^ (Digit.value (List.replicate 20 9) : Int) = _
      ring
    have hone : (1 : Int) ≤ Digit.value (List.replicate 20 9) := by decide
    rw [hfive, hpower]
    calc (5 : ℚ) < 10 ^ (1 : Int) := by norm_num
      _ ≤ 10 ^ (Digit.value (List.replicate 20 9) : Int) :=
        zpow_le_zpow_right₀ (by norm_num) hone
  · have hscale : Decimal.scaleInRange immense.scale = false := by decide
    rw [run_validate_simple]
    rintro ⟨x, hx, htells⟩
    have hmem : x ∈ numbers.violations (.number immense) := hx
    rw [(SimpleSchema.exists_passes_of_tellsOf hmem htells).1] at hscale
    cases hscale

end Session
end DraftSchema
