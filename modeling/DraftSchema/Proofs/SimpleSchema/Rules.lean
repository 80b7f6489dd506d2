import DraftSchema.Proofs.Language.Keywords
import DraftSchema.Proofs.SimpleSchema.Settings

/-!
# `DraftSchema.Proofs.SimpleSchema.Rules`: which keywords a simple type can carry

What a simple type can carry is said of the keywords as they are given (`Carries`), and so is
why one of them is refused (`Refuses`). The theorems:

* `conflict?_eq_findSome?`: the keywords are looked at in a fixed order, whatever the order in
  which they were given.
* `refusal?_eq_some_iff` and `conflict?_eq_some_iff`: each is refused for its own reasons, and
  the first one that is refused is what is wrong.
* `carries_iff`: nothing is wrong if the type can carry the keywords.
-/

set_option autoImplicit false

namespace DraftSchema.SimpleSchema

/-! ### The rules -/

/-- A type can carry the keywords: those of strings are given for strings only and those of
numbers for numbers only, whatever their values, and the last format and the last list of values
suit the type. -/
structure Carries (type : SimpleType) (settings : List Setting) : Prop where
  ofStrings : ∀ keyword ∈ [Keyword.pattern, .minLength, .maxLength],
    Given keyword settings → type = .string
  ofNumbers : ∀ keyword ∈ [Keyword.minimum, .maximum, .exclusiveMinimum, .exclusiveMaximum],
    Given keyword settings → type = .number ∨ type = .integer
  /-- A name that stands for no format suits every type. -/
  format : ∀ name, LastGiven .format settings (some name) →
    ∀ f, Format.ofName? name = some f → f.suits type
  enumeration : ∀ values, LastGiven .enumeration settings (some values) →
    type ∈ [SimpleType.string, .number, .integer, .boolean] ∧ ∀ v ∈ values, OfType type v

/-- A keyword is refused for a type. -/
inductive Refuses (type : SimpleType) (settings : List Setting) : Keyword → Conflict → Prop where
  | pattern (hgiven : Given .pattern settings) (htype : type ≠ .string) :
      Refuses type settings .pattern .patternOnOtherType
  | format {name : String} {f : Format} (hlast : LastGiven .format settings (some name))
      (hname : Format.ofName? name = some f) (hsuits : ¬ f.suits type) :
      Refuses type settings .format (.formatOnOtherType f type)
  | minLength (hgiven : Given .minLength settings) (htype : type ≠ .string) :
      Refuses type settings .minLength (.lengthOnOtherType "minLength")
  | maxLength (hgiven : Given .maxLength settings) (htype : type ≠ .string) :
      Refuses type settings .maxLength (.lengthOnOtherType "maxLength")
  | minimum (hgiven : Given .minimum settings) (htype : type ≠ .number ∧ type ≠ .integer) :
      Refuses type settings .minimum (.rangeOnOtherType "minimum")
  | maximum (hgiven : Given .maximum settings) (htype : type ≠ .number ∧ type ≠ .integer) :
      Refuses type settings .maximum (.rangeOnOtherType "maximum")
  | exclusiveMinimum (hgiven : Given .exclusiveMinimum settings)
      (htype : type ≠ .number ∧ type ≠ .integer) :
      Refuses type settings .exclusiveMinimum (.rangeOnOtherType "exclusiveMinimum")
  | exclusiveMaximum (hgiven : Given .exclusiveMaximum settings)
      (htype : type ≠ .number ∧ type ≠ .integer) :
      Refuses type settings .exclusiveMaximum (.rangeOnOtherType "exclusiveMaximum")
  | enumeration (hgiven : Given .enumeration settings) (htype : type = .null ∨ type = .any) :
      Refuses type settings .enumeration .enumerationNotAllowed
  /-- The first value in the list that is not of the type. -/
  | value {before after : List Json} {v : Json}
      (hlast : LastGiven .enumeration settings (some (before ++ v :: after)))
      (htype : type ≠ .null ∧ type ≠ .any) (hbefore : ∀ w ∈ before, OfType type w)
      (hv : ¬ OfType type v) : Refuses type settings .enumeration (.enumeratedOtherType type v)

/-- The keywords in the order in which they are looked at. -/
def Keyword.all : List Keyword :=
  [.pattern, .format, .minLength, .maxLength, .minimum, .maximum, .exclusiveMinimum,
    .exclusiveMaximum, .enumeration]

theorem Keyword.mem_all (keyword : Keyword) : keyword ∈ all := by cases keyword <;> decide

/-- The first keyword that is refused, in the order in which they are looked at. -/
def FirstRefused (type : SimpleType) (settings : List Setting) (c : Conflict) : Prop :=
  ∃ before keyword after, Keyword.all = before ++ keyword :: after ∧
    Refuses type settings keyword c ∧ ∀ earlier ∈ before, ∀ d, ¬ Refuses type settings earlier d

variable {type : SimpleType} {settings : List Setting} {k : Keywords} {c : Conflict}
  {keyword : Keyword}

/-! ### The order -/

namespace Keywords

/-- A keyword of strings in conflict with a type. -/
def ofStrings? (type : SimpleType) (given : Bool) (name : String) : Option Conflict :=
  if given ∧ type ≠ .string then some (.lengthOnOtherType name) else none

/-- A keyword of numbers in conflict with a type. -/
def ofNumbers? (type : SimpleType) (given : Bool) (name : String) : Option Conflict :=
  if given ∧ !type.isNumeric then some (.rangeOnOtherType name) else none

/-- The conflict of one keyword with a type. -/
def refusal? (k : Keywords) (type : SimpleType) : Keyword → Option Conflict
  | .pattern => k.patternConflict? type
  | .format => k.formatConflict? type
  | .minLength => ofStrings? type k.minLength.isSome "minLength"
  | .maxLength => ofStrings? type k.maxLength.isSome "maxLength"
  | .minimum => ofNumbers? type k.minimum.isSome "minimum"
  | .maximum => ofNumbers? type k.maximum.isSome "maximum"
  | .exclusiveMinimum => ofNumbers? type k.exclusiveMinimum.isSome "exclusiveMinimum"
  | .exclusiveMaximum => ofNumbers? type k.exclusiveMaximum.isSome "exclusiveMaximum"
  | .enumeration => k.enumerationConflict? type

theorem ofStrings?_eq_some_iff {given : Bool} {name : String} :
    ofStrings? type given name = some c ↔
      given ∧ type ≠ .string ∧ c = .lengthOnOtherType name := by
  unfold ofStrings?
  split
  · rename_i h
    simp [h, eq_comm]
  · rename_i h
    simp only [reduceCtorEq, false_iff]
    exact fun ⟨hgiven, htype, _⟩ => h ⟨hgiven, htype⟩

theorem ofNumbers?_eq_some_iff {given : Bool} {name : String} :
    ofNumbers? type given name = some c ↔
      given ∧ (type ≠ .number ∧ type ≠ .integer) ∧ c = .rangeOnOtherType name := by
  have htype : (!type.isNumeric) = true ↔ type ≠ .number ∧ type ≠ .integer := by
    cases type <;> simp [SimpleType.isNumeric]
  unfold ofNumbers?
  simp only [htype]
  split
  · rename_i h
    simp [h, eq_comm]
  · rename_i h
    simp only [reduceCtorEq, false_iff]
    exact fun ⟨hgiven, htype, _⟩ => h ⟨hgiven, htype⟩

/-- The first keyword that is given is the first one for which something is found. -/
theorem map_firstGiven (f : String → Conflict) (keywords : List (String × Bool)) :
    (firstGiven keywords).map f
      = keywords.findSome? fun entry => if entry.2 then some (f entry.1) else none := by
  induction keywords with
  | nil => rfl
  | cons entry rest ih =>
    obtain ⟨name, given⟩ := entry
    cases given with
    | true => rfl
    | false =>
      rw [List.findSome?_cons]
      simpa [firstGiven] using ih

/-- The keywords are looked at one after the other. -/
theorem conflict?_eq_findSome? : k.conflict? type = Keyword.all.findSome? (k.refusal? type) := by
  have hlength : k.lengthConflict? type
      = [Keyword.minLength, .maxLength].findSome? (k.refusal? type) := by
    by_cases htype : type = .string <;>
      simp [lengthConflict?, refusal?, ofStrings?, htype, map_firstGiven, List.findSome?]
  have hrange : k.rangeConflict? type
      = [Keyword.minimum, .maximum, .exclusiveMinimum, .exclusiveMaximum].findSome?
        (k.refusal? type) := by
    cases htype : type.isNumeric <;>
      simp [rangeConflict?, refusal?, ofNumbers?, htype, map_firstGiven, List.findSome?]
  have hall : Keyword.all = [.pattern] ++ ([.format] ++ ([.minLength, .maxLength]
      ++ ([.minimum, .maximum, .exclusiveMinimum, .exclusiveMaximum] ++ [.enumeration]))) := rfl
  rw [conflict?, hlength, hrange, hall, List.findSome?_append, List.findSome?_append,
    List.findSome?_append, List.findSome?_append, List.findSome?_singleton,
    List.findSome?_singleton, List.findSome?_singleton]
  simp only [Option.orElse_eq_orElse, Option.orElse_eq_or, refusal?]

end Keywords

/-! ### Reasons -/

namespace LastValues

theorem patternConflict?_eq_some_iff (h : LastValues settings k) :
    k.patternConflict? type = some c ↔ Refuses type settings .pattern c := by
  have hgiven := h.pattern.given_iff gives_pattern
  unfold Keywords.patternConflict?
  refine ⟨fun hc => ?_, fun hc => ?_⟩
  · split at hc
    · rename_i hif
      cases hc
      simp only [Bool.and_eq_true, decide_eq_true_eq] at hif
      exact .pattern (hgiven.mpr hif.1) hif.2
    · cases hc
  · cases hc with
    | pattern hg htype => simp [hgiven.mp hg, htype]

theorem formatConflict?_eq_some_iff (h : LastValues settings k) :
    k.formatConflict? type = some c ↔ Refuses type settings .format c := by
  unfold Keywords.formatConflict?
  refine ⟨fun hc => ?_, fun hc => ?_⟩
  · split at hc
    · rename_i f hf
      obtain ⟨name, hformat, hname⟩ := Option.bind_eq_some_iff.mp hf
      split at hc
      · cases hc
      · rename_i hsuits
        cases hc
        exact .format (hformat ▸ h.format) hname hsuits
    · cases hc
  · cases hc with
    | @format name f hlast hname hsuits =>
      have hformat : k.format = some name := h.format.unique (fun _ _ => Setting.format.inj) hlast
      simp [hformat, hname, hsuits]

theorem enumerationConflict?_eq_some_iff (h : LastValues settings k) :
    k.enumerationConflict? type = some c ↔ Refuses type settings .enumeration c := by
  have hgiven := h.enumeration.given_iff gives_enumeration
  have hlast := h.enumeration
  unfold Keywords.enumerationConflict?
  refine ⟨fun hc => ?_, fun hc => ?_⟩
  · split at hc
    · cases hc
    · rename_i values hvalues
      rw [hvalues] at hgiven hlast
      split at hc
      · rename_i htype
        cases hc
        exact .enumeration (hgiven.mpr rfl) (by simpa using htype)
      · rename_i htype
        obtain ⟨v, hv, rfl⟩ := Option.map_eq_some_iff.mp hc
        obtain ⟨hwrong, before, after, rfl, hbefore⟩ := List.find?_eq_some_iff_append.mp hv
        refine .value hlast (by simpa using htype) (fun w hw => ?_) fun hof => ?_
        · exact SimpleType.accepts_iff.mp (by simpa using hbefore w hw)
        · simp [SimpleType.accepts_iff.mpr hof] at hwrong
  · cases hc with
    | enumeration hg htype =>
      obtain ⟨values, hvalues⟩ := Option.isSome_iff_exists.mp (hgiven.mp hg)
      rw [hvalues]
      simp [htype]
    | @value before after v hl htype hbefore hv =>
      rw [h.enumeration.unique (fun _ _ => Setting.enumeration.inj) hl]
      have hfind : (before ++ v :: after).find? (!type.accepts ·) = some v := by
        refine List.find?_eq_some_iff_append.mpr ⟨?_, before, after, rfl, fun w hw => ?_⟩
        · simpa using mt SimpleType.accepts_iff.mp hv
        · simpa using SimpleType.accepts_iff.mpr (hbefore w hw)
      simp [htype, hfind]

/-- Each keyword is refused for its own reasons. -/
theorem refusal?_eq_some_iff (h : LastValues settings k) :
    k.refusal? type keyword = some c ↔ Refuses type settings keyword c := by
  cases keyword with
  | pattern => exact h.patternConflict?_eq_some_iff
  | format => exact h.formatConflict?_eq_some_iff
  | enumeration => exact h.enumerationConflict?_eq_some_iff
  | minLength =>
    rw [Keywords.refusal?, Keywords.ofStrings?_eq_some_iff,
      ← h.minLength.given_iff gives_minLength]
    exact ⟨fun ⟨hg, ht, hc⟩ => hc ▸ .minLength hg ht, fun | .minLength hg ht => ⟨hg, ht, rfl⟩⟩
  | maxLength =>
    rw [Keywords.refusal?, Keywords.ofStrings?_eq_some_iff,
      ← h.maxLength.given_iff gives_maxLength]
    exact ⟨fun ⟨hg, ht, hc⟩ => hc ▸ .maxLength hg ht, fun | .maxLength hg ht => ⟨hg, ht, rfl⟩⟩
  | minimum =>
    rw [Keywords.refusal?, Keywords.ofNumbers?_eq_some_iff, ← h.minimum.given_iff gives_minimum]
    exact ⟨fun ⟨hg, ht, hc⟩ => hc ▸ .minimum hg ht, fun | .minimum hg ht => ⟨hg, ht, rfl⟩⟩
  | maximum =>
    rw [Keywords.refusal?, Keywords.ofNumbers?_eq_some_iff, ← h.maximum.given_iff gives_maximum]
    exact ⟨fun ⟨hg, ht, hc⟩ => hc ▸ .maximum hg ht, fun | .maximum hg ht => ⟨hg, ht, rfl⟩⟩
  | exclusiveMinimum =>
    rw [Keywords.refusal?, Keywords.ofNumbers?_eq_some_iff,
      ← h.exclusiveMinimum.given_iff gives_exclusiveMinimum]
    exact ⟨fun ⟨hg, ht, hc⟩ => hc ▸ .exclusiveMinimum hg ht,
      fun | .exclusiveMinimum hg ht => ⟨hg, ht, rfl⟩⟩
  | exclusiveMaximum =>
    rw [Keywords.refusal?, Keywords.ofNumbers?_eq_some_iff,
      ← h.exclusiveMaximum.given_iff gives_exclusiveMaximum]
    exact ⟨fun ⟨hg, ht, hc⟩ => hc ▸ .exclusiveMaximum hg ht,
      fun | .exclusiveMaximum hg ht => ⟨hg, ht, rfl⟩⟩

/-- The conflict of the keywords is that of the first one that is refused. -/
theorem conflict?_eq_some_iff (h : LastValues settings k) :
    k.conflict? type = some c ↔ FirstRefused type settings c := by
  rw [Keywords.conflict?_eq_findSome?, List.findSome?_eq_some_iff]
  simp only [FirstRefused, h.refusal?_eq_some_iff, Option.eq_none_iff_forall_ne_some, ne_eq]

/-- A type can carry the keywords if they are in no conflict with it. -/
theorem carries_iff (h : LastValues settings k) :
    Carries type settings ↔ k.conflict? type = none := by
  have hnumeric : type.isNumeric ↔ type = .number ∨ type = .integer := by
    cases type <;> simp [SimpleType.isNumeric]
  have hlisted : type ∈ [SimpleType.string, .number, .integer, .boolean] ↔
      type ≠ .null ∧ type ≠ .any := by cases type <;> decide
  have hstrings : (∀ keyword ∈ [Keyword.pattern, .minLength, .maxLength],
      Given keyword settings → type = .string) ↔ (k.pattern.isSome → type = .string) ∧
        (k.minLength.isSome → type = .string) ∧ (k.maxLength.isSome → type = .string) := by
    simp [h.pattern.given_iff gives_pattern, h.minLength.given_iff gives_minLength,
      h.maxLength.given_iff gives_maxLength]
  have hnumbers : (∀ keyword ∈ [Keyword.minimum, .maximum, .exclusiveMinimum, .exclusiveMaximum],
      Given keyword settings → type = .number ∨ type = .integer) ↔
        (k.minimum.isSome → type.isNumeric) ∧ (k.maximum.isSome → type.isNumeric) ∧
          (k.exclusiveMinimum.isSome → type.isNumeric) ∧
          (k.exclusiveMaximum.isSome → type.isNumeric) := by
    simp [h.minimum.given_iff gives_minimum, h.maximum.given_iff gives_maximum,
      h.exclusiveMinimum.given_iff gives_exclusiveMinimum,
      h.exclusiveMaximum.given_iff gives_exclusiveMaximum, hnumeric]
  have hformat : ∀ name, LastGiven .format settings (some name) ↔ k.format = some name :=
    fun name => ⟨h.format.unique (fun _ _ => Setting.format.inj), fun heq => heq ▸ h.format⟩
  have henumeration : ∀ values, LastGiven .enumeration settings (some values) ↔
      k.enumeration = some values := fun values =>
    ⟨h.enumeration.unique (fun _ _ => Setting.enumeration.inj), fun heq => heq ▸ h.enumeration⟩
  rw [Keywords.conflict?_eq_none, Keywords.patternConflict?_eq_none,
    Keywords.formatConflict?_eq_none, Keywords.lengthConflict?_eq_none,
    Keywords.rangeConflict?_eq_none, Keywords.enumerationConflict?_eq_none]
  refine ⟨fun hcarries => ?_, fun ⟨hpattern, hformats, hlength, hrange, hvalues⟩ => ?_⟩
  · obtain ⟨hpattern, hlength⟩ := hstrings.mp hcarries.ofStrings
    refine ⟨hpattern, fun name hname => hcarries.format name ((hformat name).mpr hname), hlength,
      hnumbers.mp hcarries.ofNumbers, fun values heq => ?_⟩
    obtain ⟨htype, hof⟩ := hcarries.enumeration values ((henumeration values).mpr heq)
    obtain ⟨hnull, hany⟩ := hlisted.mp htype
    exact ⟨hnull, hany, fun w hw => SimpleType.accepts_iff.mpr (hof w hw)⟩
  · refine ⟨hstrings.mpr ⟨hpattern, hlength⟩, hnumbers.mpr hrange,
      fun name hname => hformats name ((hformat name).mp hname), fun values hlast => ?_⟩
    obtain ⟨hnull, hany, hof⟩ := hvalues values ((henumeration values).mp hlast)
    exact ⟨hlisted.mpr ⟨hnull, hany⟩, fun w hw => SimpleType.accepts_iff.mp (hof w hw)⟩

end LastValues

end DraftSchema.SimpleSchema
