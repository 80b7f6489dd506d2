import DraftSchema.SimpleSchema
import Mathlib.Data.List.Induction

/-!
# `DraftSchema.Proofs.SimpleSchema.Settings`: what remains of keywords given one after the other

A keyword may be given again, and only its last value remains (`LastGiven`). The theorems:

* `lastValues_ofSettings`: this is so for all nine keywords.
* `LastValues.eq_of_same_order`: so the order in which different keywords are given makes no
  difference.
-/

set_option autoImplicit false

namespace DraftSchema.SimpleSchema

/-! ### The nine keywords -/

/-- A keyword of a simple schema. -/
inductive Keyword where
  | pattern
  | format
  | minLength
  | maxLength
  | minimum
  | maximum
  | exclusiveMinimum
  | exclusiveMaximum
  | enumeration
deriving DecidableEq, Repr

/-- The keyword that a setting gives. -/
def Setting.keyword : Setting → Keyword
  | .pattern _ => .pattern
  | .format _ => .format
  | .minLength _ => .minLength
  | .maxLength _ => .maxLength
  | .minimum _ => .minimum
  | .maximum _ => .maximum
  | .exclusiveMinimum _ => .exclusiveMinimum
  | .exclusiveMaximum _ => .exclusiveMaximum
  | .enumeration _ => .enumeration

/-- The keyword is given, with whatever value. -/
def Given (keyword : Keyword) (settings : List Setting) : Prop :=
  ∃ s ∈ settings, s.keyword = keyword

variable {α : Type} {make : α → Setting} {keyword : Keyword} {settings settings' : List Setting}

/-- Settings made so are those that give the keyword. -/
def Gives (make : α → Setting) (keyword : Keyword) : Prop :=
  ∀ s : Setting, s.keyword = keyword ↔ ∃ v, s = make v

/-! ### The last value -/

/-- The last value that is given to a keyword, if there is one. The keyword is told by what makes
a setting of a value. -/
inductive LastGiven (make : α → Setting) (settings : List Setting) : Option α → Prop where
  | never (h : ∀ v, make v ∉ settings) : LastGiven make settings none
  | last {before after : List Setting} {v : α} (h : settings = before ++ make v :: after)
      (hafter : ∀ w, make w ∉ after) : LastGiven make settings (some v)

namespace LastGiven

variable {o o' : Option α}

/-- A keyword that is given has a last value. -/
theorem given_iff (h : LastGiven make settings o) (hgives : Gives make keyword) :
    Given keyword settings ↔ o.isSome := by
  cases h with
  | never h =>
    refine iff_of_false ?_ (by simp)
    rintro ⟨s, hs, hkeyword⟩
    obtain ⟨v, rfl⟩ := (hgives s).mp hkeyword
    exact h v hs
  | @last before after v h _ =>
    refine iff_of_true ⟨make v, ?_, (hgives _).mpr ⟨v, rfl⟩⟩ rfl
    simp [h]

/-- Settings of other keywords may be left out. -/
theorem filter (h : LastGiven make settings o) (hgives : Gives make keyword) :
    LastGiven make (settings.filter (·.keyword = keyword)) o := by
  cases h with
  | never h => exact .never fun v hv => h v (List.mem_filter.mp hv).1
  | @last before after v h hafter =>
    have hv : (make v).keyword = keyword := (hgives _).mpr ⟨v, rfl⟩
    refine @LastGiven.last _ _ _ (before.filter (·.keyword = keyword))
      (after.filter (·.keyword = keyword)) _ ?_ ?_
    · simp [h, hv]
    · exact fun w hw => hafter w (List.mem_filter.mp hw).1

/-- There is one last value. -/
theorem unique (hmake : Function.Injective make) (h : LastGiven make settings o)
    (h' : LastGiven make settings o') : o = o' := by
  cases h with
  | never h =>
    cases h' with
    | never _ => rfl
    | @last _ _ v heq _ => exact absurd (by simp [heq]) (h v)
  | @last before after v heq hafter =>
    cases h' with
    | never h' => exact absurd (by simp [heq]) (h' v)
    | @last before' after' w heq' hafter' =>
      -- Neither of two last settings stands behind the other one.
      rw [heq] at heq'
      rcases List.append_eq_append_iff.mp heq' with ⟨more, -, hmore⟩ | ⟨more, -, hmore⟩
      · cases more with
        | nil =>
          rw [List.nil_append, List.cons.injEq] at hmore
          rw [hmake hmore.1]
        | cons s more =>
          rw [List.cons_append, List.cons.injEq] at hmore
          exact absurd (by simp [hmore.2]) (hafter w)
      · cases more with
        | nil =>
          rw [List.nil_append, List.cons.injEq] at hmore
          rw [hmake hmore.1]
        | cons s more =>
          rw [List.cons_append, List.cons.injEq] at hmore
          exact absurd (by simp [hmore.2]) (hafter' v)

/-- A keyword that is given the same values in the same order has the same last value. -/
theorem eq_of_same_order (hgives : Gives make keyword) (hmake : Function.Injective make)
    (horder : settings'.filter (·.keyword = keyword) = settings.filter (·.keyword = keyword))
    (h : LastGiven make settings o) (h' : LastGiven make settings' o') : o' = o := by
  have hfiltered := h'.filter hgives
  rw [horder] at hfiltered
  exact hfiltered.unique hmake (h.filter hgives)

end LastGiven

/-- What every setting made so sets, and no other one does, has the last value that was set. -/
theorem lastGiven_ofSettings {field : Keywords → Option α} (hempty : field {} = none)
    (hset : ∀ (k : Keywords) v, field (k.give (make v)) = some v)
    (hkeep : ∀ (k : Keywords) s, (∀ v, s ≠ make v) → field (k.give s) = field k)
    (settings : List Setting) : LastGiven make settings (field (.ofSettings settings)) := by
  induction settings using List.reverseRecOn with
  | nil => exact hempty ▸ .never (by simp)
  | append_singleton before s ih =>
    have hstep : Keywords.ofSettings (before ++ [s]) = (Keywords.ofSettings before).give s := by
      simp [Keywords.ofSettings]
    rw [hstep]
    by_cases hs : ∃ v, s = make v
    · obtain ⟨v, rfl⟩ := hs
      rw [hset]
      exact .last rfl (by simp)
    · have hother : ∀ v, s ≠ make v := not_exists.mp hs
      rw [hkeep _ _ hother]
      -- Another keyword behind the last setting leaves it the last one.
      rcases hlast : field (.ofSettings before) with _ | v <;> rw [hlast] at ih
      · cases ih with
        | never h =>
          refine .never fun v hv => ?_
          rcases List.mem_append.mp hv with hv | hv
          · exact h v hv
          · exact hother v (List.mem_singleton.mp hv).symm
      · cases ih with
        | @last front back _ h hback =>
          refine @LastGiven.last _ _ _ front (back ++ [s]) _ (by simp [h]) fun w hw => ?_
          rcases List.mem_append.mp hw with hw | hw
          · exact hback w hw
          · exact hother w (List.mem_singleton.mp hw).symm

/-! ### All last values -/

theorem gives_pattern : Gives .pattern .pattern := fun s => by cases s <;> simp [Setting.keyword]

theorem gives_format : Gives .format .format := fun s => by cases s <;> simp [Setting.keyword]

theorem gives_minLength : Gives .minLength .minLength := fun s => by
  cases s <;> simp [Setting.keyword]

theorem gives_maxLength : Gives .maxLength .maxLength := fun s => by
  cases s <;> simp [Setting.keyword]

theorem gives_minimum : Gives .minimum .minimum := fun s => by cases s <;> simp [Setting.keyword]

theorem gives_maximum : Gives .maximum .maximum := fun s => by cases s <;> simp [Setting.keyword]

theorem gives_exclusiveMinimum : Gives .exclusiveMinimum .exclusiveMinimum := fun s => by
  cases s <;> simp [Setting.keyword]

theorem gives_exclusiveMaximum : Gives .exclusiveMaximum .exclusiveMaximum := fun s => by
  cases s <;> simp [Setting.keyword]

theorem gives_enumeration : Gives .enumeration .enumeration := fun s => by
  cases s <;> simp [Setting.keyword]

/-- The keywords have the last values that were given to them. -/
structure LastValues (settings : List Setting) (k : Keywords) : Prop where
  pattern : LastGiven .pattern settings k.pattern
  format : LastGiven .format settings k.format
  minLength : LastGiven .minLength settings k.minLength
  maxLength : LastGiven .maxLength settings k.maxLength
  minimum : LastGiven .minimum settings k.minimum
  maximum : LastGiven .maximum settings k.maximum
  exclusiveMinimum : LastGiven .exclusiveMinimum settings k.exclusiveMinimum
  exclusiveMaximum : LastGiven .exclusiveMaximum settings k.exclusiveMaximum
  enumeration : LastGiven .enumeration settings k.enumeration

/-- Of keywords that are given one after the other the last values remain. -/
theorem lastValues_ofSettings (settings : List Setting) :
    LastValues settings (.ofSettings settings) := by
  constructor <;>
  · refine lastGiven_ofSettings rfl (fun _ _ => rfl) (fun k s hs => ?_) settings
    cases s <;> first | rfl | exact absurd rfl (hs _)

/-- If each keyword is given the same values in the same order, the same values remain, in
whatever order different keywords are given. -/
theorem LastValues.eq_of_same_order {k k' : Keywords} (h : LastValues settings k)
    (h' : LastValues settings' k')
    (horder : ∀ keyword, settings'.filter (·.keyword = keyword)
      = settings.filter (·.keyword = keyword)) : k' = k := by
  cases k
  cases k'
  rw [Keywords.mk.injEq]
  exact ⟨h.pattern.eq_of_same_order gives_pattern (fun _ _ => Setting.pattern.inj)
      (horder _) h'.pattern,
    h.format.eq_of_same_order gives_format (fun _ _ => Setting.format.inj)
      (horder _) h'.format,
    h.minLength.eq_of_same_order gives_minLength (fun _ _ => Setting.minLength.inj)
      (horder _) h'.minLength,
    h.maxLength.eq_of_same_order gives_maxLength (fun _ _ => Setting.maxLength.inj)
      (horder _) h'.maxLength,
    h.minimum.eq_of_same_order gives_minimum (fun _ _ => Setting.minimum.inj)
      (horder _) h'.minimum,
    h.maximum.eq_of_same_order gives_maximum (fun _ _ => Setting.maximum.inj)
      (horder _) h'.maximum,
    h.exclusiveMinimum.eq_of_same_order gives_exclusiveMinimum
      (fun _ _ => Setting.exclusiveMinimum.inj) (horder _) h'.exclusiveMinimum,
    h.exclusiveMaximum.eq_of_same_order gives_exclusiveMaximum
      (fun _ _ => Setting.exclusiveMaximum.inj) (horder _) h'.exclusiveMaximum,
    h.enumeration.eq_of_same_order gives_enumeration (fun _ _ => Setting.enumeration.inj)
      (horder _) h'.enumeration⟩

end DraftSchema.SimpleSchema
