import DraftSchema.Proofs.Language.Elaboration

/-!
# `DraftSchema.Proofs.Language.Absolute`: schemas that mean the same wherever they stand

A document comes into the node of a schema only by the references in it that are relative.
Where all of them are absolute the schema has the same node in every document. The theorems:

* `Url.join_eq_parse`: an absolute text is read without regard to a base.
* `Node.elaborate_eq_of_absolute`: so is a schema whose references are absolute.
-/

set_option autoImplicit false

namespace DraftSchema

open Relation

/-! ### Absolute texts -/

namespace Url

/-- The text starts with a scheme, and with two slashes behind it where locations with that
scheme have a host. -/
def IsAbsolute (text : String) : Prop :=
  ∃ scheme rest, cutScheme? (Reference.ofText text).main = some (scheme, rest) ∧
    (isSpecialScheme scheme → 2 ≤ slashCount rest)

theorem exists_of_two_le_slashCount {cs : List Char} (h : 2 ≤ slashCount cs) :
    ∃ c d rest, cs = c :: d :: rest ∧ isSlash true c ∧ isSlash true d := by
  rcases cs with _ | ⟨c, _ | ⟨d, rest⟩⟩
  · simp [slashCount] at h
  · have hle := (List.takeWhile_sublist (isSlash true) (l := [c])).length_le
    simp only [slashCount, List.length_singleton] at h hle
    omega
  · refine ⟨c, d, rest, rfl, ?_⟩
    by_cases hc : isSlash true c
    · by_cases hd : isSlash true d
      · exact ⟨hc, hd⟩
      · simp [slashCount, hc, hd] at h
    · simp [slashCount, hc] at h

/-- An absolute text is read without regard to a base. -/
theorem join_eq_parse {text : String} (h : IsAbsolute text) (base : Url) :
    base.join text = parse text := by
  obtain ⟨scheme, rest, hscheme, hslashes⟩ := h
  unfold join parse ofReference
  simp only [hscheme]
  by_cases hfile : scheme = "file"
  · subst hfile
    -- What follows the two slashes does not come from the base.
    obtain ⟨c, d, after, rfl, hc, hd⟩ := exists_of_two_le_slashCount (hslashes rfl)
    simp only [if_true, fileRelativeTo, hc, hd]
  · rw [if_neg hfile, if_neg hfile]
    by_cases hspecial : isSpecialScheme scheme
    · have hnone : (some base).filter (fun b => b.scheme = scheme ∧ slashCount rest < 2)
          = none := by
        simp [Nat.not_lt.mpr (hslashes hspecial)]
      simp only [hspecial, hnone]
      rfl
    · simp only [hspecial]
      rfl

end Url

/-- An absolute reference names the same location in every document. -/
theorem Reference.resolve_eq_of_isAbsolute {text : String} (h : Url.IsAbsolute text)
    (base base' : Url) : resolve base text = resolve base' text := by
  unfold resolve
  rw [Url.join_eq_parse h, Url.join_eq_parse h]

/-! ### Absolute schemas -/

/-- All references in a schema are absolute. -/
def Json.Absolute (raw : Json) : Prop :=
  ∀ (members : Json.Members) (text : String), ReflTransGen Json.Subschema raw (.object members) →
    members.get? "$ref" = some (.string text) → Url.IsAbsolute text

theorem Json.Absolute.of_subschema {raw part : Json} (h : raw.Absolute)
    (hpart : raw.Subschema part) : part.Absolute :=
  fun members text hreach => h members text (hreach.head hpart)

namespace Node

variable {base base' : Url} {members members' : Json.Members}

/-! ### Parts

What becomes of a keyword is the same for two documents if it has the same value, and the
schemas in it become the same. -/

theorem elaborateEntries_congr {entries : List Json}
    (h : ∀ nested, .object nested ∈ entries →
      elaborate base (.object nested) = elaborate base' (.object nested)) :
    elaborateEntries base entries = elaborateEntries base' entries := by
  induction entries with
  | nil => rw [elaborateEntries, elaborateEntries]
  | cons entry rest ih =>
    have hentry : elaborateEntry base entry = elaborateEntry base' entry := by
      rw [elaborateEntry.eq_def, elaborateEntry.eq_def]
      cases entry with
      | object nested => exact h nested List.mem_cons_self
      | _ => rfl
    rw [elaborateEntries, elaborateEntries, hentry,
      ih fun nested hmem => h nested (List.mem_cons_of_mem _ hmem)]

theorem elaborateProperties_congr {entries : Json.Members}
    (h : ∀ entry ∈ entries, elaborate base entry.2 = elaborate base' entry.2) :
    elaborateProperties base entries = elaborateProperties base' entries := by
  induction entries with
  | nil => rw [elaborateProperties, elaborateProperties]
  | cons entry rest ih =>
    rw [elaborateProperties, elaborateProperties, h entry List.mem_cons_self,
      ih fun e he => h e (List.mem_cons_of_mem _ he)]

theorem elaborateDeclared_congr
    (hget : members'.get? "properties" = members.get? "properties")
    (h : ∀ entry ∈ members.declared, elaborate base entry.2 = elaborate base' entry.2) :
    elaborateDeclared base members = elaborateDeclared base' members' := by
  rw [elaborateDeclared.eq_def, elaborateDeclared.eq_def base', hget]
  rcases hv : members.get? "properties" with _ | v
  · rfl
  · cases v with
    | object entries =>
      refine elaborateProperties_congr fun entry hentry => h entry ?_
      simpa [Json.Members.declared, hv] using hentry
    | _ => rfl

theorem elaborateAdditional_congr
    (hget : members'.get? "additionalProperties" = members.get? "additionalProperties")
    (h : ∀ nested, members.get? "additionalProperties" = some (.object nested) →
      elaborate base (.object nested) = elaborate base' (.object nested)) :
    elaborateAdditional base members = elaborateAdditional base' members' := by
  rw [elaborateAdditional.eq_def, elaborateAdditional.eq_def base', hget]
  rcases hv : members.get? "additionalProperties" with _ | v
  · rfl
  · cases v with
    | object nested => simp only [h nested hv]
    | bool b => cases b <;> rfl
    | _ => rfl

theorem elaborateItems_congr (hget : members'.get? "items" = members.get? "items")
    (h : ∀ schema, members.get? "items" = some schema →
      elaborate base schema = elaborate base' schema) :
    elaborateItems base members = elaborateItems base' members' := by
  rw [elaborateItems.eq_def, elaborateItems.eq_def base', hget]
  rcases hv : members.get? "items" with _ | v
  · rfl
  · cases v with
    | object nested => exact h _ hv
    | _ => rfl

theorem elaborateReference_congr {v : Json} (h : ∀ text, v = .string text →
    Reference.resolve base text = Reference.resolve base' text) :
    elaborateReference base v = elaborateReference base' v := by
  cases v with
  | string text => simp only [elaborateReference, h text rfl]
  | _ => rfl

/-! ### Schemas -/

/-- A schema becomes the same in two documents if its reference does, or the schemas right
below it do. -/
theorem elaborate_congr
    (hreference : ∀ v, members.get? "$ref" = some v →
      elaborateReference base v = elaborateReference base' v)
    (h : ∀ part, Json.Subschema (.object members) part →
      elaborate base part = elaborate base' part) :
    elaborate base (.object members) = elaborate base' (.object members) := by
  rw [elaborate.eq_def, elaborate.eq_def base']
  simp only
  rcases href : members.get? "$ref" with _ | target
  · rcases htype : members.get? "type" with _ | v
    · rfl
    · simp only
      split
      · rename_i heq
        cases heq
      · rename_i heq
        cases heq
        rw [elaborateObject, elaborateObject,
          elaborateAdditional_congr rfl fun nested hmem => h _ (.additional href htype hmem),
          elaborateDeclared_congr rfl fun entry hmem => h _ (.declared href htype hmem)]
      · rename_i heq
        cases heq
        rw [elaborateArray, elaborateArray,
          elaborateItems_congr rfl fun schema hmem => h _ (.items href htype hmem)]
      · rename_i heq
        cases heq
        rfl
      · rename_i entries heq
        cases heq
        rw [elaborateEntries_congr fun nested hmem =>
          h _ (.alternative (.intro href htype hmem))]
      · rfl
  · exact hreference target href

/-- A schema whose references are absolute becomes the same in every document. -/
theorem elaborate_eq_of_absolute {raw : Json} (h : raw.Absolute) (base base' : Url) :
    elaborate base raw = elaborate base' raw := by
  -- The schemas in a value are smaller, and their references are among those of the value.
  induction hsize : sizeOf raw using Nat.strongRecOn generalizing raw with
  | _ size ih =>
    cases raw with
    | object members =>
      refine elaborate_congr (fun v href => elaborateReference_congr fun text heq => ?_)
        fun part hpart => ?_
      · exact Reference.resolve_eq_of_isAbsolute (h members text .refl (heq ▸ href)) base base'
      · exact ih (sizeOf part) (hsize ▸ sizeOf_lt_of_subschema hpart) (h.of_subschema hpart) rfl
    | _ => rw [elaborate.eq_def, elaborate.eq_def]

end Node
end DraftSchema
