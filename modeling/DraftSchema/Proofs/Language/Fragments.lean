import DraftSchema.Proofs.Language.Edits
import DraftSchema.Proofs.Url.Fragments

/-!
# `DraftSchema.Proofs.Language.Fragments`: fragments behind the references of a schema

`Json.AddsFragment` puts a fragment behind one reference in a schema, wherever schemas may stand.
The schema becomes the same then. If it becomes nothing, the two defects may tell of different
texts, but they are met at the same place (`Elaboration.SameSuccess`). The theorems:

* `SameSuccess.bind`: what is made of the same is the same.
* `Json.AddsFragment.sameSuccess`: one fragment.
* `sameSuccess_of_addsFragments`: any number of them.
-/

set_option autoImplicit false

namespace DraftSchema

open Relation

/-! ### Results -/

/-- Two results that are the same but for their errors: both are errors or neither is. -/
theorem ok_or_error_of_toOption_eq {ε α : Type} {x x' : Except ε α}
    (h : x'.toOption = x.toOption) :
    (∃ a, x = .ok a ∧ x' = .ok a) ∨ ∃ e e', x = .error e ∧ x' = .error e' := by
  rcases x with e | a
  · rcases x' with e' | a'
    · exact .inr ⟨e, e', rfl, rfl⟩
    · cases h
  · rcases x' with e' | a'
    · cases h
    · cases h
      exact .inl ⟨a, rfl, rfl⟩

namespace Elaboration

variable {α β : Type}

/-- The same references were met on the way to the same result, or to none. -/
structure SameSuccess (x x' : Elaboration α) : Prop where
  references : x'.references = x.references
  result : x'.result.toOption = x.result.toOption

namespace SameSuccess

variable {x x' x'' : Elaboration α}

theorem refl (x : Elaboration α) : SameSuccess x x := ⟨rfl, rfl⟩

theorem of_eq (h : x' = x) : SameSuccess x x' := h ▸ refl x

theorem trans (h : SameSuccess x x') (h' : SameSuccess x' x'') : SameSuccess x x'' :=
  ⟨h'.references.trans h.references, h'.result.trans h.result⟩

/-- Either there is a result, and it is the same, or there are two defects. -/
theorem result_cases (h : SameSuccess x x') :
    (∃ a, x.result = .ok a ∧ x'.result = .ok a) ∨
      ∃ d d', x.result = .error d ∧ x'.result = .error d' :=
  ok_or_error_of_toOption_eq h.result

/-- What comes behind the same is the same, if it is for every result. -/
theorem bind {f f' : α → Elaboration β} (h : SameSuccess x x')
    (hf : ∀ a, SameSuccess (f a) (f' a)) : SameSuccess (x >>= f) (x' >>= f') := by
  obtain ⟨a, hx, hx'⟩ | ⟨d, d', hx, hx'⟩ := h.result_cases
  · rw [bind_ok hx, bind_ok hx']
    exact ⟨congrArg₂ _ h.references (hf a).references, (hf a).result⟩
  · rw [bind_error hx, bind_error hx']
    exact ⟨h.references, rfl⟩

theorem bind_left (h : SameSuccess x x') (f : α → Elaboration β) :
    SameSuccess (x >>= f) (x' >>= f) := h.bind fun a => refl (f a)

theorem bind_right (x : Elaboration α) {f f' : α → Elaboration β}
    (hf : ∀ a, SameSuccess (f a) (f' a)) : SameSuccess (x >>= f) (x >>= f') := (refl x).bind hf

theorem map (f : α → β) (h : SameSuccess x x') : SameSuccess (f <$> x) (f <$> x') :=
  h.bind_left _

end SameSuccess
end Elaboration

/-! ### Schemas with fragments -/

namespace Json

/-- The second schema is the first one with a fragment behind one reference in it. It does not
matter whether the schemas around it are looked into. -/
inductive AddsFragment : Json → Json → Prop where
  | reference {members : Members} {text : String} (fragment : String)
      (href : members.get? "$ref" = some (.string text)) (hbare : Url.IsBare text) :
      AddsFragment (.object members)
        (.object (members.insert "$ref" (.string (text ++ "#" ++ fragment))))
  | alternative {members : Members} {front back : List Json} {raw raw' : Json}
      (htype : members.get? "type" = some (.array (front ++ raw :: back)))
      (h : AddsFragment raw raw') :
      AddsFragment (.object members)
        (.object (members.insert "type" (.array (front ++ raw' :: back))))
  | property {members front back : Members} {name : String} {raw raw' : Json}
      (hproperties : members.get? "properties" = some (.object (front ++ (name, raw) :: back)))
      (h : AddsFragment raw raw') :
      AddsFragment (.object members)
        (.object (members.insert "properties" (.object (front ++ (name, raw') :: back))))
  | additional {members : Members} {raw raw' : Json}
      (hadditional : members.get? "additionalProperties" = some raw) (h : AddsFragment raw raw') :
      AddsFragment (.object members) (.object (members.insert "additionalProperties" raw'))
  | items {members : Members} {raw raw' : Json} (hitems : members.get? "items" = some raw)
      (h : AddsFragment raw raw') :
      AddsFragment (.object members) (.object (members.insert "items" raw'))

variable {raw raw' : Json} {members : Members}

/-- Both schemas are objects. -/
theorem AddsFragment.exists_object (h : AddsFragment raw raw') :
    (∃ members, raw = .object members) ∧ ∃ members, raw' = .object members := by
  cases h <;> exact ⟨⟨_, rfl⟩, _, rfl⟩

/-- Whether a declared property is required does not change. -/
theorem AddsFragment.required?_eq (h : AddsFragment raw raw') :
    Node.required? raw' = Node.required? raw := by
  have hmembers : ∀ (members : Members) {name : String} (v : Json), "required" ≠ name →
      Node.required? (.object (members.insert name v)) = Node.required? (.object members) := by
    intro members name v hne
    simp only [Node.required?, Node.boolKeyword?, Members.get?_insert_of_ne v hne]
  cases h with
  | reference | alternative | property | additional | items => exact hmembers _ _ (by decide)

/-! ### Places that are looked into -/

/-- A keyword that is consulted beside a type is one of that type. -/
theorem Members.exists_type_of_mem_consulted {name : String} (href : name ≠ "$ref")
    (htype : name ≠ "type") (h : name ∈ members.consulted false) :
    ∃ v, members.get? "$ref" = none ∧ members.get? "type" = some v ∧ name ∈ v.typeKeywords := by
  unfold consulted at h
  rcases hreference : members.get? "$ref" with _ | target
  · rcases hvalue : members.get? "type" with _ | v
    · simp [hreference, hvalue, href, htype] at h
    · simp only [hreference, hvalue] at h
      exact ⟨v, rfl, rfl, by simpa [href, htype] using h⟩
  · simp [hreference, href] at h

theorem eq_object_of_mem_typeKeywords {name : String} {v : Json}
    (hname : name ∈ ["properties", "additionalProperties"]) (h : name ∈ v.typeKeywords) :
    v = .string "object" := by
  unfold typeKeywords at h
  split at h
  · rfl
  · simp only [List.mem_cons, List.not_mem_nil, or_false] at hname h
    obtain rfl | rfl := hname
    · simp at h
    · simp at h
  · simp only [refinements, List.mem_cons, List.not_mem_nil, or_false] at hname h
    obtain rfl | rfl := hname
    · simp at h
    · simp at h
  · cases h

theorem eq_array_of_mem_typeKeywords {v : Json} (h : "items" ∈ v.typeKeywords) :
    v = .string "array" := by
  unfold typeKeywords at h
  split at h
  · simp at h
  · rfl
  · simp [refinements] at h
  · cases h

end Json

namespace Node

open Json (Members)
open Elaboration (SameSuccess)

variable {base : Url} {members : Members} {raw raw' : Json}

/-- Another value of a keyword makes no difference where it is not consulted. -/
theorem sameSuccess_insert_of_not_mem {name : String} {v : Json}
    (h : name ∉ members.consulted false) :
    SameSuccess (elaborate base (.object members))
      (elaborate base (.object (members.insert name v))) := by
  refine .of_eq (elaborate_eq_of_consulted fun other hother => ?_)
  refine Members.get?_insert_of_ne v ?_
  rintro rfl
  exact h hother

/-! ### Schemas in schemas -/

theorem sameSuccess_entries {front back : List Json} {entry entry' : Json}
    (h : SameSuccess (elaborateEntry base entry) (elaborateEntry base entry')) :
    SameSuccess (elaborateEntries base (front ++ entry :: back))
      (elaborateEntries base (front ++ entry' :: back)) := by
  induction front with
  | nil =>
    rw [List.nil_append, List.nil_append, elaborateEntries, elaborateEntries]
    exact h.bind_left _
  | cons first rest ih =>
    rw [List.cons_append, List.cons_append, elaborateEntries, elaborateEntries]
    exact .bind_right _ fun _ => ih.bind_left _

theorem sameSuccess_properties {front back : Members} {name : String}
    (hrequired : required? raw' = required? raw)
    (h : SameSuccess (elaborate base raw) (elaborate base raw')) :
    SameSuccess (elaborateProperties base (front ++ (name, raw) :: back))
      (elaborateProperties base (front ++ (name, raw') :: back)) := by
  induction front with
  | nil =>
    rw [List.nil_append, List.nil_append, elaborateProperties, elaborateProperties, hrequired]
    exact .bind_right _ fun _ => h.bind_left _
  | cons first rest ih =>
    rw [List.cons_append, List.cons_append, elaborateProperties, elaborateProperties]
    exact .bind_right _ fun _ => .bind_right _ fun _ => ih.bind_left _

/-- An object becomes the same if its parts do. -/
theorem sameSuccess_object {name : String} {v : Json} (href : members.get? "$ref" = none)
    (htype : members.get? "type" = some (.string "object")) (hname : "$ref" ≠ name ∧ "type" ≠ name)
    (hadditional : SameSuccess (elaborateAdditional base members)
      (elaborateAdditional base (members.insert name v)))
    (hdeclared : SameSuccess (elaborateDeclared base members)
      (elaborateDeclared base (members.insert name v))) :
    SameSuccess (elaborate base (.object members))
      (elaborate base (.object (members.insert name v))) := by
  rw [elaborate_of_object href htype, elaborate_of_object
    ((Members.get?_insert_of_ne v hname.1).trans href)
    ((Members.get?_insert_of_ne v hname.2).trans htype), elaborateObject, elaborateObject]
  exact hadditional.bind fun _ => hdeclared.bind_left _

/-- A reference becomes the same with a fragment behind it. -/
theorem sameSuccess_reference (hbase : base.IsProper) {text : String} (h : Url.IsBare text)
    (fragment : String) :
    SameSuccess (elaborateReference base (.string text))
      (elaborateReference base (.string (text ++ "#" ++ fragment))) := by
  have hresolve := Reference.toOption_resolve_append hbase h fragment
  simp only [elaborateReference]
  obtain ⟨location, hx, hx'⟩ | ⟨fault, fault', hx, hx'⟩ := ok_or_error_of_toOption_eq hresolve
  · rw [hx, hx']
    exact .refl _
  · rw [hx, hx']
    exact ⟨rfl, rfl⟩

end Node

open Node Elaboration in
/-- A schema becomes the same with a fragment behind one reference in it. -/
theorem Json.AddsFragment.sameSuccess {raw raw' : Json} (h : AddsFragment raw raw') {base : Url}
    (hbase : base.IsProper) : SameSuccess (elaborate base raw) (elaborate base raw') := by
  induction h with
  | reference fragment href hbare =>
    rw [elaborate_of_reference href, elaborate_of_reference (Members.get?_insert_self _ _ _)]
    exact sameSuccess_reference hbase hbare fragment
  | @alternative members _ _ _ _ htype h ih =>
    rcases href : members.get? "$ref" with _ | target
    · obtain ⟨⟨nested, rfl⟩, nested', rfl⟩ := h.exists_object
      rw [elaborate_of_union href htype, elaborate_of_union
        ((Members.get?_insert_of_ne _ (by decide)).trans href) (Members.get?_insert_self _ _ _)]
      refine .map _ (sameSuccess_entries ?_)
      rw [elaborateEntry, elaborateEntry]
      exact ih
    · -- Beside a reference the type is not consulted.
      refine sameSuccess_insert_of_not_mem ?_
      simp [Members.consulted, href]
  | @property members _ _ _ _ _ hproperties h ih =>
    by_cases hconsulted : "properties" ∈ members.consulted false
    · obtain ⟨v, href, htype, hmem⟩ :=
        Members.exists_type_of_mem_consulted (by decide) (by decide) hconsulted
      obtain rfl := eq_object_of_mem_typeKeywords (by decide) hmem
      refine sameSuccess_object href htype (by decide) (.of_eq ?_) ?_
      · exact (elaborateAdditional_congr (Members.get?_insert_of_ne _ (by decide)).symm
          fun _ _ => rfl)
      · rw [elaborateDeclared.eq_def, hproperties, elaborateDeclared.eq_def,
          Members.get?_insert_self]
        exact sameSuccess_properties h.required?_eq ih
    · exact sameSuccess_insert_of_not_mem hconsulted
  | @additional members _ _ hadditional h ih =>
    by_cases hconsulted : "additionalProperties" ∈ members.consulted false
    · obtain ⟨v, href, htype, hmem⟩ :=
        Members.exists_type_of_mem_consulted (by decide) (by decide) hconsulted
      obtain rfl := eq_object_of_mem_typeKeywords (by decide) hmem
      obtain ⟨⟨nested, rfl⟩, nested', rfl⟩ := h.exists_object
      refine sameSuccess_object href htype (by decide) ?_ (.of_eq ?_)
      · rw [elaborateAdditional.eq_def, hadditional, elaborateAdditional.eq_def,
          Members.get?_insert_self]
        exact .map _ ih
      · exact elaborateDeclared_congr (Members.get?_insert_of_ne _ (by decide)).symm fun _ _ => rfl
    · exact sameSuccess_insert_of_not_mem hconsulted
  | @items members _ _ hitems h ih =>
    by_cases hconsulted : "items" ∈ members.consulted false
    · obtain ⟨v, href, htype, hmem⟩ :=
        Members.exists_type_of_mem_consulted (by decide) (by decide) hconsulted
      obtain rfl := eq_array_of_mem_typeKeywords hmem
      obtain ⟨⟨nested, rfl⟩, nested', rfl⟩ := h.exists_object
      rw [elaborate_of_array href htype, elaborate_of_array
        ((Members.get?_insert_of_ne _ (by decide)).trans href)
        ((Members.get?_insert_of_ne _ (by decide)).trans htype), elaborateArray, elaborateArray]
      simp only [countKeyword?, Members.get?_insert_of_ne _ (by decide : "minItems" ≠ "items"),
        Members.get?_insert_of_ne _ (by decide : "maxItems" ≠ "items")]
      refine .bind_left ?_ _
      rw [elaborateItems.eq_def, hitems, elaborateItems.eq_def, Members.get?_insert_self]
      exact ih
    · exact sameSuccess_insert_of_not_mem hconsulted

/-- So it does with any number of fragments. -/
theorem sameSuccess_of_addsFragments {raw raw' : Json}
    (h : ReflTransGen Json.AddsFragment raw raw') {base : Url} (hbase : base.IsProper) :
    Elaboration.SameSuccess (Node.elaborate base raw) (Node.elaborate base raw') := by
  induction h with
  | refl => exact .refl _
  | tail _ hlast ih => exact ih.trans (hlast.sameSuccess hbase)

end DraftSchema
