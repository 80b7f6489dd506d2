import DraftSchema.Proofs.Json.Reordering
import DraftSchema.Proofs.Language.Extraction

/-!
# `DraftSchema.Proofs.Language.Edits`: what may be changed in a schema

Members of a schema may stand in any order, and members may be added and removed that are not
consulted where they stand. `Json.Edit` makes one such change in a schema or in one of the schemas
in it. The declared properties keep their order, unless it is left free. The theorems:

* `elaborate_eq_of_consulted`: a schema becomes the same with any members that agree where it is
  consulted.
* `Json.Edit.elaborate_eq`: it becomes the same after a change, with the same references in the
  same order or the same defect.
-/

set_option autoImplicit false

namespace DraftSchema

namespace Json

/-! ### Keywords -/

/-- The keywords that put conditions on a simple type. -/
def refinements : List String :=
  ["pattern", "format", "minLength", "maxLength", "minimum", "maximum", "exclusiveMinimum",
   "exclusiveMaximum", "enumeration"]

/-- The keywords that are consulted beside a type with this value. -/
def typeKeywords : Json → List String
  | .string "object" => ["properties", "additionalProperties"]
  | .string "array" => ["items", "minItems", "maxItems"]
  | .string _ => refinements
  | _ => []

theorem typeKeywords_of_name {name : String} (hobject : name ≠ "object") (harray : name ≠ "array") :
    typeKeywords (.string name) = refinements := by
  rw [typeKeywords]
  · exact hobject
  · exact harray

/-- The keywords that are consulted in a schema: nothing else beside a reference, and beside a
type what it asks for. In the schema of a declared property it is also asked whether the property
is required. -/
def Members.consulted (declared : Bool) (members : Members) : List String :=
  (if declared then ["required"] else []) ++ "$ref" ::
    match members.get? "$ref" with
    | some _ => []
    | none => "type" :: (members.get? "type").elim [] typeKeywords

/-! ### Changes -/

/-- The second schema is the first one after one change. The first flag tells that the order of
declared properties is free, the second one that the schema is that of a declared property. -/
inductive Edit (free : Bool) : Bool → Json → Json → Prop where
  | order {declared : Bool} {members members' : Members}
      (hnames : (members.map (·.1)).Nodup) (h : members.Perm members') :
      Edit free declared (.object members) (.object members')
  | add {declared : Bool} {front back : Members} {name : String} {v : Json}
      (h : name ∉ Members.consulted declared (front ++ back)) :
      Edit free declared (.object (front ++ back)) (.object (front ++ (name, v) :: back))
  | remove {declared : Bool} {front back : Members} {name : String} {v : Json}
      (h : name ∉ Members.consulted declared (front ++ back)) :
      Edit free declared (.object (front ++ (name, v) :: back)) (.object (front ++ back))
  | orderProperties {declared : Bool} {members entries entries' : Members}
      (hfree : free) (href : members.get? "$ref" = none)
      (htype : members.get? "type" = some (.string "object"))
      (hproperties : members.get? "properties" = some (.object entries))
      (h : entries.Perm entries') :
      Edit free declared (.object members)
        (.object (members.insert "properties" (.object entries')))
  | alternative {declared : Bool} {members : Members} {front back : List Json} {raw raw' : Json}
      (href : members.get? "$ref" = none)
      (htype : members.get? "type" = some (.array (front ++ raw :: back)))
      (h : Edit free false raw raw') :
      Edit free declared (.object members)
        (.object (members.insert "type" (.array (front ++ raw' :: back))))
  | property {declared : Bool} {members front back : Members} {name : String} {raw raw' : Json}
      (href : members.get? "$ref" = none)
      (htype : members.get? "type" = some (.string "object"))
      (hproperties : members.get? "properties" = some (.object (front ++ (name, raw) :: back)))
      (h : Edit free true raw raw') :
      Edit free declared (.object members)
        (.object (members.insert "properties" (.object (front ++ (name, raw') :: back))))
  | additional {declared : Bool} {members : Members} {raw raw' : Json}
      (href : members.get? "$ref" = none)
      (htype : members.get? "type" = some (.string "object"))
      (hadditional : members.get? "additionalProperties" = some raw)
      (h : Edit free false raw raw') :
      Edit free declared (.object members)
        (.object (members.insert "additionalProperties" raw'))
  | items {declared : Bool} {members : Members} {raw raw' : Json}
      (href : members.get? "$ref" = none)
      (htype : members.get? "type" = some (.string "array"))
      (hitems : members.get? "items" = some raw) (h : Edit free false raw raw') :
      Edit free declared (.object members) (.object (members.insert "items" raw'))

variable {free declared : Bool} {members members' : Members} {raw raw' : Json}

/-- Whatever place a schema has, it is consulted for what it becomes. -/
theorem Members.mem_consulted_of_mem {name : String} (h : name ∈ members.consulted false) :
    name ∈ members.consulted declared :=
  List.mem_append_right _ h

/-- The members agree where the first ones are consulted. -/
def Members.Agree (declared : Bool) (members members' : Members) : Prop :=
  ∀ name ∈ members.consulted declared, members'.get? name = members.get? name

/-- What is added or removed makes no difference where it is not consulted. -/
theorem Members.agree_append_cons {front back : Members} {name : String} {v : Json}
    (h : name ∉ Members.consulted declared (front ++ back)) :
    Members.Agree declared (front ++ back) (front ++ (name, v) :: back) := by
  intro other hother
  refine Members.get?_append_cons_of_ne ?_
  rintro rfl
  exact h hother

/-- Both schemas are objects. -/
theorem Edit.exists_object (h : Edit free declared raw raw') :
    (∃ members, raw = .object members) ∧ ∃ members, raw' = .object members := by
  cases h <;> exact ⟨⟨_, rfl⟩, _, rfl⟩

/-- Whether a declared property is required does not change. -/
theorem Edit.required?_eq (h : Edit free true raw raw') :
    Node.required? raw' = Node.required? raw := by
  have hmembers : ∀ {members members' : Members},
      members'.get? "required" = members.get? "required" →
      Node.required? (.object members') = Node.required? (.object members) := by
    intro members members' hget
    simp only [Node.required?, Node.boolKeyword?, hget]
  have hconsulted : ∀ members : Members, "required" ∈ members.consulted true := fun members =>
    List.mem_append_left _ List.mem_cons_self
  cases h with
  | order hnames h => exact hmembers (Members.get?_of_perm h hnames _).symm
  | add h => exact hmembers (Members.agree_append_cons h _ (hconsulted _))
  | remove h => exact hmembers (Members.agree_append_cons h _ (hconsulted _)).symm
  | orderProperties | alternative | property | additional | items =>
    exact hmembers (Members.get?_insert_of_ne _ (by decide))

end Json

namespace Node

open Json (Members)

variable {base : Url} {members members' : Members} {raw raw' : Json}

/-! ### Consulted members -/

theorem mem_consulted_type (href : members.get? "$ref" = none) :
    "type" ∈ members.consulted false := by
  simp [Members.consulted, href]

theorem mem_consulted {v : Json} {name : String} (href : members.get? "$ref" = none)
    (htype : members.get? "type" = some v) (h : name ∈ v.typeKeywords) :
    name ∈ members.consulted false := by
  simp [Members.consulted, href, htype, h]

/-- The conditions on a simple type are the same if the keywords for them are. -/
theorem simpleKeywords?_congr
    (h : ∀ name ∈ Json.refinements, members'.get? name = members.get? name) :
    simpleKeywords? members' = simpleKeywords? members := by
  simp only [Json.refinements, List.forall_mem_cons] at h
  obtain ⟨hpattern, hformat, hminLength, hmaxLength, hminimum, hmaximum, hexclusiveMinimum,
    hexclusiveMaximum, henumeration, -⟩ := h
  simp only [simpleKeywords?, patternKeyword?, stringKeyword?, countKeyword?, decimalKeyword?,
    boolKeyword?, listKeyword?, *]

theorem elaborate_of_untyped (href : members.get? "$ref" = none)
    (htype : members.get? "type" = none) : elaborate base (.object members) = pure any := by
  rw [elaborate.eq_def]
  simp only [href]
  split <;> simp_all

/-- What a schema becomes that has a type with this value. -/
def elaborateTyped (base : Url) (members : Members) : Json → Elaboration Node
  | .string "object" => elaborateObject base members
  | .string "array" => elaborateArray base members
  | .string name => .ofExcept (simple? name members)
  | .array entries => .union <$> elaborateEntries base entries
  | _ => .fail (.keyword "type" "a string or an array")

theorem elaborate_of_type {v : Json} (href : members.get? "$ref" = none)
    (htype : members.get? "type" = some v) :
    elaborate base (.object members) = elaborateTyped base members v := by
  rw [elaborate.eq_def]
  simp only [href]
  split
  · rename_i hvalue
    rw [htype] at hvalue
    cases hvalue
  · rename_i hvalue
    obtain rfl := Option.some.inj (htype.symm.trans hvalue)
    rfl
  · rename_i hvalue
    obtain rfl := Option.some.inj (htype.symm.trans hvalue)
    rfl
  · rename_i name hobject harray hvalue
    obtain rfl := Option.some.inj (htype.symm.trans hvalue)
    rw [elaborateTyped]
    · exact hobject
    · exact harray
  · rename_i hvalue
    obtain rfl := Option.some.inj (htype.symm.trans hvalue)
    rfl
  · rename_i hobject harray hname hentries hvalue
    obtain rfl := Option.some.inj (htype.symm.trans hvalue)
    rw [elaborateTyped]
    · exact hobject
    · exact harray
    · exact hname
    · exact hentries

/-- A type is asked for its keywords only. -/
theorem elaborateTyped_congr {v : Json}
    (h : ∀ name ∈ v.typeKeywords, members'.get? name = members.get? name) :
    elaborateTyped base members' v = elaborateTyped base members v := by
  unfold elaborateTyped
  split
  · simp only [Json.typeKeywords, List.forall_mem_cons] at h
    obtain ⟨hproperties, hadditional, -⟩ := h
    rw [elaborateObject, elaborateObject, elaborateDeclared_congr hproperties fun _ _ => rfl,
      elaborateAdditional_congr hadditional fun _ _ => rfl]
  · simp only [Json.typeKeywords, List.forall_mem_cons] at h
    obtain ⟨hitems, hminItems, hmaxItems, -⟩ := h
    rw [elaborateArray, elaborateArray, elaborateItems_congr hitems fun _ _ => rfl]
    simp only [countKeyword?, hminItems, hmaxItems]
  · rename_i hobject harray
    rw [Json.typeKeywords_of_name hobject harray] at h
    rw [simple?, simple?, simpleKeywords?_congr h]
  · rfl
  · rfl

/-- A schema becomes the same with any members that agree where it is consulted. -/
theorem elaborate_eq_of_consulted (h : Members.Agree false members members') :
    elaborate base (.object members') = elaborate base (.object members) := by
  have href := h "$ref" (by simp [Members.consulted])
  rcases hreference : members.get? "$ref" with _ | target
  · rw [hreference] at href
    have htype := h "type" (mem_consulted_type hreference)
    rcases hvalue : members.get? "type" with _ | v
    · rw [hvalue] at htype
      rw [elaborate_of_untyped href htype, elaborate_of_untyped hreference hvalue]
    · rw [hvalue] at htype
      rw [elaborate_of_type href htype, elaborate_of_type hreference hvalue]
      exact elaborateTyped_congr fun name hname => h name (mem_consulted hreference hvalue hname)
  · rw [hreference] at href
    rw [elaborate_of_reference href, elaborate_of_reference hreference]

/-- A schema becomes the same with its members in another order. -/
theorem elaborate_of_perm (hnames : (members.map (·.1)).Nodup) (h : members.Perm members') :
    elaborate base (.object members') = elaborate base (.object members) :=
  elaborate_eq_of_consulted fun name _ => (Members.get?_of_perm h hnames name).symm

/-- It becomes the same with a further member that is not consulted. -/
theorem elaborate_of_added {declared : Bool} {front back : Members} {name : String} {v : Json}
    (h : name ∉ Members.consulted declared (front ++ back)) :
    elaborate base (.object (front ++ (name, v) :: back))
      = elaborate base (.object (front ++ back)) :=
  elaborate_eq_of_consulted (Members.agree_append_cons fun hmem =>
    h (Members.mem_consulted_of_mem hmem))

/-! ### Schemas in schemas -/

/-- A union becomes the same if one of its members does. -/
theorem elaborateEntries_append_cons_congr {front back : List Json} {entry entry' : Json}
    (h : elaborateEntry base entry' = elaborateEntry base entry) :
    elaborateEntries base (front ++ entry' :: back)
      = elaborateEntries base (front ++ entry :: back) := by
  induction front with
  | nil => rw [List.nil_append, List.nil_append, elaborateEntries, elaborateEntries, h]
  | cons first rest ih =>
    rw [List.cons_append, List.cons_append, elaborateEntries, elaborateEntries, ih]

/-- Properties become the same if the schema of one of them does. -/
theorem elaborateProperties_append_cons_congr {front back : Members} {name : String}
    (hrequired : required? raw' = required? raw) (h : elaborate base raw' = elaborate base raw) :
    elaborateProperties base (front ++ (name, raw') :: back)
      = elaborateProperties base (front ++ (name, raw) :: back) := by
  induction front with
  | nil =>
    rw [List.nil_append, List.nil_append, elaborateProperties, elaborateProperties, hrequired, h]
  | cons first rest ih =>
    rw [List.cons_append, List.cons_append, elaborateProperties, elaborateProperties, ih]

/-- An object becomes the same if its parts do. -/
theorem elaborate_object_congr (href : members.get? "$ref" = none)
    (htype : members.get? "type" = some (.string "object")) {key : String} {v : Json}
    (hkey : "$ref" ≠ key ∧ "type" ≠ key)
    (hadditional : elaborateAdditional base (members.insert key v)
      = elaborateAdditional base members)
    (hdeclared : elaborateDeclared base (members.insert key v) = elaborateDeclared base members) :
    elaborate base (.object (members.insert key v)) = elaborate base (.object members) := by
  rw [elaborate_of_object href htype, elaborate_of_object
    ((Members.get?_insert_of_ne v hkey.1).trans href)
    ((Members.get?_insert_of_ne v hkey.2).trans htype), elaborateObject, elaborateObject,
    hadditional, hdeclared]

end Node

open Node in
/-- A schema becomes the same after a change that leaves the order of properties as it is. -/
theorem Json.Edit.elaborate_eq {declared : Bool} {raw raw' : Json}
    (h : Edit false declared raw raw') (base : Url) : elaborate base raw' = elaborate base raw := by
  induction h with
  | order hnames h => exact elaborate_of_perm hnames h
  | add h => exact elaborate_of_added h
  | remove h => exact (elaborate_of_added h).symm
  | orderProperties hfree => cases hfree
  | alternative href htype h ih =>
    obtain ⟨⟨nested, rfl⟩, nested', rfl⟩ := h.exists_object
    rw [elaborate_of_union href htype, elaborate_of_union
      ((Members.get?_insert_of_ne _ (by decide)).trans href) (Members.get?_insert_self _ _ _),
      elaborateEntries_append_cons_congr]
    rw [elaborateEntry, elaborateEntry, ih]
  | property href htype hproperties h ih =>
    refine elaborate_object_congr href htype (by decide)
      (elaborateAdditional_congr (Members.get?_insert_of_ne _ (by decide)).symm fun _ _ => rfl) ?_
    rw [elaborateDeclared.eq_def, Members.get?_insert_self, elaborateDeclared.eq_def, hproperties]
    exact elaborateProperties_append_cons_congr h.required?_eq ih
  | additional href htype hadditional h ih =>
    obtain ⟨⟨nested, rfl⟩, nested', rfl⟩ := h.exists_object
    refine elaborate_object_congr href htype (by decide) ?_
      (elaborateDeclared_congr (Members.get?_insert_of_ne _ (by decide)).symm fun _ _ => rfl)
    rw [elaborateAdditional.eq_def, Members.get?_insert_self, elaborateAdditional.eq_def,
      hadditional]
    simp only [ih]
  | items href htype hitems h ih =>
    obtain ⟨⟨nested, rfl⟩, nested', rfl⟩ := h.exists_object
    rw [elaborate_of_array href htype, elaborate_of_array
      ((Members.get?_insert_of_ne _ (by decide)).trans href)
      ((Members.get?_insert_of_ne _ (by decide)).trans htype), elaborateArray, elaborateArray]
    rw [elaborateItems.eq_def, Members.get?_insert_self, elaborateItems.eq_def, hitems]
    simp only [ih, countKeyword?, Members.get?_insert_of_ne _ (by decide : "minItems" ≠ "items"),
      Members.get?_insert_of_ne _ (by decide : "maxItems" ≠ "items")]

end DraftSchema
