import DraftSchema.Proofs.Language.Edits

/-!
# `DraftSchema.Proofs.Language.Reordering`: declared properties in another order

`Node.Reordered` relates two nodes that differ in the order of declared properties only, at any
depth. Such nodes refer to the same locations. The theorems:

* `Node.elaborateProperties_of_perm`: properties follow their declarations.
* `Json.Edit.alike`: where the order of declared properties is free, a schema has a node after a
  change exactly if it had one before, and the two nodes differ in the order of properties only.
-/

set_option autoImplicit false

namespace DraftSchema

namespace Node

open Elaboration (result_both_iff)
open Json (Members)

/-! ### Nodes -/

/-- The nodes differ in the order of declared properties only, at any depth. -/
inductive Reordered : Node → Node → Prop where
  | refl (n : Node) : Reordered n n
  | trans {n m k : Node} (hnm : Reordered n m) (hmk : Reordered m k) : Reordered n k
  /-- The properties of one object in another order. -/
  | properties {ps qs : List (Property Node)} (h : ps.Perm qs) (additional : Additional Node) :
      Reordered (.object ps additional) (.object qs additional)
  | property (front back : List (Property Node)) (name : String) (required : Bool)
      (additional : Additional Node) {n m : Node} (h : Reordered n m) :
      Reordered (.object (front ++ ⟨name, required, n⟩ :: back) additional)
        (.object (front ++ ⟨name, required, m⟩ :: back) additional)
  | additional (ps : List (Property Node)) {n m : Node} (h : Reordered n m) :
      Reordered (.object ps (.schema n)) (.object ps (.schema m))
  | items (minItems maxItems : Nat) {n m : Node} (h : Reordered n m) :
      Reordered (.array n minItems maxItems) (.array m minItems maxItems)
  | member (front back : List Node) {n m : Node} (h : Reordered n m) :
      Reordered (.union (front ++ n :: back)) (.union (front ++ m :: back))

namespace Reordered

variable {n m : Node} {u : Url}

theorem symm (h : Reordered n m) : Reordered m n := by
  induction h with
  | refl n => exact .refl n
  | trans _ _ ihnm ihmk => exact ihmk.trans ihnm
  | properties h additional => exact .properties h.symm additional
  | property front back name required additional _ ih =>
    exact .property front back name required additional ih
  | additional ps _ ih => exact .additional ps ih
  | items minItems maxItems _ ih => exact .items minItems maxItems ih
  | member front back _ ih => exact .member front back ih

/-- The nodes refer to the same locations. -/
theorem mem_references_iff (h : Reordered n m) : u ∈ n.references ↔ u ∈ m.references := by
  induction h with
  | refl n => exact Iff.rfl
  | trans _ _ ihnm ihmk => exact ihnm.trans ihmk
  | properties h additional => simp [references, h.mem_iff]
  | property front back name required additional _ ih =>
    simp [references, or_and_right, exists_or, ih]
  | additional ps _ ih => simp [references, additionalReferences, ih]
  | items minItems maxItems _ ih => exact ih
  | member front back _ ih => simp [references, or_and_right, exists_or, ih]

/-- They leave it to the same locations which types of values they accept. -/
theorem mem_gates_iff (h : Reordered n m) : u ∈ n.gates ↔ u ∈ m.gates := by
  induction h with
  | refl n => exact Iff.rfl
  | trans _ _ ihnm ihmk => exact ihnm.trans ihmk
  | properties | property | additional | items => exact Iff.rfl
  | member front back _ ih => simp [gates, or_and_right, exists_or, ih]

end Reordered

/-! ### Schemas -/

/-- Both values have a node or none has, and the nodes differ in the order of properties only. -/
structure Alike (base : Url) (raw raw' : Json) : Prop where
  onward : ∀ n, (elaborate base raw).result = .ok n →
    ∃ n', (elaborate base raw').result = .ok n' ∧ n.Reordered n'
  back : ∀ n', (elaborate base raw').result = .ok n' →
    ∃ n, (elaborate base raw).result = .ok n ∧ n.Reordered n'

variable {base : Url} {members : Json.Members} {raw raw' : Json}

theorem Alike.of_eq (h : elaborate base raw' = elaborate base raw) : Alike base raw raw' :=
  ⟨fun n hn => ⟨n, h ▸ hn, .refl n⟩, fun n hn => ⟨n, h ▸ hn, .refl n⟩⟩

theorem Alike.trans {raw'' : Json} (h : Alike base raw raw') (h' : Alike base raw' raw'') :
    Alike base raw raw'' where
  onward n hn := by
    obtain ⟨n', hn', hreordered⟩ := h.onward n hn
    obtain ⟨n'', hn'', hreordered'⟩ := h'.onward n' hn'
    exact ⟨n'', hn'', hreordered.trans hreordered'⟩
  back n'' hn'' := by
    obtain ⟨n', hn', hreordered'⟩ := h'.back n'' hn''
    obtain ⟨n, hn, hreordered⟩ := h.back n' hn'
    exact ⟨n, hn, hreordered.trans hreordered'⟩

/-- Let the nodes of two schemas be made in the same way from those of a part. If the parts are
alike, so are the wholes. -/
theorem Alike.of_context {γ : Type} {Context : γ → Prop} {fill : γ → Node → Node}
    {sub sub' : Json} (hsub : Alike base sub sub')
    (hraw : ∀ n, (elaborate base raw).result = .ok n ↔
      ∃ c m, Context c ∧ (elaborate base sub).result = .ok m ∧ fill c m = n)
    (hraw' : ∀ n, (elaborate base raw').result = .ok n ↔
      ∃ c m, Context c ∧ (elaborate base sub').result = .ok m ∧ fill c m = n)
    (hfill : ∀ c {m m' : Node}, m.Reordered m' → (fill c m).Reordered (fill c m')) :
    Alike base raw raw' where
  onward n hn := by
    obtain ⟨c, m, hc, hm, rfl⟩ := (hraw n).mp hn
    obtain ⟨m', hm', hreordered⟩ := hsub.onward m hm
    exact ⟨_, (hraw' _).mpr ⟨c, m', hc, hm', rfl⟩, hfill c hreordered⟩
  back n' hn' := by
    obtain ⟨c, m', hc, hm', rfl⟩ := (hraw' n').mp hn'
    obtain ⟨m, hm, hreordered⟩ := hsub.back m' hm'
    exact ⟨_, (hraw _).mpr ⟨c, m, hc, hm, rfl⟩, hfill c hreordered⟩

/-- Properties follow their declarations. -/
theorem elaborateProperties_of_perm {entries entries' : Json.Members}
    {ps : List (Property Node)} (h : entries.Perm entries')
    (hps : (elaborateProperties base entries).result = .ok ps) :
    ∃ qs, (elaborateProperties base entries').result = .ok qs ∧ ps.Perm qs := by
  induction h generalizing ps with
  | nil => exact ⟨ps, hps, .refl ps⟩
  | cons entry _ ih =>
    obtain ⟨required, n, rest, hrequired, hn, hrest, rfl⟩ := elaborateProperties_cons_iff.mp hps
    obtain ⟨qs, hqs, hperm⟩ := ih hrest
    exact ⟨_, elaborateProperties_cons_iff.mpr ⟨required, n, qs, hrequired, hn, hqs, rfl⟩,
      hperm.cons _⟩
  | swap entry entry' =>
    obtain ⟨name, v⟩ := entry
    obtain ⟨name', v'⟩ := entry'
    obtain ⟨required', n', rest', hrequired', hn', hrest', rfl⟩ :=
      elaborateProperties_cons_iff.mp hps
    obtain ⟨required, n, rest, hrequired, hn, hrest, rfl⟩ :=
      elaborateProperties_cons_iff.mp hrest'
    exact ⟨⟨name, required, n⟩ :: ⟨name', required', n'⟩ :: rest,
      elaborateProperties_cons_iff.mpr ⟨required, n, _, hrequired, hn,
        elaborateProperties_cons_iff.mpr ⟨required', n', rest, hrequired', hn', hrest, rfl⟩, rfl⟩,
      .swap _ _ _⟩
  | trans _ _ ih ih' =>
    obtain ⟨qs, hqs, hperm⟩ := ih hps
    obtain ⟨qs', hqs', hperm'⟩ := ih' hqs
    exact ⟨qs', hqs', hperm.trans hperm'⟩

/-- The node of an object with properties. -/
theorem elaborate_properties_iff {entries : Json.Members} (href : members.get? "$ref" = none)
    (htype : members.get? "type" = some (.string "object"))
    (hproperties : members.get? "properties" = some (.object entries)) (n : Node) :
    (elaborate base (.object members)).result = .ok n ↔ ∃ additional ps,
      (elaborateAdditional base members).result = .ok additional ∧
      (elaborateProperties base entries).result = .ok ps ∧ .object ps additional = n := by
  have hdeclared : elaborateDeclared base members = elaborateProperties base entries := by
    rw [elaborateDeclared.eq_def, hproperties]
  rw [elaborate_of_object href htype, elaborateObject, result_both_iff, hdeclared]

/-- An object with its properties declared in another order. -/
theorem alike_of_perm {entries entries' : Json.Members} (href : members.get? "$ref" = none)
    (htype : members.get? "type" = some (.string "object"))
    (hproperties : members.get? "properties" = some (.object entries))
    (h : entries.Perm entries') :
    Alike base (.object members) (.object (members.insert "properties" (.object entries'))) := by
  let changed := members.insert "properties" (.object entries')
  have hwhole' := @elaborate_properties_iff base changed entries'
    ((Members.get?_insert_of_ne _ (by decide)).trans href)
    ((Members.get?_insert_of_ne _ (by decide)).trans htype) (Members.get?_insert_self _ _ _)
  have hadditional : members.get? "additionalProperties" = changed.get? "additionalProperties" :=
    (Members.get?_insert_of_ne _ (by decide)).symm
  rw [elaborateAdditional_congr hadditional fun _ _ => rfl] at hwhole'
  constructor
  · intro n hn
    obtain ⟨additional, ps, ha, hps, rfl⟩ :=
      (elaborate_properties_iff href htype hproperties n).mp hn
    obtain ⟨qs, hqs, hperm⟩ := elaborateProperties_of_perm h hps
    exact ⟨_, (hwhole' _).mpr ⟨additional, qs, ha, hqs, rfl⟩, .properties hperm additional⟩
  · intro n' hn'
    obtain ⟨additional, qs, ha, hqs, rfl⟩ := (hwhole' n').mp hn'
    obtain ⟨ps, hps, hperm⟩ := elaborateProperties_of_perm h.symm hqs
    exact ⟨_, (elaborate_properties_iff href htype hproperties _).mpr
      ⟨additional, ps, ha, hps, rfl⟩, .properties hperm.symm additional⟩

end Node

open Node in
/-- A schema has a node after a change exactly if it had one before. Where the order of declared
properties is free, the nodes may differ in it. -/
theorem Json.Edit.alike {free declared : Bool} {raw raw' : Json}
    (h : Edit free declared raw raw') (base : Url) : Alike base raw raw' := by
  induction h with
  | order hnames h => exact .of_eq (elaborate_of_perm hnames h)
  | add h => exact .of_eq (elaborate_of_added h)
  | remove h => exact .of_eq (elaborate_of_added h).symm
  | orderProperties _ href htype hproperties h => exact alike_of_perm href htype hproperties h
  | @alternative _ members front back _ _ href htype h ih =>
    obtain ⟨⟨nested, rfl⟩, nested', rfl⟩ := h.exists_object
    have hwhole' := @elaborate_union_iff base
      (members.insert "type" (.array (front ++ .object nested' :: back))) front back nested'
      ((Members.get?_insert_of_ne _ (by decide)).trans href) (Members.get?_insert_self _ _ _)
    exact ih.of_context (elaborate_union_iff href htype) hwhole' fun c _ _ h => .member c.1 c.2 h
  | @property _ members front back name _ raw' href htype hproperties h ih =>
    let changed := members.insert "properties" (.object (front ++ (name, raw') :: back))
    have hadditional : members.get? "additionalProperties"
        = changed.get? "additionalProperties" := (Members.get?_insert_of_ne _ (by decide)).symm
    have hwhole' := @elaborate_declared_iff base changed front back name raw'
      ((Members.get?_insert_of_ne _ (by decide)).trans href)
      ((Members.get?_insert_of_ne _ (by decide)).trans htype) (Members.get?_insert_self _ _ _)
    rw [h.required?_eq, elaborateAdditional_congr hadditional fun _ _ => rfl] at hwhole'
    exact ih.of_context (elaborate_declared_iff href htype hproperties) hwhole' fun c _ _ h =>
      .property c.front c.back c.name c.required c.additional h
  | @additional _ members _ _ href htype hadditional h ih =>
    obtain ⟨⟨nested, rfl⟩, nested', rfl⟩ := h.exists_object
    let changed := members.insert "additionalProperties" (.object nested')
    have hproperties : members.get? "properties" = changed.get? "properties" :=
      (Members.get?_insert_of_ne _ (by decide)).symm
    have hwhole' := @elaborate_additional_iff base changed nested'
      ((Members.get?_insert_of_ne _ (by decide)).trans href)
      ((Members.get?_insert_of_ne _ (by decide)).trans htype) (Members.get?_insert_self _ _ _)
    rw [elaborateDeclared_congr hproperties fun _ _ => rfl] at hwhole'
    exact ih.of_context (elaborate_additional_iff href htype hadditional) hwhole' fun c _ _ h =>
      .additional c h
  | @items _ members _ _ href htype hitems h ih =>
    obtain ⟨⟨nested, rfl⟩, nested', rfl⟩ := h.exists_object
    have hwhole' := @elaborate_items_iff base (members.insert "items" (.object nested')) nested'
      ((Members.get?_insert_of_ne _ (by decide)).trans href)
      ((Members.get?_insert_of_ne _ (by decide)).trans htype) (Members.get?_insert_self _ _ _)
    simp only [countKeyword?, Members.get?_insert_of_ne _ (by decide : "minItems" ≠ "items"),
      Members.get?_insert_of_ne _ (by decide : "maxItems" ≠ "items")] at hwhole'
    exact ih.of_context (elaborate_items_iff href htype hitems) hwhole' fun c _ _ h =>
      .items _ _ h

end DraftSchema
