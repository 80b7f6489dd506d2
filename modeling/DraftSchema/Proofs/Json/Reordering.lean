import DraftSchema.Json.Reader
import Mathlib.Data.List.Forall2

/-!
# `DraftSchema.Proofs.Json.Reordering`: values up to the order of members

`Json.Reordered` relates two values that differ in the order of the members of objects
only, at any depth. It makes sense of values in which every object has every name once
(`Json.NamesOnce`), because of members with one name only the first is found. The theorems:

* `namesOnce_of_parse?`: every value that is read from a text has every name once.
* `NamesOnce.of_reordered`: it still does in another order.
* `Members.get?_of_perm`: a member is found at any place.
* `Reordered.elements` and `Reordered.values`: parts may be reordered all at once.
-/

set_option autoImplicit false

namespace DraftSchema.Json

/-! ### Names -/

/-- Every object in the value has every name once. -/
inductive NamesOnce : Json → Prop where
  | null : NamesOnce .null
  | bool (b : Bool) : NamesOnce (.bool b)
  | number (n : Number) : NamesOnce (.number n)
  | string (s : String) : NamesOnce (.string s)
  | array {elements : List Json} (helements : ∀ v ∈ elements, NamesOnce v) :
      NamesOnce (.array elements)
  | object {members : Members} (hnames : (members.map (·.1)).Nodup)
      (hvalues : ∀ m ∈ members, NamesOnce m.2) : NamesOnce (.object members)

namespace Members

/-- Of the members of an object that has every name once each one is found by its name. -/
theorem get?_eq_some_iff_mem {members : Members} (h : (members.map (·.1)).Nodup) {name : String}
    {v : Json} : members.get? name = some v ↔ (name, v) ∈ members := by
  induction members with
  | nil => simp [get?]
  | cons m rest ih =>
    obtain ⟨n, w⟩ := m
    rw [List.map_cons, List.nodup_cons] at h
    obtain ⟨hfresh, hrest⟩ := h
    rw [get?, List.lookup_cons, List.mem_cons]
    by_cases heq : name = n
    · subst heq
      have hother : (name, v) ∉ rest := fun hmem => hfresh (List.mem_map_of_mem (f := (·.1)) hmem)
      simp [hother, eq_comm]
    · have hstep := ih hrest
      rw [get?] at hstep
      simp [heq, beq_eq_false_iff_ne.mpr heq, hstep]

/-- A member is found at any place. -/
theorem get?_of_perm {ms ns : Members} (h : ms.Perm ns) (hnames : (ms.map (·.1)).Nodup)
    (name : String) : ms.get? name = ns.get? name := by
  have hnames' : (ns.map (·.1)).Nodup := (h.map _).nodup_iff.mp hnames
  refine Option.ext fun v => ?_
  rw [get?_eq_some_iff_mem hnames, get?_eq_some_iff_mem hnames', h.mem_iff]

/-- Another value for a member, wherever it stands, makes no difference to other names. -/
theorem get?_append_cons_of_ne {before after : Members} {n name : String} {v : Json}
    (h : name ≠ n) :
    get? (before ++ (n, v) :: after) name = get? (before ++ after) name := by
  induction before with
  | nil => simp [get?, List.lookup_cons, beq_eq_false_iff_ne.mpr h]
  | cons m rest ih =>
    obtain ⟨k, w⟩ := m
    simp only [get?] at ih
    simp only [get?, List.cons_append, List.lookup_cons, ih]

/-! #### Reading -/

/-- Setting a member adds its name where it is new. -/
theorem mem_names_insert {members : Members} {name n : String} {v : Json} :
    n ∈ (members.insert name v).map (·.1) ↔ n ∈ members.map (·.1) ∨ n = name := by
  induction members with
  | nil => simp [insert]
  | cons m rest ih =>
    obtain ⟨k, w⟩ := m
    rw [insert]
    split
    · rename_i heq
      subst heq
      simp only [List.map_cons, List.mem_cons]
      grind
    · simp only [List.map_cons, List.mem_cons, ih, or_assoc]

/-- Setting a member repeats no name. -/
theorem nodup_names_insert {members : Members} (h : (members.map (·.1)).Nodup) (name : String)
    (v : Json) : ((members.insert name v).map (·.1)).Nodup := by
  induction members with
  | nil => simp [insert]
  | cons m rest ih =>
    obtain ⟨k, w⟩ := m
    rw [List.map_cons, List.nodup_cons] at h
    rw [insert]
    split
    · rw [List.map_cons, List.nodup_cons]
      exact h
    · rename_i hne
      rw [List.map_cons, List.nodup_cons, mem_names_insert]
      exact ⟨fun hmem => hmem.elim h.1 hne, ih h.2⟩

/-- Setting a member brings in no other value. -/
theorem forall_mem_insert {members : Members} {P : Json → Prop} (h : ∀ m ∈ members, P m.2)
    (name : String) {v : Json} (hv : P v) : ∀ m ∈ members.insert name v, P m.2 := by
  induction members with
  | nil => simpa [insert] using hv
  | cons m rest ih =>
    obtain ⟨k, w⟩ := m
    rw [List.forall_mem_cons] at h
    rw [insert]
    split
    · exact List.forall_mem_cons.mpr ⟨hv, h.2⟩
    · exact List.forall_mem_cons.mpr ⟨h.1, ih h.2⟩

end Members

mutual

/-- What is written stands for a value that has every name once. -/
theorem namesOnce_of_value? : ∀ {w : Written} {v : Json}, w.value? = some v → v.NamesOnce
  | .null, v, h => by
    cases h
    exact .null
  | .bool b, v, h => by
    cases h
    exact .bool b
  | .number n, v, h => by
    cases h
    exact .number n
  | .string units, v, h => by
    obtain ⟨cs, -, rfl⟩ := Option.map_eq_some_iff.mp h
    exact .string _
  | .array elements, v, h => by
    obtain ⟨vs, hvs, rfl⟩ := Option.map_eq_some_iff.mp h
    exact .array (namesOnce_of_elementValues? hvs)
  | .object members, v, h => by
    rw [Written.value?] at h
    split at h
    · obtain ⟨n, -, rfl⟩ := Option.map_eq_some_iff.mp h
      exact .number n
    · obtain ⟨ms, hms, rfl⟩ := Option.map_eq_some_iff.mp h
      exact namesOnce_of_memberValues? (.object (by simp) (by simp)) hms

/-- So do the elements of an array. -/
theorem namesOnce_of_elementValues? : ∀ {ws : List Written} {vs : List Json},
    Written.elementValues? ws = some vs → ∀ v ∈ vs, v.NamesOnce
  | [], vs, h => by
    cases h
    simp
  | w :: rest, vs, h => by
    simp only [Written.elementValues?, Option.bind_eq_bind, Option.bind_eq_some_iff] at h
    obtain ⟨v, hv, vs', hvs', h⟩ := h
    cases h
    exact List.forall_mem_cons.mpr ⟨namesOnce_of_value? hv, namesOnce_of_elementValues? hvs'⟩

/-- Members that are set one after the other keep the names apart. -/
theorem namesOnce_of_memberValues? : ∀ {ws : List (List TextUnit × Written)} {before ms : Members},
    (Json.object before).NamesOnce → Written.memberValues? ws before = some ms →
      (Json.object ms).NamesOnce
  | [], before, ms, hbefore, h => by
    cases h
    exact hbefore
  | (units, w) :: rest, before, ms, hbefore, h => by
    simp only [Written.memberValues?, Option.bind_eq_bind, Option.bind_eq_some_iff] at h
    obtain ⟨name, -, v, hv, h⟩ := h
    cases hbefore with
    | object hnames hvalues =>
      refine namesOnce_of_memberValues? (.object ?_ ?_) h
      · exact Members.nodup_names_insert hnames _ v
      · exact Members.forall_mem_insert hvalues _ (namesOnce_of_value? hv)

end

/-- A value that is read from a text has every name once, whatever names the text repeats. -/
theorem namesOnce_of_parse? {text : String} {v : Json} (h : parse? text = some v) :
    v.NamesOnce := by
  simp only [parse?, Option.bind_eq_bind, Option.bind_eq_some_iff] at h
  obtain ⟨tokens, -, w, -, hvalue⟩ := h
  exact namesOnce_of_value? hvalue

/-! ### Orders -/

/-- The values differ in the order of the members of objects only, at any depth. -/
inductive Reordered : Json → Json → Prop where
  | refl (v : Json) : Reordered v v
  | trans {u v w : Json} (huv : Reordered u v) (hvw : Reordered v w) : Reordered u w
  /-- The members of one object in another order. -/
  | members {ms ns : Members} (h : ms.Perm ns) : Reordered (.object ms) (.object ns)
  /-- A member of an object with its parts in another order. -/
  | member (before after : Members) (name : String) {v w : Json} (h : Reordered v w) :
      Reordered (.object (before ++ (name, v) :: after)) (.object (before ++ (name, w) :: after))
  /-- An element of an array with its parts in another order. -/
  | element (before after : List Json) {v w : Json} (h : Reordered v w) :
      Reordered (.array (before ++ v :: after)) (.array (before ++ w :: after))

/-- A value that has every name once has every name once in another order, too. -/
theorem NamesOnce.of_reordered {v w : Json} (hv : v.NamesOnce)
    (h : v.Reordered w) : w.NamesOnce := by
  induction h with
  | refl v => exact hv
  | trans _ _ ihuv ihvw => exact ihvw (ihuv hv)
  | members h =>
    cases hv with
    | object hnames hvalues =>
      exact .object ((h.map _).nodup_iff.mp hnames) fun m hm => hvalues m (h.mem_iff.mpr hm)
  | member before after name h ih =>
    cases hv with
    | object hnames hvalues =>
      refine .object ?_ fun m hm => ?_
      · simpa using hnames
      · rcases List.mem_append.mp hm with hm | hm
        · exact hvalues m (List.mem_append_left _ hm)
        · rcases List.mem_cons.mp hm with rfl | hm
          · exact ih (hvalues (name, _) (by simp))
          · exact hvalues m (by simp [hm])
  | element before after h ih =>
    cases hv with
    | array helements =>
      refine .array fun u hu => ?_
      rcases List.mem_append.mp hu with hu | hu
      · exact helements u (List.mem_append_left _ hu)
      · rcases List.mem_cons.mp hu with rfl | hu
        · exact ih (helements _ (by simp))
        · exact helements u (by simp [hu])

namespace Reordered

/-- All elements of an array may be reordered at once. -/
theorem elements {vs ws : List Json} (h : List.Forall₂ Reordered vs ws) :
    Reordered (.array vs) (.array ws) := by
  suffices hall : ∀ before, Reordered (.array (before ++ vs)) (.array (before ++ ws)) from hall []
  -- The elements before one are those that were reordered already.
  induction h with
  | nil => exact fun before => .refl _
  | @cons v w vs ws hvw _ ih =>
    intro before
    refine (element before vs hvw).trans ?_
    have hrest := ih (before ++ [w])
    rwa [List.append_assoc, List.append_assoc] at hrest

/-- All values in an object may be reordered at once. -/
theorem values {ms ns : Members}
    (h : List.Forall₂ (fun m n => m.1 = n.1 ∧ Reordered m.2 n.2) ms ns) :
    Reordered (.object ms) (.object ns) := by
  suffices hall : ∀ before, Reordered (.object (before ++ ms)) (.object (before ++ ns)) from hall []
  induction h with
  | nil => exact fun before => .refl _
  | @cons m n ms ns hmn _ ih =>
    obtain ⟨name, v⟩ := m
    obtain ⟨name', w⟩ := n
    obtain ⟨rfl, hvw⟩ := hmn
    intro before
    refine (member before ms name hvw).trans ?_
    have hrest := ih (before ++ [(name, w)])
    rwa [List.append_assoc, List.append_assoc] at hrest

end Reordered
end DraftSchema.Json
