import DraftSchema.Json.Equality
import DraftSchema.Proofs.Decimal.Value
import DraftSchema.Proofs.Json.Reordering

/-!
# `DraftSchema.Proofs.Json.Canonical`: what two equal values have in common

A value has a canonical form (`Json.canonical`), in which a number is the rational number that
it spells and an object is a function from names to what stands under them, so that neither
the spelling of numbers nor the order of members is left. A literal that spells no decimal
stays as it is written.

Values are compared without these forms, and objects by a count and one inclusion: as many
members, and every member of the first one in the second one. That is enough because every
name stands once (`Json.NamesOnce`), as in every value that is read from a text. The theorems:

* `Number.sameValue_iff`: two literals are the same exactly if they have one form.
* `Members.keys_perm_of_subset`: the count turns the inclusion of names around.
* `sameValue_iff_canonical`: two values are the same exactly if they have one form.
-/

set_option autoImplicit false

namespace DraftSchema.Json

/-! ### Canonical forms -/

/-- A value without the spelling of numbers and without the order of members. -/
inductive Canonical where
  | null
  | bool (value : Bool)
  /-- A number, or a literal that spells no decimal. -/
  | number (value : ℚ ⊕ Number)
  | string (value : String)
  | array (elements : List Canonical)
  | object (members : String → Option Canonical)

/-- The number that a literal spells, or the literal if it spells no decimal. -/
def Number.canonical (n : Number) : ℚ ⊕ Number :=
  match Decimal.ofNumber? n with
  | some d => .inl d.value
  | none => .inr n

mutual

/-- The canonical form of a value. -/
def canonical : Json → Canonical
  | .null => .null
  | .bool b => .bool b
  | .number n => .number n.canonical
  | .string s => .string s
  | .array vs => .array (canonicalElements vs)
  | .object ms => .object (canonicalMembers ms)

/-- The canonical forms of the elements of an array. -/
def canonicalElements : List Json → List Canonical
  | [] => []
  | v :: vs => v.canonical :: canonicalElements vs

/-- The canonical forms of the members of an object, by their names. -/
def canonicalMembers : List (String × Json) → String → Option Canonical
  | [], _ => none
  | (n, v) :: ms, name => if name = n then some v.canonical else canonicalMembers ms name

end

/-- Under a name stands the canonical form of the member with that name. -/
theorem canonicalMembers_eq (members : Members) (name : String) :
    canonicalMembers members name = (members.get? name).map canonical := by
  induction members with
  | nil => rfl
  | cons m rest ih =>
    obtain ⟨n, v⟩ := m
    rw [canonicalMembers, Members.get?_cons, ih]
    by_cases hname : name = n
    · rw [if_pos hname, if_pos hname, Option.map_some]
    · rw [if_neg hname, if_neg hname]

/-! ### Numbers -/

/-- Two literals spell the same number exactly if they have one canonical form. A literal that
spells a decimal is never the same as one that spells none. -/
theorem Number.sameValue_iff (m n : Number) :
    m.sameValue n = true ↔ m.canonical = n.canonical := by
  unfold sameValue canonical
  rcases hm : Decimal.ofNumber? m with _ | a
  · rcases hn : Decimal.ofNumber? n with _ | b
    · simp
    · have hne : m ≠ n := by
        intro heq
        rw [heq, hn] at hm
        cases hm
      simp [hne]
  · rcases hn : Decimal.ofNumber? n with _ | b
    · have hne : m ≠ n := by
        intro heq
        rw [heq, hn] at hm
        cases hm
      simp [hne]
    · simp [Decimal.sameValue_iff]

/-! ### Objects -/

namespace Members

/-- A member is found under a name exactly if the name is one of those of the object. -/
theorem exists_get?_iff {members : Members} {name : String} :
    (∃ v, members.get? name = some v) ↔ name ∈ members.map (·.1) := by
  induction members with
  | nil => simp [get?]
  | cons m rest ih =>
    obtain ⟨n, v⟩ := m
    rw [get?_cons, List.map_cons, List.mem_cons]
    by_cases hname : name = n
    · simp [hname]
    · simp [hname, ih]

/-- An object has no other names than those of a second one that has no more members, if all
names of the second one are among its own. -/
theorem keys_perm_of_subset {ms ns : Members} (hms : (ms.map (·.1)).Nodup)
    (hsubset : ms.map (·.1) ⊆ ns.map (·.1)) (hlength : ms.length = ns.length) :
    (ms.map (·.1)).Perm (ns.map (·.1)) := by
  have hsubperm : (ms.map (·.1)).Subperm (ns.map (·.1)) := List.subperm_of_subset hms hsubset
  refine hsubperm.perm_of_length_le ?_
  rw [List.length_map, List.length_map]
  exact Nat.le_of_eq hlength.symm

end Members

/-- Two objects that have every name once have the same members up to order exactly if they
have as many members and every member of the first one is in the second one. -/
theorem canonicalMembers_eq_iff {ms ns : Members} (hms : (ms.map (·.1)).Nodup)
    (hns : (ns.map (·.1)).Nodup) :
    canonicalMembers ms = canonicalMembers ns ↔
      ms.length = ns.length ∧
        ∀ m ∈ ms, ∃ w, ns.get? m.1 = some w ∧ m.2.canonical = w.canonical := by
  constructor
  · intro heq
    have hname : ∀ name, (ms.get? name).map canonical = (ns.get? name).map canonical := by
      intro name
      rw [← canonicalMembers_eq, ← canonicalMembers_eq, heq]
    have hkeys : ∀ name, name ∈ ms.map (·.1) ↔ name ∈ ns.map (·.1) := by
      intro name
      have hsome := congrArg Option.isSome (hname name)
      rw [Option.isSome_map, Option.isSome_map] at hsome
      rw [← Members.exists_get?_iff, ← Members.exists_get?_iff, ← Option.isSome_iff_exists, hsome,
        Option.isSome_iff_exists]
    have hperm : (ms.map (·.1)).Perm (ns.map (·.1)) :=
      (List.perm_ext_iff_of_nodup hms hns).mpr hkeys
    refine ⟨?_, ?_⟩
    · simpa using hperm.length_eq
    · intro m hm
      have hfound := (Members.get?_eq_some_iff_mem hms).mpr hm
      have hform := hname m.1
      rw [hfound, Option.map_some] at hform
      obtain ⟨w, hw, hcanonical⟩ := Option.map_eq_some_iff.mp hform.symm
      exact ⟨w, hw, hcanonical.symm⟩
  · rintro ⟨hlength, hincluded⟩
    have hsubset : ms.map (·.1) ⊆ ns.map (·.1) := by
      intro name hname
      obtain ⟨m, hm, rfl⟩ := List.mem_map.mp hname
      obtain ⟨w, hw, -⟩ := hincluded m hm
      exact Members.exists_get?_iff.mp ⟨w, hw⟩
    have hperm := Members.keys_perm_of_subset hms hsubset hlength
    funext name
    rw [canonicalMembers_eq, canonicalMembers_eq]
    rcases hfound : ms.get? name with _ | v
    · -- A name that the first object does not have is not among those of the second one.
      have hnone : ns.get? name = none := by
        rw [Option.eq_none_iff_forall_ne_some]
        intro w hw
        have hmem := hperm.mem_iff.mpr (Members.exists_get?_iff.mp ⟨w, hw⟩)
        obtain ⟨v, hv⟩ := Members.exists_get?_iff.mpr hmem
        rw [hfound] at hv
        cases hv
      rw [hnone]
    · obtain ⟨w, hw, hcanonical⟩ :=
        hincluded (name, v) ((Members.get?_eq_some_iff_mem hms).mp hfound)
      rw [hw, Option.map_some, Option.map_some, hcanonical]

/-! ### Values -/

mutual

/-- Two values are the same exactly if they have one canonical form. -/
theorem sameValue_iff_canonical : ∀ {v w : Json}, v.NamesOnce → w.NamesOnce →
    (v.sameValue w = true ↔ v.canonical = w.canonical)
  | .null, w, _, _ => by cases w <;> simp [sameValue, canonical]
  | .bool b, w, _, _ => by cases w <;> simp [sameValue, canonical]
  | .number m, w, _, _ => by cases w <;> simp [sameValue, canonical, Number.sameValue_iff]
  | .string s, w, _, _ => by cases w <;> simp [sameValue, canonical]
  | .array vs, w, hv, hw => by
    cases w with
    | array ws =>
      cases hv with
      | array hvs =>
        cases hw with
        | array hws =>
          rw [sameValue, canonical, canonical, Canonical.array.injEq]
          exact sameElements_iff_canonical hvs hws
    | _ => simp [sameValue, canonical]
  | .object ms, w, hv, hw => by
    cases w with
    | object ns =>
      cases hv with
      | object hnames hvalues =>
        cases hw with
        | object hnames' hvalues' =>
          rw [sameValue, canonical, canonical, Canonical.object.injEq,
            canonicalMembers_eq_iff hnames hnames', Bool.and_eq_true, decide_eq_true_iff,
            membersIn_iff_canonical hvalues hvalues']
    | _ => simp [sameValue, canonical]

/-- Lists hold the same values in the same places exactly if these have the same forms. -/
theorem sameElements_iff_canonical : ∀ {vs ws : List Json}, (∀ v ∈ vs, v.NamesOnce) →
    (∀ w ∈ ws, w.NamesOnce) →
      (sameElements vs ws = true ↔ canonicalElements vs = canonicalElements ws)
  | [], ws, _, _ => by cases ws <;> simp [sameElements, canonicalElements]
  | v :: vs, ws, hvs, hws => by
    cases ws with
    | nil => simp [sameElements, canonicalElements]
    | cons w ws =>
      rw [List.forall_mem_cons] at hvs hws
      rw [sameElements, canonicalElements, canonicalElements, List.cons.injEq, Bool.and_eq_true,
        sameValue_iff_canonical hvs.1 hws.1, sameElements_iff_canonical hvs.2 hws.2]

/-- Members are in an object exactly if there are members with their names and forms. -/
theorem membersIn_iff_canonical : ∀ {ms ns : Members}, (∀ m ∈ ms, m.2.NamesOnce) →
    (∀ n ∈ ns, n.2.NamesOnce) →
      (membersIn ms ns = true ↔
        ∀ m ∈ ms, ∃ w, ns.get? m.1 = some w ∧ m.2.canonical = w.canonical)
  | [], ns, _, _ => by simp [membersIn]
  | (name, v) :: ms, ns, hms, hns => by
    rw [List.forall_mem_cons] at hms
    rw [membersIn, Bool.and_eq_true, List.forall_mem_cons, membersIn_iff_canonical hms.2 hns]
    refine and_congr_left' ?_
    rcases hfound : ns.get? name with _ | w
    · simp
    · have hw : w.NamesOnce := hns (name, w) (Members.mem_of_get? hfound)
      simp [sameValue_iff_canonical hms.1 hw]

end

end DraftSchema.Json
