import DraftSchema.Violation

/-!
# `DraftSchema.Proofs.Validation.Paths`: paths into a value and their texts

A path leads from a value to a part of it, by names of members and indices of elements. A
violation has the text of such a path (`Json.Path.text`), which is made from the end of the
path to its start: an index attaches by itself and a name with a dot, unless it comes first.
The theorems:

* `Step.chars_append_inj`: where a step with a plain name ends can be seen from what follows.
* `Path.text_injective`: a path with plain names is known from its text.
-/

set_option autoImplicit false

namespace DraftSchema

namespace Json

/-- A step from a value to a part of it: to the member of an object or the element of an
array. -/
inductive Step where
  | name (name : String)
  | index (index : Nat)
deriving DecidableEq, Repr

/-- The steps from a value to a part of it, from the outside to the inside. -/
abbrev Path := List Step

/-- How a step is written. -/
def Step.text : Step → String
  | name n => n
  | index i => s!"[{i}]"

/-- The text of a path: that of a violation of the whole part, seen from the value. -/
def Path.text : Path → String
  | [] => ""
  | step :: rest => ((Violation.mk (Path.text rest) "").within step.text).location

/-- A name that can be told from what stands around it in a path. -/
structure IsPlainName (name : String) : Prop where
  nonempty : name ≠ ""
  noDot : '.' ∉ name.toList
  noBracket : '[' ∉ name.toList

/-- The names in a path are plain. -/
def Path.Plain (path : Path) : Prop := ∀ name, .name name ∈ path → IsPlainName name

/-- The path leads from the first value to the second one. -/
inductive Leads : Json → Path → Json → Prop where
  | here (value : Json) : Leads value [] value
  | member {members : Members} {name : String} {value part : Json} {path : Path}
      (hmem : (name, value) ∈ members) (h : Leads value path part) :
      Leads (.object members) (.name name :: path) part
  | element {elements : List Json} {index : Nat} {value part : Json} {path : Path}
      (hindex : elements[index]? = some value) (h : Leads value path part) :
      Leads (.array elements) (.index index :: path) part

/-! ### Places in a document -/

/-- An object in the document has a member with the name. -/
def HasName (document : Json) (name : String) : Prop :=
  ∃ path members value, document.Leads path (.object members) ∧ (name, value) ∈ members

/-- The path leads to where an object in the document lacks the member with the name. -/
def Lacks (document : Json) (path : Path) (name : String) : Prop :=
  ∃ front, ∃ members : Members, path = front ++ [.name name] ∧
    document.Leads front (.object members) ∧ members.get? name = none

/-- A step more at the start of a path. -/
theorem Lacks.cons {document part : Json} {step : Step}
    (hstep : ∀ {path : Path} {inner : Json}, part.Leads path inner →
      document.Leads (step :: path) inner) {path : Path} {name : String}
    (h : part.Lacks path name) : document.Lacks (step :: path) name := by
  obtain ⟨front, members, rfl, hleads, hnone⟩ := h
  exact ⟨step :: front, members, rfl, hstep hleads, hnone⟩

/-- A name on the way to a part of a document is a name in the document. -/
theorem Leads.hasName {document part : Json} {path : Path} (h : document.Leads path part)
    {name : String} (hname : .name name ∈ path) : document.HasName name := by
  induction h with
  | here value => cases hname
  | @member members first value part path hmem h ih =>
    rcases List.mem_cons.mp hname with heq | hrest
    · obtain rfl : name = first := Step.name.inj heq
      exact ⟨[], members, value, .here _, hmem⟩
    · obtain ⟨path, inner, found, hleads, hfound⟩ := ih hrest
      exact ⟨_, inner, found, .member hmem hleads, hfound⟩
  | @element elements index value part path hindex h ih =>
    rcases List.mem_cons.mp hname with heq | hrest
    · cases heq
    · obtain ⟨path, inner, found, hleads, hfound⟩ := ih hrest
      exact ⟨_, inner, found, .element hindex hleads, hfound⟩

/-! ### Texts as lists of characters -/

/-- A text behind the text of a step, with a dot in between if there has to be one. -/
def attached : List Char → List Char
  | [] => []
  | c :: rest => if c = '[' then c :: rest else '.' :: c :: rest

theorem toList_separator_append (s : String) :
    (Violation.separator s ++ s).toList = attached s.toList := by
  unfold Violation.separator
  rcases h : s.toList with _ | ⟨c, rest⟩
  · simp [attached, h]
  · simp only [attached, String.toList_append, h]
    split <;> rfl

theorem attached_cons (c : Char) (rest : List Char) :
    attached (c :: rest) = if c = '[' then c :: rest else '.' :: c :: rest := rfl

theorem attached_ne_nil {c : Char} {rest : List Char} : attached (c :: rest) ≠ [] := by
  rw [attached_cons]
  split <;> exact List.cons_ne_nil _ _

/-- The dot does not get lost, since an index does not start with one. -/
theorem attached_injective {x y : List Char} (h : attached x = attached y) : x = y := by
  rcases x with _ | ⟨c, x⟩ <;> rcases y with _ | ⟨d, y⟩
  · rfl
  · exact absurd h.symm attached_ne_nil
  · exact absurd h attached_ne_nil
  · rw [attached_cons, attached_cons] at h
    -- One of them with a dot in front and the other one without would start differently.
    by_cases hc : c = '[' <;> by_cases hd : d = '['
    · rwa [if_pos hc, if_pos hd] at h
    · rw [if_pos hc, if_neg hd, hc] at h
      exact absurd (List.cons.inj h).1 (by decide)
    · rw [if_neg hc, if_pos hd, hd] at h
      exact absurd (List.cons.inj h).1 (by decide)
    · rw [if_neg hc, if_neg hd] at h
      exact (List.cons.inj h).2

/-- What is attached starts with a dot or a bracket. -/
theorem head_attached {x : List Char} {c : Char} (h : (attached x).head? = some c) :
    c = '.' ∨ c = '[' := by
  rcases x with _ | ⟨d, x⟩
  · cases h
  · rw [attached_cons] at h
    by_cases hd : d = '['
    · rw [if_pos hd, List.head?_cons, Option.some_inj] at h
      exact .inr (h ▸ hd)
    · rw [if_neg hd, List.head?_cons, Option.some_inj] at h
      exact .inl h.symm

/-- The characters of a step. -/
def Step.chars : Step → List Char
  | name n => n.toList
  | index i => '[' :: (Nat.toDigits 10 i ++ [']'])

theorem Step.toList_text (step : Step) : step.text.toList = step.chars := by
  cases step with
  | name n => rfl
  | index i =>
    have htext : (Step.index i).text = "[" ++ i.repr ++ "]" := rfl
    rw [htext, String.toList_append, String.toList_append, Nat.toList_repr, List.append_assoc]
    rfl

theorem Path.toList_text_cons (step : Step) (rest : Path) :
    (Path.text (step :: rest)).toList = step.chars ++ attached (Path.text rest).toList := by
  have htext : Path.text (step :: rest)
      = step.text ++ (Violation.separator (Path.text rest) ++ Path.text rest) :=
    String.append_assoc
  rw [htext, String.toList_append, Step.toList_text, toList_separator_append]

/-! ### Reading a path -/

/-- Two ways to cut a text are the same if neither cuts before the first character of some
kind and both cut where one stands or at the end. -/
theorem append_inj_of_stop {P : Char → Prop} {a b x y : List Char} (ha : ∀ c ∈ a, P c)
    (hb : ∀ c ∈ b, P c) (hx : ∀ c, x.head? = some c → ¬ P c)
    (hy : ∀ c, y.head? = some c → ¬ P c) (h : a ++ x = b ++ y) : a = b ∧ x = y := by
  induction a generalizing b with
  | nil =>
    rcases b with _ | ⟨d, b⟩
    · exact ⟨rfl, h⟩
    · rw [List.nil_append] at h
      exact absurd (hb d List.mem_cons_self) (hx d (by simp [h]))
  | cons c a ih =>
    rcases b with _ | ⟨d, b⟩
    · rw [List.nil_append] at h
      exact absurd (ha c List.mem_cons_self) (hy c (by simp [← h]))
    · rw [List.cons_append, List.cons_append, List.cons.injEq] at h
      obtain ⟨rfl, h⟩ := h
      obtain ⟨rfl, hxy⟩ := ih (fun e he => ha e (List.mem_cons_of_mem _ he))
        (fun e he => hb e (List.mem_cons_of_mem _ he)) h
      exact ⟨rfl, hxy⟩

/-- The characters of a plain name are neither dots nor brackets. -/
theorem IsPlainName.not_mark {name : String} (h : IsPlainName name) :
    ∀ c ∈ name.toList, ¬ (c = '.' ∨ c = '[') := by
  rintro c hc (rfl | rfl)
  · exact h.noDot hc
  · exact h.noBracket hc

/-- No name that is plain is written like an index. -/
theorem IsPlainName.chars_append_ne {name : String} (h : IsPlainName name) (i : Nat)
    (x y : List Char) : (Step.name name).chars ++ x ≠ (Step.index i).chars ++ y := by
  intro heq
  have hne : name.toList ≠ [] := fun hnil => h.nonempty (String.toList_inj.mp hnil)
  obtain ⟨c, rest, hchars⟩ := List.exists_cons_of_ne_nil hne
  simp only [Step.chars, hchars, List.cons_append, List.cons.injEq] at heq
  refine h.not_mark c ?_ (.inr heq.1)
  rw [hchars]
  exact List.mem_cons_self

/-- A closing bracket ends the digits of an index. -/
theorem chars_index_append_inj {i j : Nat} {x y : List Char}
    (h : (Step.index i).chars ++ x = (Step.index j).chars ++ y) : i = j ∧ x = y := by
  have hdigit : ∀ k, ∀ c ∈ Nat.toDigits 10 k, c ≠ ']' := by
    rintro k c hc rfl
    have hisDigit := Nat.isDigit_of_mem_toDigits (by decide) (by decide) hc
    exact absurd hisDigit (by decide)
  simp only [Step.chars, List.cons_append, List.append_assoc, List.nil_append,
    List.cons.injEq, true_and] at h
  obtain ⟨hdigits, hrest⟩ :=
    append_inj_of_stop (P := (· ≠ ']')) (hdigit i) (hdigit j) (by simp) (by simp) h
  refine ⟨?_, (List.cons.inj hrest).2⟩
  calc i = Nat.ofDigitChars 10 (Nat.toDigits 10 i) 0 := Nat.ofDigitChars_ten_toDigits.symm
    _ = Nat.ofDigitChars 10 (Nat.toDigits 10 j) 0 := by rw [hdigits]
    _ = j := Nat.ofDigitChars_ten_toDigits

/-- A step and what is attached to it are known from the text that they make. -/
theorem Step.chars_append_inj {s t : Step} (hs : ∀ name, s = .name name → IsPlainName name)
    (ht : ∀ name, t = .name name → IsPlainName name) {x y : List Char}
    (h : s.chars ++ attached x = t.chars ++ attached y) : s = t ∧ x = y := by
  cases s with
  | name n =>
    cases t with
    | name m =>
      -- A name ends where the dot or the bracket of what is attached stands.
      obtain ⟨hname, hrest⟩ := append_inj_of_stop (P := fun c => ¬ (c = '.' ∨ c = '['))
        (hs n rfl).not_mark (ht m rfl).not_mark (fun c hc => not_not_intro (head_attached hc))
        (fun c hc => not_not_intro (head_attached hc)) h
      rw [String.toList_inj] at hname
      exact ⟨congrArg Step.name hname, attached_injective hrest⟩
    | index j => exact absurd h ((hs n rfl).chars_append_ne j _ _)
  | index i =>
    cases t with
    | name m => exact absurd h.symm ((ht m rfl).chars_append_ne i _ _)
    | index j =>
      obtain ⟨rfl, hrest⟩ := chars_index_append_inj h
      exact ⟨rfl, attached_injective hrest⟩

/-- A step of a path with plain names is written with some character. -/
theorem Path.text_cons_ne {step : Step} {rest : Path} (h : Path.Plain (step :: rest)) :
    Path.text (step :: rest) ≠ "" := by
  intro heq
  have hnil := Path.toList_text_cons step rest
  rw [heq, String.toList_empty] at hnil
  have hchars := (List.append_eq_nil_iff.mp hnil.symm).1
  cases step with
  | name n => exact (h n List.mem_cons_self).nonempty (String.toList_inj.mp hchars)
  | index i => cases hchars

/-- A path with plain names is known from its text. -/
theorem Path.text_injective {p q : Path} (hp : p.Plain) (hq : q.Plain)
    (h : p.text = q.text) : p = q := by
  induction p generalizing q with
  | nil =>
    rcases q with _ | ⟨t, q⟩
    · rfl
    · exact absurd h.symm (Path.text_cons_ne hq)
  | cons s p ih =>
    rcases q with _ | ⟨t, q⟩
    · exact absurd h (Path.text_cons_ne hp)
    · have hchars := congrArg String.toList h
      rw [Path.toList_text_cons, Path.toList_text_cons] at hchars
      obtain ⟨rfl, hrest⟩ := Step.chars_append_inj
        (fun n hn => hp n (hn ▸ List.mem_cons_self)) (fun n hn => hq n (hn ▸ List.mem_cons_self))
        hchars
      rw [ih (fun n hn => hp n (List.mem_cons_of_mem _ hn))
        (fun n hn => hq n (List.mem_cons_of_mem _ hn)) (String.toList_inj.mp hrest)]

end Json
end DraftSchema
