import DraftSchema.Scanner

/-!
# `DraftSchema.Proofs.Scanner`: what scanners take and what they leave

`Scanner.out` is what a scanner reads and the text that it leaves, without the proof that this
text is not longer. For each way to build a scanner there is a lemma that says when it comes out
with a value and a rest. The theorems:

* `out_bind_eq_some_iff`: one thing is read after another.
* `out_iterate`: a repetition makes a step and goes on, if the step took something.
* `run?_eq_some_iff`: a whole text is read if nothing is left.
* `Reads.run?_eq_some_iff`: a scanner of a language reads whole texts of the language.
-/

set_option autoImplicit false

namespace DraftSchema.Scanner

variable {α β σ : Type} {p : Scanner α} {cs rest : List Char} {a : α}

/-- What is read and what is left. -/
def out (p : Scanner α) (cs : List Char) : Option (α × List Char) :=
  (p cs).map fun x => (x.1, x.2.1)

/-- What is left is not longer. -/
theorem length_le_of_out (h : p.out cs = some (a, rest)) : rest.length ≤ cs.length := by
  obtain ⟨⟨b, tail⟩, -, heq⟩ := Option.map_eq_some_iff.mp h
  cases heq
  exact tail.2

/-- A whole text is read if nothing is left. -/
theorem run?_eq_some_iff : p.run? cs = some a ↔ p.out cs = some (a, []) := by
  unfold run? out
  rcases p cs with _ | ⟨b, ⟨_ | ⟨c, tail⟩, htail⟩⟩ <;> simp

/-! ### One after another -/

@[simp]
theorem out_pure : (pure a : Scanner α).out cs = some (a, cs) := rfl

theorem out_bind (f : α → Scanner β) :
    (p >>= f).out cs = (p.out cs).bind fun x => (f x.1).out x.2 := by
  show (Scanner.bind p f cs).map _ = ((p cs).map _).bind _
  unfold Scanner.bind
  rcases p cs with _ | ⟨a, mid⟩
  · rfl
  · simp only [Option.map_some, Option.bind_some, out]
    rcases f a mid.1 with _ | ⟨b, tail⟩ <;> rfl

theorem out_bind_eq_some_iff {f : α → Scanner β} {b : β} :
    (p >>= f).out cs = some (b, rest) ↔
      ∃ a mid, p.out cs = some (a, mid) ∧ (f a).out mid = some (b, rest) := by
  simp [out_bind, Option.bind_eq_some_iff]

/-! ### Conditions -/

@[simp]
theorem out_fail : (fail : Scanner α).out cs = none := rfl

@[simp]
theorem out_guard {condition : Bool} {u : Unit} :
    (guard condition).out cs = some (u, rest) ↔ condition ∧ cs = rest := by
  cases condition <;> simp [guard]

@[simp]
theorem out_guard_false : (guard false).out cs = none := rfl

@[simp]
theorem out_ofOption {o : Option α} :
    (ofOption o).out cs = some (a, rest) ↔ o = some a ∧ cs = rest := by
  cases o <;> simp [ofOption]

theorem out_ofOption_eq_map {o : Option α} :
    (ofOption o).out cs = o.map fun a => (a, cs) := by
  cases o <;> rfl

/-! ### Characters -/

@[simp]
theorem out_lookAhead : lookAhead.out cs = some (cs, cs) := rfl

@[simp]
theorem out_peek : peek.out cs = some (cs.head?, cs) := rfl

theorem out_lookAhead_bind {f : List Char → Scanner α} :
    (lookAhead >>= f).out cs = (f cs).out cs := by
  simp [out_bind]

theorem out_peek_bind {f : Option Char → Scanner α} :
    (peek >>= f).out cs = (f cs.head?).out cs := by
  simp [out_bind]

@[simp]
theorem out_next {c : Char} : next.out cs = some (c, rest) ↔ cs = c :: rest := by
  cases cs <;> simp [out, next]

@[simp]
theorem out_next_nil : next.out [] = none := rfl

@[simp]
theorem out_skip {n : Nat} : (skip n).out cs = some ((), cs.drop n) := rfl

@[simp]
theorem out_takeWhile {f : Char → Bool} :
    (takeWhile f).out cs = some (cs.takeWhile f, cs.dropWhile f) := rfl

@[simp]
theorem out_dropBy {f : List Char → List Char} {h : ∀ cs, (f cs).length ≤ cs.length} :
    (dropBy f h).out cs = some ((), f cs) := rfl

/-! ### Repetitions -/

/-- A step that asks for more and took something is followed by the others. -/
theorem out_iterate (step : σ → Scanner (σ ⊕ α)) (s : σ) :
    Scanner.out (iterate step s) cs = ((step s).out cs).bind fun x =>
      match x.1 with
      | .inr a => some (a, x.2)
      | .inl s' => if x.2.length < cs.length then Scanner.out (iterate step s') x.2 else none := by
  unfold out
  rw [iterate]
  rcases step s cs with _ | ⟨s' | a, rest⟩
  · rfl
  · simp only [Option.map_some, Option.bind_some]
    split
    · rcases iterate step s' rest.1 with _ | ⟨a, tail⟩ <;> rfl
    · rfl
  · rfl

/-! ### Languages -/

/-- The scanner takes texts of a language off the front, each for its value. Any of them is taken
with a rest behind it that may follow: a scanner that takes as much as it can would take more of
another rest. -/
structure Reads (p : Scanner α) (Text : List Char → α → Prop) (Follow : List Char → Prop) :
    Prop where
  sound : ∀ {cs rest a}, p.out cs = some (a, rest) → ∃ text, cs = text ++ rest ∧ Text text a
  complete : ∀ {text rest a}, Text text a → Follow rest → p.out (text ++ rest) = some (a, rest)

/-- A whole text is read for a value if it is one of the language. -/
theorem Reads.run?_eq_some_iff {Text : List Char → α → Prop} {Follow : List Char → Prop}
    (h : p.Reads Text Follow) (hend : Follow []) : p.run? cs = some a ↔ Text cs a := by
  rw [Scanner.run?_eq_some_iff]
  refine ⟨fun hout => ?_, fun htext => ?_⟩
  · obtain ⟨text, heq, htext⟩ := h.sound hout
    rwa [heq, List.append_nil]
  · have hout := h.complete htext hend
    rwa [List.append_nil] at hout

end DraftSchema.Scanner
