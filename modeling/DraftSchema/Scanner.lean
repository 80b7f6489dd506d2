/-!
# `DraftSchema.Scanner`: readers that only go forward

A scanner reads a value off the front of a text and returns what is left, which
is never longer than the text. Scanners form a monad. `Scanner.iterate` repeats
a step for as long as it asks for more; a step that asks for more must take at
least one character, so that the repetition ends.
-/

set_option autoImplicit false

namespace DraftSchema

/-- A reader of a prefix of a text. -/
def Scanner (α : Type) : Type :=
  (cs : List Char) → Option (α × { rest : List Char // rest.length ≤ cs.length })

namespace Scanner

variable {α β σ : Type}

/-- Reads nothing. -/
protected def pure (a : α) : Scanner α := fun cs => some (a, ⟨cs, Nat.le_refl _⟩)

/-- Reads one thing after another. -/
protected def bind (p : Scanner α) (f : α → Scanner β) : Scanner β := fun cs =>
  match p cs with
  | none => none
  | some (a, rest) =>
    match f a rest.1 with
    | none => none
    | some (b, tail) => some (b, ⟨tail.1, Nat.le_trans tail.2 rest.2⟩)

instance : Monad Scanner where
  pure := Scanner.pure
  bind := Scanner.bind

/-- Refuses the text. -/
def fail : Scanner α := fun _ => none

/-- Refuses the text unless the condition holds. -/
def guard (condition : Bool) : Scanner Unit := if condition then pure () else fail

/-- Passes on a value that is present and refuses the text otherwise. -/
def ofOption : Option α → Scanner α
  | some a => pure a
  | none => fail

/-- What is left of the text, without taking any of it. -/
def lookAhead : Scanner (List Char) := fun cs => some (cs, ⟨cs, Nat.le_refl _⟩)

/-- The next character, if there is one, without taking it. -/
def peek : Scanner (Option Char) := do return (← lookAhead).head?

/-- Takes the next character. -/
def next : Scanner Char := fun cs =>
  match cs with
  | [] => none
  | c :: rest => some (c, ⟨rest, Nat.le_succ _⟩)

/-- Takes the next `n` characters, or all if there are fewer. -/
def skip (n : Nat) : Scanner Unit := fun cs =>
  some ((), ⟨cs.drop n, by simp⟩)

/-- Takes `text` if it comes next, and tells whether it did. -/
def accept (text : List Char) : Scanner Bool := do
  if text.isPrefixOf (← lookAhead) then
    skip text.length
    return true
  else return false

/-- Takes the longest run of characters with a property. -/
def takeWhile (p : Char → Bool) : Scanner (List Char) := fun cs =>
  some (cs.takeWhile p, ⟨cs.dropWhile p, (List.dropWhile_sublist p).length_le⟩)

/-- Takes characters by a function that drops some from the front. -/
def dropBy (f : List Char → List Char) (h : ∀ cs, (f cs).length ≤ cs.length) : Scanner Unit :=
  fun cs => some ((), ⟨f cs, h cs⟩)

/-- Repeats a step until it answers. -/
def iterate (step : σ → Scanner (σ ⊕ α)) (s : σ) (cs : List Char) :
    Option (α × { rest : List Char // rest.length ≤ cs.length }) :=
  match step s cs with
  | none => none
  | some (.inr a, rest) => some (a, rest)
  | some (.inl s, rest) =>
    if _h : rest.1.length < cs.length then
      match iterate step s rest.1 with
      | none => none
      | some (a, tail) => some (a, ⟨tail.1, Nat.le_trans tail.2 rest.2⟩)
    else none
termination_by cs.length

/-- The value that a scanner reads from a whole text. -/
def run? (p : Scanner α) (cs : List Char) : Option α :=
  match p cs with
  | some (a, ⟨[], _⟩) => some a
  | _ => none

end Scanner
end DraftSchema
