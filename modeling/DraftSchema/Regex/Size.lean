import DraftSchema.Regex

/-!
# `DraftSchema.Regex.Size`: how large an automaton an expression needs

An expression is refused when its automaton over UTF-8 bytes would take more
than ten mebibytes. A state takes 32 bytes, a transition of a state with several
takes eight and a branch of a choice four. A repetition repeats the states of
its body. A set beyond ASCII takes the states of a minimal automaton for the
encodings of its characters when it is read forward, and those of a tree when it
is read backward; the larger of the two automata counts.
-/

set_option autoImplicit false

namespace DraftSchema.Regex

open Unicode

/-- The bytes of one step of an encoding: from `first` to `last`. -/
abbrev ByteRange := Nat × Nat

/-- The lengths of encodings, as the last code points of each length. -/
def encodingEnds : List Nat := [0x7F, 0x7FF, 0xFFFF, 0x10FFFF]

/-- The bytes of the encoding of a code point. -/
def encoding (c : Nat) : List Nat :=
  if c < 0x80 then [c]
  else if c < 0x800 then [0xC0 + c / 64, 0x80 + c % 64]
  else if c < 0x10000 then [0xE0 + c / 4096, 0x80 + c / 64 % 64, 0x80 + c % 64]
  else [0xF0 + c / 262144, 0x80 + c / 4096 % 64, 0x80 + c / 64 % 64, 0x80 + c % 64]

/-- Cuts a range behind each of the given code points that lies in it. -/
def cutRange (r : Range) : List Nat → List Range
  | [] => [r]
  | n :: rest =>
    if r.first ≤ n ∧ n < r.last then ⟨r.first, n⟩ :: cutRange ⟨n + 1, r.last⟩ rest
    else cutRange r rest

/-- Cuts a range of encodings of one length into ranges whose bytes vary
independently: below `unit`, a range that spans several units starts and ends at
full ones. -/
def alignRange (unit : Nat) (r : Range) : List Range :=
  if r.first / unit = r.last / unit then [r]
  else
    let front := if r.first % unit = 0 then [] else [(r.first / unit + 1) * unit - 1]
    let back := if (r.last + 1) % unit = 0 then [] else [r.last / unit * unit - 1]
    cutRange r (front ++ back)

/-- The sequences of byte ranges that make up the encodings of a range. -/
def byteSequences (r : Range) : List (List ByteRange) :=
  let whole := cutRange r (0xD7FF :: 0xDFFF :: encodingEnds).mergeSort
  -- Surrogates have no encoding.
  let kept := whole.filter fun r => r.last < 0xD800 || 0xDFFF < r.first
  let aligned := [262144, 4096, 64].foldl (fun rs size => rs.flatMap (alignRange size)) kept
  aligned.map fun r => (encoding r.first).zip (encoding r.last)

/-- Counts the states and transitions of a minimal automaton, by the sets of
sequences that follow each state; `depth` bounds the length of sequences. -/
def suffixStates : (depth : Nat) → List (List ByteRange) → List (List (List ByteRange)) →
    List (List (List ByteRange))
  | 0, _, known => known
  | depth + 1, sequences, known =>
    if sequences.all List.isEmpty || known.contains sequences then known
    else
      let heads := (sequences.filterMap List.head?).eraseDups
      heads.foldl (fun known h =>
        suffixStates depth ((sequences.filter (·.head? = some h)).map List.tail) known)
        (sequences :: known)

/-- The number of distinct first steps of some sequences. -/
def headCount (sequences : List (List ByteRange)) : Nat :=
  (sequences.filterMap List.head?).eraseDups.length

/-- The bytes that a set takes when it is read forward. -/
def setSizeForward (s : CodePoints) : Nat :=
  if s.isAscii then 32 + 8 * s.length + 32
  else
    let sequences := s.flatMap byteSequences
    let states := suffixStates 5 sequences []
    32 + (states.map fun st => 32 + 8 * headCount st).foldl (· + ·) 0

/-- The distinct beginnings of some sequences, the empty one apart. -/
def prefixCount (sequences : List (List ByteRange)) : Nat :=
  ([1, 2, 3, 4].map fun n =>
    ((sequences.filter fun q => n ≤ q.length).map (·.take n)).eraseDups.length).foldl (· + ·) 0

/-- The bytes that a set takes when it is read backward. -/
def setSizeBackward (s : CodePoints) : Nat :=
  if s.isAscii then 32 + 8 * s.length + 32
  else
    let sequences := s.flatMap byteSequences
    64 + 32 * prefixCount sequences + 4 * sequences.length

/-- The bytes that a repetition takes whose body takes `body`. -/
def repetitionSize (body min : Nat) : Option Nat → Nat
  | none => if min = 0 then body + 72 else body * min + 40
  | some max => body * max + 40 * (max - min) + 32

/-- The bytes that an expression takes, given what sets and remembered groups
take. -/
def sizeWith (setSize : CodePoints → Nat) (groupSize : Nat) : Regex → Nat
  | .empty => 32
  | .chars s =>
    match s with
    | [r] => if r.first = r.last then 32 * (encoding r.first).length else setSize s
    | _ => setSize s
  | .look _ => 32
  | .concat a b => sizeWith setSize groupSize a + sizeWith setSize groupSize b
  | .choice a b => sizeWith setSize groupSize a + sizeWith setSize groupSize b + 40
  | .repetition a min max => repetitionSize (sizeWith setSize groupSize a) min max
  | .group a => sizeWith setSize groupSize a + groupSize

/-- The most bytes that the automaton of an expression may take. -/
def sizeLimit : Nat := 10 * Nat.pow 2 20

/-- The automaton of an expression is small enough in both directions. -/
def fits (r : Regex) : Bool :=
  sizeWith setSizeForward 64 r ≤ sizeLimit && sizeWith setSizeBackward 0 r ≤ sizeLimit

end DraftSchema.Regex
