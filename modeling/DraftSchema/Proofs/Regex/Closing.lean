import DraftSchema.Proofs.Scanner
import DraftSchema.Regex.Parser

/-!
# `DraftSchema.Proofs.Regex.Closing`: a closing parenthesis behind a text

What is read of a text is read as well with a closing parenthesis behind the text. The parenthesis
stays behind what is left, unless a comment at the end of the text swallows it: in verbose mode a
comment runs to the end of its line. `Extends` says so of a scanner. There is a lemma for each way
to build a scanner, and from them one for each part of an expression. The theorems:

* `extends_iterate`: a repetition keeps to this if its steps do.
* `keepsTail`: blanks are what may swallow a parenthesis.
* `extends_bracketedClass`, `extends_escape`, `extends_groupOpening` and `extends_counts`: the
  parts of an expression that take more than one character.
-/

set_option autoImplicit false

namespace DraftSchema.Regex

open Scanner (out_bind out_bind_eq_some_iff)
open Unicode (Property.isSpace)

/-! ### What a tail changes -/

/-- A closing parenthesis, alone or in front of a dollar sign. -/
def IsTail (t : List Char) : Prop := t = [')'] ∨ t = [')', '$']

variable {α β σ : Type} {p : Scanner α} {cs t : List Char}

/-- A tail behind the text leaves what is read as it is. It stays behind what is left, or else
the text is read to its end and the tail is swallowed by a comment. -/
def ExtendsAt (p : Scanner α) (cs : List Char) : Prop :=
  ∀ a rest, p.out cs = some (a, rest) → (∀ c ∈ rest, c ∈ cs) ∧
    ((∀ t, IsTail t → p.out (cs ++ t) = some (a, rest ++ t)) ∨
      rest = [] ∧ '#' ∈ cs ∧ ∀ t, IsTail t → p.out (cs ++ t) = some (a, []))

/-- This is so for every text. -/
def Extends (p : Scanner α) : Prop := ∀ cs, ExtendsAt p cs

/-- A text that is not read has no say. -/
theorem ExtendsAt.of_none (h : p.out cs = none) : ExtendsAt p cs := by
  intro a rest hout
  rw [h] at hout
  cases hout

/-- It is enough to know of a scanner that reads the same, with and without a tail. -/
theorem ExtendsAt.congr {q : Scanner α} (hq : ExtendsAt q cs) (h : p.out cs = q.out cs)
    (htail : ∀ t, IsTail t → p.out (cs ++ t) = q.out (cs ++ t)) : ExtendsAt p cs := by
  intro a rest hout
  rw [h] at hout
  obtain ⟨hrest, hqt | ⟨hnil, hcomment, hqt⟩⟩ := hq a rest hout
  · exact ⟨hrest, .inl fun t ht => (htail t ht).trans (hqt t ht)⟩
  · exact ⟨hrest, .inr ⟨hnil, hcomment, fun t ht => (htail t ht).trans (hqt t ht)⟩⟩

theorem ExtendsAt.bind {f : α → Scanner β} (hp : ExtendsAt p cs)
    (hf : ∀ a mid, p.out cs = some (a, mid) → ExtendsAt (f a) mid) : ExtendsAt (p >>= f) cs := by
  intro b rest hout
  obtain ⟨a, mid, ha, hb⟩ := out_bind_eq_some_iff.mp hout
  obtain ⟨hmid, hpt⟩ := hp a mid ha
  obtain ⟨hrest, hft⟩ := hf a mid ha b rest hb
  refine ⟨fun c hc => hmid c (hrest c hc), ?_⟩
  rcases hpt with hpt | ⟨rfl, hcomment, hpt⟩
  · rcases hft with hft | ⟨rfl, hcomment, hft⟩
    · exact .inl fun t ht => out_bind_eq_some_iff.mpr ⟨a, _, hpt t ht, hft t ht⟩
    · exact .inr ⟨rfl, hmid _ hcomment, fun t ht =>
        out_bind_eq_some_iff.mpr ⟨a, _, hpt t ht, hft t ht⟩⟩
  · -- Behind a comment that reaches to the end nothing is left in either case.
    have hnil : rest = [] := List.eq_nil_iff_forall_not_mem.mpr fun c hc => by
      simpa using hrest c hc
    subst hnil
    exact .inr ⟨rfl, hcomment, fun t ht => out_bind_eq_some_iff.mpr ⟨a, _, hpt t ht, hb⟩⟩

theorem Extends.bind {f : α → Scanner β} (hp : Extends p) (hf : ∀ a, Extends (f a)) :
    Extends (p >>= f) := fun cs => (hp cs).bind fun a mid _ => hf a mid

theorem extends_pure (a : α) : Extends (pure a : Scanner α) := by
  intro cs b rest hout
  cases hout
  exact ⟨fun _ => id, .inl fun _ _ => rfl⟩

theorem extends_fail : Extends (Scanner.fail : Scanner α) := fun _ => .of_none rfl

theorem extends_guard (condition : Bool) : Extends (Scanner.guard condition) := by
  cases condition
  · exact extends_fail
  · exact extends_pure ()

theorem extends_ofOption (o : Option α) : Extends (Scanner.ofOption o) := by
  cases o
  · exact extends_fail
  · exact extends_pure _

theorem extends_next : Extends Scanner.next := by
  intro cs c rest hout
  obtain rfl := Scanner.out_next.mp hout
  exact ⟨fun _ => List.mem_cons_of_mem c, .inl fun _ _ => rfl⟩

/-- So many characters that are there. -/
theorem extendsAt_skip {n : Nat} (h : n ≤ cs.length) : ExtendsAt (Scanner.skip n) cs := by
  intro u rest hout
  cases hout
  refine ⟨fun c hc => List.mem_of_mem_drop hc, .inl fun t _ => ?_⟩
  rw [Scanner.out_skip, List.drop_append_of_le_length h]

theorem extends_takeWhile {f : Char → Bool} (hf : f ')' = false) :
    Extends (Scanner.takeWhile f) := by
  intro cs taken rest hout
  cases hout
  refine ⟨fun c hc => (List.dropWhile_sublist f).subset hc, .inl fun t ht => ?_⟩
  have htail : t.takeWhile f = [] ∧ t.dropWhile f = t := by
    rcases ht with rfl | rfl <;> simp [hf]
  rw [Scanner.out_takeWhile]
  induction cs with
  | nil => simp [htail]
  | cons c cs ih =>
    cases hc : f c
    · simp [hc]
    · simpa [hc] using ih

/-- A look at the next character is the same with a tail, if there is one. -/
theorem extendsAt_peek_bind_cons {f : Option Char → Scanner α} {c : Char}
    (hf : ExtendsAt (f (some c)) (c :: cs)) : ExtendsAt (Scanner.peek >>= f) (c :: cs) :=
  hf.congr (by rw [Scanner.out_peek_bind]; rfl) fun t _ => by rw [Scanner.out_peek_bind]; rfl

/-- Where there is no next character, a parenthesis must lead to the same. -/
theorem extends_peek_bind {f : Option Char → Scanner α} (hf : ∀ c, Extends (f (some c)))
    (hend : ∀ a rest, (f none).out [] = some (a, rest) →
      ∀ t, IsTail t → (f (some ')')).out t = some (a, t)) : Extends (Scanner.peek >>= f) := by
  intro cs
  cases cs with
  | nil =>
    intro a rest hout
    rw [Scanner.out_peek_bind] at hout
    have hnil : rest = [] := List.length_eq_zero_iff.mp
      (Nat.le_zero.mp (Scanner.length_le_of_out hout))
    subst hnil
    refine ⟨fun _ => id, .inl fun t ht => ?_⟩
    have hhead : t.head? = some ')' := by rcases ht with rfl | rfl <;> rfl
    rw [Scanner.out_peek_bind, List.nil_append, hhead]
    exact hend a [] hout t ht
  | cons c cs => exact extendsAt_peek_bind_cons (hf c (c :: cs))

/-- A look at the text leads to the same with a tail. -/
theorem ExtendsAt.lookAhead_bind {f : List Char → Scanner α} (hf : ExtendsAt (f cs) cs)
    (htail : ∀ t, IsTail t → f (cs ++ t) = f cs) : ExtendsAt (Scanner.lookAhead >>= f) cs :=
  hf.congr (by rw [Scanner.out_lookAhead_bind]) fun t ht => by
    rw [Scanner.out_lookAhead_bind, htail t ht]

theorem extends_iterate {step : σ → Scanner (σ ⊕ α)} (h : ∀ s, Extends (step s)) (s : σ) :
    Extends (Scanner.iterate step s) := by
  intro cs
  induction hlength : cs.length using Nat.strongRecOn generalizing s cs with
  | ind n ih =>
    intro a rest hout
    rw [Scanner.out_iterate, Option.bind_eq_some_iff] at hout
    obtain ⟨⟨x, mid⟩, hstep, hout⟩ := hout
    obtain ⟨hmid, hstept⟩ := h s cs x mid hstep
    cases x with
    | inr b =>
      cases hout
      refine ⟨hmid, hstept.imp (fun hstept t ht => ?_) fun ⟨hnil, hcomment, hstept⟩ =>
        ⟨hnil, hcomment, fun t ht => ?_⟩⟩
      · rw [Scanner.out_iterate, hstept t ht]
        rfl
      · rw [Scanner.out_iterate, hstept t ht]
        rfl
    | inl s' =>
      dsimp only at hout
      split at hout
      · rename_i hlt
        obtain ⟨hrest, hmore⟩ := ih mid.length (by omega) s' mid rfl a rest hout
        refine ⟨fun c hc => hmid c (hrest c hc), ?_⟩
        rcases hstept with hstept | ⟨rfl, hcomment, hstept⟩
        · have hlonger : ∀ t : List Char, (mid ++ t).length < (cs ++ t).length := by
            intro t
            simpa using hlt
          refine hmore.imp (fun hmore t ht => ?_) fun ⟨hnil, hcomment, hmore⟩ =>
            ⟨hnil, hmid _ hcomment, fun t ht => ?_⟩
          · rw [Scanner.out_iterate, hstept t ht]
            simp only [Option.bind_some, if_pos (hlonger t), hmore t ht]
          · rw [Scanner.out_iterate, hstept t ht]
            simp only [Option.bind_some, if_pos (hlonger t), hmore t ht]
        · have hnil : rest = [] := List.eq_nil_iff_forall_not_mem.mpr fun c hc => by
            simpa using hrest c hc
          subst hnil
          have hlonger : ∀ t : List Char, ([] : List Char).length < (cs ++ t).length := by
            intro t
            simp only [List.length_append]
            exact Nat.lt_of_lt_of_le hlt (Nat.le_add_right _ _)
          refine .inr ⟨rfl, hcomment, fun t ht => ?_⟩
          rw [Scanner.out_iterate, hstept t ht]
          simp only [Option.bind_some, if_pos (hlonger t), hout]
      · cases hout

/-! ### Blanks -/

theorem dropBlanks_tail (ht : IsTail t) : dropBlanks false t = t ∧ dropBlanks true t = [] := by
  have hspace : Property.isSpace ')' = false := by decide
  rcases ht with rfl | rfl <;> simp [dropBlanks, hspace]

/-- A tail stays behind blanks, unless a comment in front of it is open. -/
def KeepsTail (inComment : Bool) (cs : List Char) : Prop :=
  (∀ t, IsTail t → dropBlanks inComment (cs ++ t) = dropBlanks inComment cs ++ t) ∨
    dropBlanks inComment cs = [] ∧ (inComment ∨ '#' ∈ cs) ∧
      ∀ t, IsTail t → dropBlanks inComment (cs ++ t) = []

/-- One more character, which may open a comment. -/
theorem KeepsTail.cons {b b' : Bool} {c : Char} (h : KeepsTail b' cs)
    (hdrop : ∀ cs, dropBlanks b (c :: cs) = dropBlanks b' cs) (hopen : b' → b ∨ c = '#') :
    KeepsTail b (c :: cs) := by
  refine h.imp (fun h t ht => ?_) fun ⟨hnil, hcomment, h⟩ => ⟨?_, ?_, fun t ht => ?_⟩
  · rw [List.cons_append, hdrop, hdrop, h t ht]
  · rw [hdrop, hnil]
  · rcases hcomment with hb | hmem
    · exact (hopen hb).imp_right fun hc => by simp [hc]
    · exact .inr (List.mem_cons_of_mem c hmem)
  · rw [List.cons_append, hdrop, h t ht]

theorem keepsTail (inComment : Bool) (cs : List Char) : KeepsTail inComment cs := by
  induction cs generalizing inComment with
  | nil =>
    cases inComment with
    | false => exact .inl fun t ht => (dropBlanks_tail ht).1
    | true => exact .inr ⟨rfl, .inl rfl, fun t ht => (dropBlanks_tail ht).2⟩
  | cons c cs ih =>
    cases inComment with
    | true => exact (ih (c ≠ '\n')).cons (fun _ => by simp [dropBlanks]) fun _ => .inl rfl
    | false =>
      by_cases hspace : Property.isSpace c
      · exact (ih false).cons (fun _ => by simp [dropBlanks, hspace]) (by simp)
      · by_cases hcomment : c = '#'
        · have hno : Property.isSpace '#' = false := by decide
          exact (ih true).cons (fun _ => by simp [dropBlanks, hcomment, hno]) fun _ => .inr hcomment
        · exact .inl fun t ht => by simp [dropBlanks, hspace, hcomment]

theorem dropBlanks_subset (inComment : Bool) (cs : List Char) :
    ∀ c ∈ dropBlanks inComment cs, c ∈ cs := by
  fun_induction dropBlanks inComment cs <;> grind

theorem extends_skipBlanks (verbose : Bool) : Extends (skipBlanks verbose) := by
  cases verbose with
  | false => exact extends_pure ()
  | true =>
    intro cs u rest hout
    have hblanks : ∀ cs, (skipBlanks true).out cs = some ((), dropBlanks false cs) := fun _ => rfl
    rw [hblanks] at hout
    cases hout
    refine ⟨dropBlanks_subset false cs, (keepsTail false cs).imp (fun h t ht => ?_)
      fun ⟨hnil, hcomment, h⟩ => ⟨hnil, by simpa using hcomment, fun t ht => ?_⟩⟩
    · rw [hblanks, h t ht]
    · rw [hblanks, h t ht]

/-- A tail is no blank. -/
theorem skipBlanks_tail (verbose : Bool) (ht : IsTail t) :
    (skipBlanks verbose).out t = some ((), t) := by
  cases verbose with
  | false => rfl
  | true => exact congrArg (fun t => some ((), t)) (dropBlanks_tail ht).1

/-! ### Escapes -/

theorem extends_nextThenBlanks (verbose : Bool) : Extends (nextThenBlanks verbose) :=
  extends_next.bind fun c => (extends_skipBlanks verbose).bind fun _ => extends_pure c

theorem extends_hexDigitValue (verbose : Bool) : Extends (hexDigitValue verbose) :=
  (extends_nextThenBlanks verbose).bind fun _ => extends_ofOption _

theorem extends_hexDigits (verbose : Bool) (n : Nat) : Extends (hexDigits verbose n) := by
  induction n with
  | zero => exact extends_pure []
  | succ n ih =>
    exact (extends_hexDigitValue verbose).bind fun d => ih.bind fun ds => extends_pure (d :: ds)

theorem extends_untilCloseBrace (verbose : Bool) : Extends (untilCloseBrace verbose) := by
  refine extends_iterate (fun taken => ?_) []
  refine (extends_nextThenBlanks verbose).bind fun c => ?_
  split
  · exact extends_pure _
  · exact extends_pure _

/-- Digits are not read at the end. -/
theorem out_hexDigits_nil (verbose : Bool) (n : Nat) :
    (hexDigits verbose (n + 1)).out [] = none := by
  simp [hexDigits, hexDigitValue, nextThenBlanks, out_bind]

theorem extends_hexEscape (verbose : Bool) (letter : Char) :
    Extends (hexEscape verbose letter) := by
  refine extends_peek_bind (fun c => ?_) ?_
  · dsimp only
    split
    · refine (extends_nextThenBlanks verbose).bind fun _ => ?_
      refine (extends_untilCloseBrace verbose).bind fun _ => ?_
      refine (extends_ofOption _).bind fun digits => ?_
      refine (extends_skipBlanks verbose).bind fun _ => ?_
      refine (extends_guard _).bind fun _ => ?_
      exact (extends_ofOption _).bind fun _ => extends_pure _
    · refine (extends_hexDigits verbose _).bind fun digits => ?_
      exact (extends_ofOption _).bind fun _ => extends_pure _
  · intro a rest hout
    have hcount : ∃ n, (if letter = 'x' then 2 else if letter = 'u' then 4 else 8) = n + 1 := by
      split
      · exact ⟨1, rfl⟩
      · split
        · exact ⟨3, rfl⟩
        · exact ⟨7, rfl⟩
    obtain ⟨n, hn⟩ := hcount
    simp [hn, out_bind, out_hexDigits_nil] at hout

theorem extends_propertyEscape (verbose : Bool) : Extends (propertyEscape verbose) := by
  refine (extends_nextThenBlanks verbose).bind fun c => ?_
  split
  · exact (extends_untilCloseBrace verbose).bind fun _ => extends_pure _
  · exact (extends_guard _).bind fun _ => extends_pure _

/-- The first character behind blanks is the same with a tail. -/
theorem dropBlanks_append_of_ne_nil {c : Char} {more : List Char} (ht : IsTail t)
    (h : dropBlanks false cs = c :: more) : dropBlanks false (cs ++ t) = c :: (more ++ t) := by
  rcases keepsTail false cs with hkeeps | ⟨hnil, -, -⟩
  · rw [hkeeps t ht, h, List.cons_append]
  · rw [h] at hnil
    cases hnil

theorem extends_boundaryName (verbose : Bool) : Extends (boundaryName verbose) := by
  have hname : Extends (Scanner.iterate (fun (taken : List Char) => do
      let c ← Scanner.next
      if c = closeBrace then return .inr taken.reverse
      else
        Scanner.guard (isBoundaryNameChar c)
        skipBlanks verbose
        return .inl (c :: taken)) []) := by
    refine extends_iterate (fun taken => extends_next.bind fun c => ?_) []
    split
    · exact extends_pure _
    · exact (extends_guard _).bind fun _ => (extends_skipBlanks verbose).bind fun _ =>
        extends_pure _
  intro cs
  cases cs with
  | nil =>
    refine ExtendsAt.lookAhead_bind (extends_pure _ _) fun t ht => ?_
    rcases ht with rfl | rfl <;> rfl
  | cons brace rest =>
    -- A name in braces starts with the same character when a tail follows.
    by_cases hbrace : brace = openBrace
    · rcases hinside : (if verbose then dropBlanks false rest else rest) with _ | ⟨c, more⟩
      · refine ExtendsAt.of_none ?_
        simp [boundaryName, Scanner.out_lookAhead_bind, hbrace, hinside]
      · have hinsidet : ∀ t, IsTail t →
            (if verbose then dropBlanks false (rest ++ t) else rest ++ t) = c :: (more ++ t) := by
          intro t ht
          cases verbose with
          | false => simpa using congrArg (· ++ t) hinside
          | true => exact dropBlanks_append_of_ne_nil ht hinside
        refine ExtendsAt.lookAhead_bind ?_ fun t ht => ?_
        · simp only [hbrace, hinside, ne_eq, not_true_eq_false, if_false]
          split
          · exact ((extends_nextThenBlanks verbose).bind fun _ => hname.bind fun _ =>
              extends_ofOption _) _
          · exact extends_pure _ _
        · simp only [List.cons_append, hbrace, hinside, hinsidet t ht]
    · refine ExtendsAt.lookAhead_bind ?_ fun t ht => ?_
      · simp only [ne_eq, hbrace, not_false_eq_true, if_true]
        exact extends_pure _ _
      · simp only [List.cons_append, ne_eq, hbrace, not_false_eq_true, if_true]

theorem extends_escape (verbose : Bool) : Extends (escape verbose) := by
  refine extends_next.bind fun c => ?_
  split
  iterate 3
    exact (extends_skipBlanks verbose).bind fun _ =>
      (extends_hexEscape verbose _).bind fun _ => extends_pure _
  iterate 2
    exact (extends_skipBlanks verbose).bind fun _ =>
      (extends_propertyEscape verbose).bind fun _ => extends_pure _
  iterate 14
    exact extends_pure _
  · exact (extends_boundaryName verbose).bind fun _ => extends_pure _
  iterate 3
    exact extends_pure _
  · exact (extends_guard _).bind fun _ => extends_pure _

/-! ### Classes -/

theorem extends_leadingHyphens (verbose : Bool) : Extends (leadingHyphens verbose) := by
  refine extends_iterate (fun items => extends_peek_bind (fun c => ?_) ?_) []
  · split
    · exact (extends_nextThenBlanks verbose).bind fun _ => extends_pure _
    · exact extends_pure _
  · intro a rest hout t ht
    cases hout
    rfl

theorem out_leadingHyphens_nil (verbose : Bool) :
    (leadingHyphens verbose).out [] = some ([], []) := by
  unfold leadingHyphens
  rw [Scanner.out_iterate]
  rfl

theorem extends_classPrimitive (verbose : Bool) : Extends (classPrimitive verbose) := by
  refine extends_next.bind fun c => ?_
  split
  · exact extends_escape verbose
  · exact extends_pure _

/-- What may follow the caret of a class. -/
theorem extends_afterCaret (verbose negated : Bool) : Extends (do
    let items ← leadingHyphens verbose
    if items.isEmpty && (← Scanner.peek) = some ']' then
      let _ ← nextThenBlanks verbose
      return (⟨negated, none, [.literal ⟨']', false⟩]⟩ : Bracket)
    else
      Scanner.guard (← Scanner.peek).isSome
      return ⟨negated, none, items⟩) := by
  refine (extends_leadingHyphens verbose).bind fun items => extends_peek_bind (fun c => ?_) ?_
  · split
    · exact (extends_nextThenBlanks verbose).bind fun _ => extends_pure _
    · refine extends_peek_bind (fun c => ?_) ?_
      · exact (extends_guard _).bind fun _ => extends_pure _
      · intro a rest hout
        simp [out_bind_eq_some_iff] at hout
  · intro a rest hout
    simp [Scanner.out_peek_bind, out_bind_eq_some_iff] at hout

theorem extends_openBracket (verbose : Bool) : Extends (openBracket verbose) := by
  refine (extends_nextThenBlanks verbose).bind fun _ => extends_peek_bind (fun c => ?_) ?_
  · dsimp only
    split
    · exact (extends_nextThenBlanks verbose).bind fun _ => extends_afterCaret verbose _
    · exact extends_afterCaret verbose _
  · intro a rest hout
    simp [out_bind, out_leadingHyphens_nil] at hout

/-- What is behind the mark of a comment and blanks, if there is such a mark. -/
def afterMark : List Char → List Char
  | '#' :: tail => tail.dropWhile Property.isSpace
  | cs => cs

/-- What is behind the next character where it is peeked at: in verbose mode without blanks and
one mark of a comment. -/
def shownBehind (verbose : Bool) (rest : List Char) : List Char :=
  if verbose then afterMark (rest.dropWhile Property.isSpace) else rest

theorem peekBehind_cons (verbose : Bool) (c : Char) (rest : List Char) :
    peekBehind verbose (c :: rest) = ((shownBehind verbose rest).head?).or rest.head? := by
  cases verbose with
  | false => cases rest <;> rfl
  | true =>
    simp only [peekBehind, shownBehind, if_true]
    rcases rest.dropWhile Property.isSpace with _ | ⟨d, tail⟩
    · rfl
    by_cases hmark : d = '#'
    · subst hmark
      simp only [afterMark]
      cases tail.dropWhile Property.isSpace <;> rfl
    · simp [afterMark, hmark]

theorem dropWhile_append_of_ne_nil {f : Char → Bool} (h : cs.dropWhile f ≠ []) :
    (cs ++ t).dropWhile f = cs.dropWhile f ++ t := by
  rw [List.dropWhile_append, if_neg (by simpa using h)]

theorem afterMark_append (h : afterMark cs ≠ []) : afterMark (cs ++ t) = afterMark cs ++ t := by
  unfold afterMark at h ⊢
  split at h
  · exact dropWhile_append_of_ne_nil h
  · rename_i hmark
    cases cs with
    | nil => exact absurd rfl h
    | cons c cs =>
      have hc : c ≠ '#' := fun heq => hmark cs (by rw [heq])
      simp [hc]

theorem shownBehind_append {verbose : Bool} {rest : List Char} (h : shownBehind verbose rest ≠ []) :
    shownBehind verbose (rest ++ t) = shownBehind verbose rest ++ t := by
  cases verbose with
  | false => rfl
  | true =>
    have hblanks : rest.dropWhile Property.isSpace ≠ [] := by
      intro hnil
      simp [shownBehind, hnil, afterMark] at h
    simp only [shownBehind, if_true] at h ⊢
    rw [dropWhile_append_of_ne_nil hblanks, afterMark_append h]

/-- Blanks are dropped, inside of a comment as well. -/
theorem dropBlanks_of_blanks (h : ∀ c ∈ cs, Property.isSpace c) (inComment : Bool) :
    dropBlanks inComment cs = [] := by
  induction cs generalizing inComment with
  | nil => rfl
  | cons c cs ih =>
    have hrest := ih fun c' hc' => h c' (List.mem_cons_of_mem c hc')
    have hspace := h c List.mem_cons_self
    cases inComment <;> simp [dropBlanks, hspace, hrest]

theorem dropBlanks_dropWhile : dropBlanks false (cs.dropWhile Property.isSpace)
    = dropBlanks false cs := by
  induction cs with
  | nil => rfl
  | cons c cs ih =>
    by_cases hspace : Property.isSpace c
    · simpa [hspace, dropBlanks] using ih
    · simp [hspace]

theorem blanks_of_dropWhile (h : cs.dropWhile Property.isSpace = []) :
    ∀ c ∈ cs, Property.isSpace c := by
  have hcut := cs.takeWhile_append_dropWhile (p := Property.isSpace)
  rw [h, List.append_nil] at hcut
  rw [← hcut]
  exact List.all_eq_true.mp List.all_takeWhile

/-- Where nothing is behind, there is nothing but blanks and one mark of a comment. -/
theorem of_shownBehind_eq_nil {verbose : Bool} {rest : List Char}
    (h : shownBehind verbose rest = []) :
    (if verbose then dropBlanks false rest else rest) = [] ∧ rest.head? ≠ some ']' ∧
      rest.head? ≠ some '-' := by
  cases verbose with
  | false =>
    obtain rfl : rest = [] := h
    simp
  | true =>
    have hbracket : Property.isSpace ']' = false ∧ Property.isSpace '-' = false := by decide
    simp only [shownBehind, if_true] at h ⊢
    refine ⟨?_, fun hhead => ?_, fun hhead => ?_⟩
    · rw [← dropBlanks_dropWhile]
      unfold afterMark at h
      split at h
      · rename_i tail hmark
        have hspace : Property.isSpace '#' = false := by decide
        simp [hmark, dropBlanks, hspace, dropBlanks_of_blanks (blanks_of_dropWhile h)]
      · rw [h]
        rfl
    · obtain ⟨tail, rfl⟩ := List.head?_eq_some_iff.mp hhead
      simp [hbracket.1, afterMark] at h
    · obtain ⟨tail, rfl⟩ := List.head?_eq_some_iff.mp hhead
      simp [hbracket.2, afterMark] at h

theorem peekBehind_append {verbose : Bool} {rest : List Char} (h : shownBehind verbose rest ≠ [])
    (c : Char) : peekBehind verbose (c :: (rest ++ t)) = peekBehind verbose (c :: rest) := by
  obtain ⟨d, more, hd⟩ := List.exists_cons_of_ne_nil h
  rw [peekBehind_cons, peekBehind_cons, shownBehind_append h, hd]
  rfl

theorem out_nextThenBlanks_of_blanks {verbose : Bool} {rest : List Char}
    (h : (if verbose then dropBlanks false rest else rest) = []) (c : Char) :
    (nextThenBlanks verbose).out (c :: rest) = some (c, []) := by
  have hskip : (skipBlanks verbose).out rest
      = some ((), if verbose then dropBlanks false rest else rest) := by
    cases verbose <;> rfl
  rw [h] at hskip
  exact out_bind_eq_some_iff.mpr
    ⟨c, rest, Scanner.out_next.mpr rfl, out_bind_eq_some_iff.mpr ⟨(), [], hskip, rfl⟩⟩

/-- What follows the first end of a range, or an item that stands alone. -/
theorem extendsAt_afterItem (verbose : Bool) (first : Primitive) (text : List Char) :
    ExtendsAt (do
      let text ← Scanner.lookAhead
      let behind := peekBehind verbose text
      match text.head? with
      | none => Scanner.fail
      | some c =>
        if c ≠ '-' ∨ behind = some ']' ∨ behind = some '-' then
          Scanner.ofOption first.toClass?
        else
          let _ ← nextThenBlanks verbose
          let last ← classPrimitive verbose
          let l ← Scanner.ofOption first.toLiteral?
          let r ← Scanner.ofOption last.toLiteral?
          Scanner.guard (l.char.toNat ≤ r.char.toNat)
          return ClassExpr.range l r) text := by
  have hrange : Extends (do
      let _ ← nextThenBlanks verbose
      let last ← classPrimitive verbose
      let l ← Scanner.ofOption first.toLiteral?
      let r ← Scanner.ofOption last.toLiteral?
      Scanner.guard (l.char.toNat ≤ r.char.toNat)
      return ClassExpr.range l r) :=
    (extends_nextThenBlanks verbose).bind fun _ => (extends_classPrimitive verbose).bind fun _ =>
      (extends_ofOption _).bind fun _ => (extends_ofOption _).bind fun _ =>
        (extends_guard _).bind fun _ => extends_pure _
  cases text with
  | nil => exact .of_none rfl
  | cons c rest =>
    by_cases hshown : shownBehind verbose rest = []
    · by_cases hc : c = '-'
      · -- A hyphen with nothing behind it is no range, and no end of a class either.
        subst hc
        obtain ⟨hblanks, hbracket, hhyphen⟩ := of_shownBehind_eq_nil hshown
        refine .of_none ?_
        have hnext := out_nextThenBlanks_of_blanks hblanks '-'
        have hbehind : peekBehind verbose ('-' :: rest) = rest.head? := by
          rw [peekBehind_cons, hshown]
          rfl
        simp [hbehind, hbracket, hhyphen, out_bind, hnext, classPrimitive]
      · refine .lookAhead_bind ?_ fun t ht => ?_
        · simp only [List.head?_cons, hc, ne_eq, not_false_eq_true, true_or, if_true]
          exact extends_ofOption _ _
        · simp [hc]
    · refine .lookAhead_bind ?_ fun t ht => ?_
      · simp only [List.head?_cons]
        split
        · exact extends_ofOption _ _
        · exact hrange _
      · simp only [List.cons_append, List.head?_cons, peekBehind_append hshown]

theorem extends_classItem (verbose : Bool) : Extends (classItem verbose) :=
  (extends_classPrimitive verbose).bind fun first =>
    (extends_skipBlanks verbose).bind fun _ => extendsAt_afterItem verbose first

/-- A tail starts with a parenthesis. -/
theorem exists_eq_cons_of_append_eq_cons {c : Char} {tail : List Char} (ht : IsTail t)
    (hc : c ≠ ')') (h : cs ++ t = c :: tail) : ∃ rest, cs = c :: rest := by
  cases cs with
  | nil => rcases ht with rfl | rfl <;> exact absurd (List.cons.inj h).1.symm hc
  | cons d cs =>
    rw [List.cons_append, List.cons.injEq] at h
    exact ⟨cs, by rw [h.1]⟩

/-- What an ASCII class is behind its opening, with or without the caret. -/
def asciiName? (negated : Bool) (rest : List Char) : Option (Bool × String × Nat) :=
  match rest.dropWhile (· ≠ ':') with
  | ':' :: ']' :: _ =>
    let name := String.ofList (rest.takeWhile (· ≠ ':'))
    if asciiClassNames.contains name then
      some (negated, name, name.length + (if negated then 5 else 4))
    else none
  | _ => none

theorem asciiClass?_cons_cons (rest : List Char) : asciiClass? ('[' :: ':' :: rest)
    = if rest.head? = some '^' then asciiName? true (rest.drop 1) else asciiName? false rest := by
  by_cases hcaret : rest.head? = some '^'
  · simp only [asciiClass?, hcaret, decide_true, if_true]
    rfl
  · simp only [asciiClass?, hcaret, decide_false, if_false]
    rfl

/-- A name in front of a tail, which has no colon, is the same name. -/
theorem asciiName?_append (ht : IsTail t) (negated : Bool) (rest : List Char) :
    asciiName? negated (rest ++ t) = asciiName? negated rest := by
  have hcolon : t.dropWhile (· ≠ ':') = [] := by rcases ht with rfl | rfl <;> decide
  unfold asciiName?
  rcases hrest : rest.dropWhile (· ≠ ':') with _ | ⟨c, more⟩
  · have hnil : (rest ++ t).dropWhile (· ≠ ':') = [] := by
      rw [List.dropWhile_append, hrest, hcolon]
      rfl
    rw [hnil]
  · have hdrop : (rest ++ t).dropWhile (· ≠ ':') = c :: (more ++ t) := by
      rw [dropWhile_append_of_ne_nil (by rw [hrest]; exact List.cons_ne_nil c more), hrest,
        List.cons_append]
    have htake : (rest ++ t).takeWhile (· ≠ ':') = rest.takeWhile (· ≠ ':') := by
      have hlength : (rest.takeWhile (· ≠ ':')).length ≠ rest.length := by
        intro hlength
        have hcut := congrArg List.length (rest.takeWhile_append_dropWhile (p := (· ≠ ':')))
        rw [List.length_append, hlength, hrest, List.length_cons] at hcut
        omega
      rw [List.takeWhile_append, if_neg hlength]
    rw [hdrop, htake]
    cases more with
    | nil => rcases ht with rfl | rfl <;> simp
    | cons d more =>
      rw [List.cons_append]
      split <;> split <;> simp_all

/-- An ASCII class is not changed by a tail. -/
theorem asciiClass?_append (ht : IsTail t) (text : List Char) :
    asciiClass? (text ++ t) = asciiClass? text := by
  have hcaret : ∀ rest : List Char,
      ((rest ++ t).head? = some '^') = (rest.head? = some '^') := by
    intro rest
    cases rest with
    | nil => rcases ht with rfl | rfl <;> simp
    | cons c rest => rfl
  by_cases hopen : ∃ rest, text = '[' :: ':' :: rest
  · obtain ⟨rest, rfl⟩ := hopen
    rw [List.cons_append, List.cons_append, asciiClass?_cons_cons, asciiClass?_cons_cons]
    simp only [hcaret]
    split
    · rename_i hhead
      obtain ⟨tail, rfl⟩ := List.head?_eq_some_iff.mp hhead
      exact asciiName?_append ht true tail
    · exact asciiName?_append ht false rest
  · have hopent : ¬ ∃ rest, text ++ t = '[' :: ':' :: rest := by
      rintro ⟨rest, h⟩
      obtain ⟨more, rfl⟩ := exists_eq_cons_of_append_eq_cons ht (by decide) h
      rw [List.cons_append, List.cons.injEq] at h
      obtain ⟨more', rfl⟩ := exists_eq_cons_of_append_eq_cons ht (by decide) h.2
      exact hopen ⟨more', rfl⟩
    have hnone : ∀ text : List Char, (¬ ∃ rest, text = '[' :: ':' :: rest) →
        asciiClass? text = none := by
      intro text h
      unfold asciiClass?
      split
      · exact absurd ⟨_, rfl⟩ h
      · rfl
    rw [hnone _ hopent, hnone _ hopen]

theorem le_length_of_asciiName? {rest : List Char} {negated negated' : Bool} {name : String}
    {n : Nat} (h : asciiName? negated rest = some (negated', name, n)) :
    n ≤ rest.length + (if negated then 3 else 2) := by
  unfold asciiName? at h
  split at h
  · rename_i more hmore
    simp only [Option.ite_none_right_eq_some, Option.some.injEq, Prod.mk.injEq] at h
    obtain ⟨-, rfl, rfl, rfl⟩ := h
    have hcut := congrArg List.length (rest.takeWhile_append_dropWhile (p := (· ≠ ':')))
    rw [List.length_append, hmore, List.length_cons, List.length_cons] at hcut
    rw [String.length_ofList]
    split <;> omega
  · cases h

/-- An ASCII class stands in the text. -/
theorem le_length_of_asciiClass? {text : List Char} {negated : Bool} {name : String} {n : Nat}
    (h : asciiClass? text = some (negated, name, n)) : n ≤ text.length := by
  by_cases hopen : ∃ rest, text = '[' :: ':' :: rest
  · obtain ⟨rest, rfl⟩ := hopen
    rw [asciiClass?_cons_cons] at h
    split at h
    · rename_i hhead
      obtain ⟨tail, rfl⟩ := List.head?_eq_some_iff.mp hhead
      have hle := le_length_of_asciiName? h
      simpa using hle
    · have hle := le_length_of_asciiName? h
      simpa using hle
  · unfold asciiClass? at h
    split at h
    · exact absurd ⟨_, rfl⟩ hopen
    · cases h

theorem extends_classStep (verbose : Bool) (s : Bracket × List Bracket) :
    Extends (classStep verbose s) := by
  obtain ⟨b, outer⟩ := s
  refine (extends_skipBlanks verbose).bind fun _ text => ?_
  cases text with
  | nil => exact .of_none rfl
  | cons c rest =>
    refine .lookAhead_bind ?_ fun t ht => ?_
    · split
      · exact extends_fail _
      · split
        · rename_i hascii
          exact (extendsAt_skip (le_length_of_asciiClass? hascii)).bind fun _ _ _ =>
            extends_pure _ _
        · exact ((extends_openBracket verbose).bind fun _ => extends_pure _) _
      · refine (extendsAt_skip (by simp)).bind fun _ _ _ => ?_
        split
        · exact extends_pure _ _
        · exact extends_pure _ _
      iterate 3
        rename_i htext
        exact (extendsAt_skip (by simp [htext])).bind fun _ _ _ => extends_pure _ _
      · exact ((extends_classItem verbose).bind fun _ => extends_pure _) _
    · -- Two characters tell what to do; a tail is never the second one of a pair.
      have hascii := asciiClass?_append ht (c :: rest)
      rw [List.cons_append] at hascii ⊢
      by_cases hopen : c = '['
      · subst hopen
        simp only [hascii]
      · split <;> split <;> simp_all
        all_goals
          rename_i htext hrest
          obtain ⟨tail, htail⟩ := exists_eq_cons_of_append_eq_cons ht (by decide) htext.2
          exact absurd htail (hrest tail)

theorem extends_bracketedClass (verbose : Bool) : Extends (bracketedClass verbose) :=
  (extends_openBracket verbose).bind fun first =>
    (extends_iterate (extends_classStep verbose) (first, [])).bind fun _ => extends_pure _

/-! ### Groups -/

theorem extends_flagGroup : Extends flagGroup := by
  refine extends_iterate (fun s => extends_peek_bind (fun c => ?_) ?_) _
  · dsimp only
    split
    · exact (extends_guard _).bind fun _ => extends_pure _
    · refine extends_next.bind fun _ => ?_
      split
      · exact (extends_guard _).bind fun _ => extends_pure _
      · exact (extends_ofOption _).bind fun _ => extends_pure _
  · intro a rest hout
    cases hout

theorem extends_groupName : Extends groupName := by
  refine extends_iterate (fun taken => extends_next.bind fun c => ?_) []
  split
  · exact (extends_guard _).bind fun _ => extends_pure _
  · exact (extends_guard _).bind fun _ => extends_pure _

theorem extends_groupOpening (verbose : Bool) : Extends (groupOpening verbose) := by
  refine (extends_skipBlanks verbose).bind fun _ text => .lookAhead_bind ?_ fun t ht => ?_
  · split
    iterate 4
      exact extends_fail _
    iterate 2
      refine (extendsAt_skip (by simp)).bind fun _ _ _ => ?_
      exact (extends_groupName.bind fun _ => extends_pure _) _
    · refine (extendsAt_skip (by simp)).bind fun _ _ _ => ?_
      refine (extends_flagGroup.bind fun change => extends_next.bind fun c => ?_) _
      split
      · exact (extends_guard _).bind fun _ => extends_pure _
      · exact extends_pure _
    · exact extends_pure _ _
  · -- Three characters tell what is opened; a parenthesis is none of those that are looked for.
    rcases text with _ | ⟨a, rest⟩
    · rcases ht with rfl | rfl <;> rfl
    by_cases hmark : a ≠ '?'
    · simp [hmark]
    obtain rfl : a = '?' := Decidable.not_not.mp hmark
    rcases rest with _ | ⟨b, rest⟩
    · rcases ht with rfl | rfl <;> rfl
    by_cases hless : b = '<'
    · subst hless
      rcases rest with _ | ⟨c, rest⟩
      · rcases ht with rfl | rfl <;> rfl
      by_cases hequal : c = '='
      · simp [hequal]
      by_cases hnot : c = '!'
      · simp [hnot]
      simp [hequal, hnot]
    by_cases hequal : b = '='
    · simp [hequal]
    by_cases hnot : b = '!'
    · simp [hnot]
    by_cases hname : b = 'P'
    · subst hname
      rcases rest with _ | ⟨c, rest⟩
      · rcases ht with rfl | rfl <;> rfl
      by_cases hc : c = '<'
      · simp [hc]
      simp [hc]
    simp [hless, hequal, hnot, hname]

/-! ### Repetitions -/

theorem extends_lazyMark : Extends lazyMark := by
  refine Extends.bind (fun text => ?_) fun _ => extends_pure _
  refine .lookAhead_bind ?_ fun t ht => ?_
  · split
    · rename_i hmark
      have hlength := (List.isPrefixOf_iff_prefix.mp hmark).length_le
      exact (extendsAt_skip hlength).bind fun _ _ _ => extends_pure _ _
    · exact extends_pure _ _
  · cases text with
    | nil => rcases ht with rfl | rfl <;> rfl
    | cons c text => rfl

theorem extends_count (verbose : Bool) : Extends (count verbose) := by
  have hblank : Unicode.Property.isSpace ')' = false := by decide
  refine (extends_takeWhile hblank).bind fun _ => ?_
  refine (extends_iterate (fun ds => extends_peek_bind (fun c => ?_) ?_) []).bind fun digits => ?_
  · split
    · exact (extends_nextThenBlanks verbose).bind fun _ => extends_pure _
    · exact extends_pure _
  · intro a rest hout t ht
    cases hout
    rfl
  · refine (extends_skipBlanks _).bind fun _ => (extends_takeWhile hblank).bind fun _ => ?_
    refine (extends_skipBlanks _).bind fun _ => (extends_guard _).bind fun _ => extends_pure _

/-- A count has a digit. -/
theorem out_count_nil (verbose : Bool) : (count verbose).out [] = none := by
  refine Option.eq_none_iff_forall_ne_some.mpr fun ⟨n, rest⟩ hout => ?_
  obtain ⟨_, mid, hblanks, hout⟩ := out_bind_eq_some_iff.mp hout
  cases hblanks
  obtain ⟨digits, mid, hdigits, hout⟩ := out_bind_eq_some_iff.mp hout
  rw [Scanner.out_iterate] at hdigits
  cases hdigits
  simp [out_bind] at hout

theorem extends_counts (verbose : Bool) : Extends (counts verbose) := by
  refine (extends_nextThenBlanks verbose).bind fun _ => (extends_count verbose).bind fun min => ?_
  refine (extends_nextThenBlanks verbose).bind fun c => ?_
  split
  · exact extends_lazyMark.bind fun _ => extends_pure _
  · refine (extends_guard _).bind fun _ => extends_peek_bind (fun c => ?_) ?_
    · split
      · exact (extends_nextThenBlanks verbose).bind fun _ => extends_lazyMark.bind fun _ =>
          extends_pure _
      · refine (extends_count verbose).bind fun max => ?_
        refine (extends_nextThenBlanks verbose).bind fun _ => ?_
        exact (extends_guard _).bind fun _ => extends_lazyMark.bind fun _ =>
          (extends_guard _).bind fun _ => extends_pure _
    · intro a rest hout
      simp [out_bind, out_count_nil] at hout

end DraftSchema.Regex
