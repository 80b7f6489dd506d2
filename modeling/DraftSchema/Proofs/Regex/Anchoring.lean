import DraftSchema.Format
import DraftSchema.Proofs.Regex.Matching
import DraftSchema.Proofs.Regex.Tokens

/-!
# `DraftSchema.Proofs.Regex.Anchoring`: patterns match whole strings

A pattern puts its source between `^(?:` and `)$`. Read there, the source is the expression that
it is on its own, inside of one more group, unless it ends in a comment: a comment runs to the end
of its line, and swallows what is put behind the source. The theorems:

* `Expr.read?_anchoredSource`: how the source is read between the two ends of the text.
* `anchored_spans_iff`: the expression between the two ends spans what the expression spans from
  the first to the last character.
* `Pattern.isFullMatch_iff_spans`: which sources are patterns, and which texts these match.
-/

set_option autoImplicit false

namespace DraftSchema

namespace Regex

open Scanner (out_bind_eq_some_iff)

variable {source : String} {e : Expr} {r : Regex}

/-! ### Texts of expressions -/

/-- The progress in front of a text. -/
def Progress.initial : Progress := ⟨⟨[], []⟩, [], [], false⟩

/-- Reads a whole text, however deeply it is nested. -/
def Expr.read? (text : String) : Option Expr :=
  Scanner.run? (Scanner.iterate exprStep .initial) text.toList

theorem Expr.read?_eq_some_iff :
    Expr.read? source = some e ↔ Progress.initial.read source.toList = some (e, []) :=
  Scanner.run?_eq_some_iff

theorem Expr.read?_eq_none (h : Progress.initial.read source.toList = none) :
    Expr.read? source = none := by
  refine Option.eq_none_iff_forall_ne_some.mpr fun e hread => ?_
  rw [Expr.read?_eq_some_iff, h] at hread
  cases hread

/-- The text is that of an expression, with its syntax and its flags. -/
structure Spells (source : String) (e : Expr) (r : Regex) : Prop where
  read : Expr.read? source = some e
  elaborated : (e.elaborate? .initial).map Prod.fst = some r

/-- A text is a regular expression if it is that of an expression that keeps to the limits. -/
theorem parse?_eq_some_iff : Regex.parse? source = some r ↔
    ∃ e, Spells source e r ∧ e.depth ≤ nestingLimit ∧ r.fits := by
  simp only [Regex.parse?, Expr.parse?, Option.bind_eq_bind, Option.bind_eq_some_iff,
    Option.ite_none_right_eq_some, Option.some.injEq]
  constructor
  · rintro ⟨e, ⟨e', hread, hdepth, rfl⟩, ⟨r', flags⟩, helaborate, hfits, rfl⟩
    exact ⟨e', ⟨hread, by rw [helaborate]; rfl⟩, hdepth, hfits⟩
  · rintro ⟨e, ⟨hread, helaborated⟩, hdepth, hfits⟩
    obtain ⟨⟨r', flags⟩, helaborate, rfl⟩ := Option.map_eq_some_iff.mp helaborated
    exact ⟨e, ⟨e, hread, hdepth, rfl⟩, (r', flags), helaborate, hfits, rfl⟩

/-- A text is that of one expression at most. -/
theorem Spells.parse?_eq_some_iff {r' : Regex} (h : Spells source e r) :
    Regex.parse? source = some r' ↔ r' = r ∧ e.depth ≤ nestingLimit ∧ r.fits := by
  rw [Regex.parse?_eq_some_iff]
  constructor
  · rintro ⟨e', h', hlimits⟩
    obtain rfl : e' = e := Option.some.inj (h'.read.symm.trans h.read)
    obtain rfl : r' = r := Option.some.inj (h'.elaborated.symm.trans h.elaborated)
    exact ⟨rfl, hlimits⟩
  · rintro ⟨rfl, hlimits⟩
    exact ⟨e, h, hlimits⟩

/-- The text ends in a comment: a parenthesis behind it closes nothing, and is not missed. -/
def EndsInComment (source : String) : Prop := (Expr.read? (source ++ ")")).isSome

instance : DecidablePred EndsInComment := fun _ => inferInstanceAs (Decidable (_ = true))

/-! ### Between the two ends -/

/-- The expression between the two ends of the text, as it is written. -/
def Expr.anchored (e : Expr) : Expr :=
  .concat [.assertion .startLine, .group false (some .none) e, .assertion .endLine]

/-- The expression between the two ends of the text. -/
def anchored (r : Regex) : Regex := .concat (.look .start) (.concat r (.look .stop))

/-- The group that the source is put into. -/
def anchoringGroup : Group := ⟨⟨[], [.assertion .startLine]⟩, false, some .none, false⟩

theorem out_flagGroup_colon (cs : List Char) :
    flagGroup.out (':' :: cs) = some (.none, ':' :: cs) := by
  unfold flagGroup
  rw [Scanner.out_iterate]
  rfl

theorem out_token_anchoring (cs : List Char) : (token false).out ('(' :: '?' :: ':' :: cs)
    = some (some (.opening (.group false (some .none) none)), cs) := by
  have hflags : (groupOpening false).out ('?' :: ':' :: cs)
      = some (.group false (some .none) none, cs) :=
    out_bind_eq_some_iff.mpr ⟨(), _, rfl, out_bind_eq_some_iff.mpr ⟨_, _, Scanner.out_lookAhead,
      out_bind_eq_some_iff.mpr ⟨(), _, rfl,
        out_bind_eq_some_iff.mpr ⟨_, _, out_flagGroup_colon cs, rfl⟩⟩⟩⟩
  refine out_bind_eq_some_iff.mpr ⟨(), _, rfl, ?_⟩
  rw [Scanner.out_peek_bind]
  refine out_bind_eq_some_iff.mpr ⟨_, _, ?_, rfl⟩
  exact out_bind_eq_some_iff.mpr ⟨(), _, rfl, out_bind_eq_some_iff.mpr ⟨_, _, hflags, rfl⟩⟩

/-- What is put in front of the source opens a group around it. -/
theorem read_anchoring (cs : List Char) :
    Progress.initial.read ('^' :: '(' :: '?' :: ':' :: cs)
      = (Progress.initial.under [anchoringGroup]).read cs := by
  have hstart : (token false).out ('^' :: '(' :: '?' :: ':' :: cs)
      = some (some (.item (.assertion .startLine)), '(' :: '?' :: ':' :: cs) := rfl
  rw [Progress.read_of_some (s := .initial) hstart rfl (by simp)]
  exact Progress.read_of_some (out_token_anchoring cs) rfl (by simp only [List.length_cons]; omega)

/-- What is put behind the source closes the group. -/
theorem read_under_anchoring {last : Progress} (h : last.groups = []) :
    (last.under [anchoringGroup]).read [')', '$'] = some (last.level.toExpr.anchored, []) := by
  obtain ⟨level, groups, names, verbose⟩ := last
  obtain rfl : groups = [] := h
  have hclosing : (token verbose).out [')', '$'] = some (some .closing, ['$']) := by
    cases verbose <;> rfl
  have hend : (token false).out ['$'] = some (some (.item (.assertion .endLine)), []) := rfl
  refine (Progress.read_of_some hclosing rfl (by decide)).trans ?_
  refine (Progress.read_of_some hend rfl (by decide)).trans ?_
  rw [Progress.read_nil]
  rfl

theorem toList_anchoredSource (source : String) : (Pattern.anchoredSource source).toList
    = '^' :: '(' :: '?' :: ':' :: (source.toList ++ [')', '$']) := by
  simp [Pattern.anchoredSource, String.toList_append]

/-- A text that goes on does not end in a comment. -/
theorem not_endsInComment_of_goesOn (h : Progress.initial.GoesOn source.toList e) :
    ¬ EndsInComment source := by
  obtain ⟨last, hgroups, -, hlast⟩ := h
  have hread : Progress.initial.read (source ++ ")").toList = none := by
    have hparenthesis := hlast [')'] (.inl rfl) []
    rw [Progress.under_nil, Progress.under_nil] at hparenthesis
    rw [String.toList_append]
    refine hparenthesis.trans ?_
    obtain ⟨level, groups, names, verbose⟩ := last
    obtain rfl : groups = [] := hgroups
    have hclosing : (token verbose).out [')'] = some (some .closing, []) := by
      cases verbose <;> rfl
    rw [Progress.read_eq, hclosing]
    rfl
  rw [EndsInComment, Expr.read?_eq_none hread]
  simp

theorem endsInComment_of_swallows (h : Progress.initial.Swallows source.toList e) :
    EndsInComment source := by
  have hread := h [')'] (.inl rfl) []
  rw [Progress.under_nil, if_pos rfl] at hread
  have heq : Expr.read? (source ++ ")") = some e := by
    rw [Expr.read?_eq_some_iff, String.toList_append]
    exact hread
  rw [EndsInComment, heq]
  rfl

/-- Between the two ends of the text, the source is what it is on its own; there it must not end
in a comment. -/
theorem Expr.read?_anchoredSource (hread : Expr.read? source = some e) :
    Expr.read? (Pattern.anchoredSource source)
      = if EndsInComment source then none else some e.anchored := by
  have hinside : ∀ result, (Progress.initial.under [anchoringGroup]).read
        (source.toList ++ [')', '$']) = result →
      Progress.initial.read (Pattern.anchoredSource source).toList = result := by
    rintro result rfl
    rw [toList_anchoredSource, read_anchoring]
  rcases (Progress.read_append (Expr.read?_eq_some_iff.mp hread)).2 with hgoes | ⟨-, hswallows⟩
  · rw [if_neg (not_endsInComment_of_goesOn hgoes), Expr.read?_eq_some_iff]
    obtain ⟨last, hgroups, rfl, hlast⟩ := hgoes
    refine hinside _ ?_
    rw [hlast _ (.inr rfl), read_under_anchoring hgroups]
  · rw [if_pos (endsInComment_of_swallows hswallows)]
    refine Expr.read?_eq_none (hinside _ ?_)
    rw [hswallows _ (.inr rfl), if_neg (List.cons_ne_nil _ _)]

/-- The flags of the source hold in it alone. -/
theorem elaborate?_anchored (e : Expr) : (e.anchored.elaborate? .initial).map Prod.fst
    = ((e.elaborate? .initial).map Prod.fst).map anchored := by
  have hinside : Flags.initial.after .none = .initial := rfl
  simp only [Expr.anchored, Expr.elaborate?, Expr.elaborateAll?, Option.bind_eq_bind,
    Option.bind_some, hinside]
  rcases e.elaborate? .initial with _ | ⟨r, flags⟩ <;> rfl

theorem depth_anchored (e : Expr) : e.anchored.depth = e.depth + 2 := by
  simp [Expr.anchored, Expr.depth, Expr.depthOfAll]

theorem Spells.anchored (h : Spells source e r) (hcomment : ¬ EndsInComment source) :
    Spells (Pattern.anchoredSource source) e.anchored r.anchored where
  read := by rw [Expr.read?_anchoredSource h.read, if_neg hcomment]
  elaborated := by rw [elaborate?_anchored, h.elaborated]; rfl

/-- A comment at the end leaves the group open that the source is put into. -/
theorem Spells.parse?_anchoredSource (h : Spells source e r) (hcomment : EndsInComment source) :
    Regex.parse? (Pattern.anchoredSource source) = none := by
  refine Option.eq_none_iff_forall_ne_some.mpr fun r' hparse => ?_
  obtain ⟨e', h', -⟩ := Regex.parse?_eq_some_iff.mp hparse
  have hread := h'.read
  rw [Expr.read?_anchoredSource h.read, if_pos hcomment] at hread
  cases hread

/-- The two ends of the text make an expression larger. -/
theorem fits_of_anchored (h : r.anchored.fits) : r.fits := by
  have hsize : ∀ setSize groupSize,
      sizeWith setSize groupSize r ≤ sizeWith setSize groupSize r.anchored := by
    intro setSize groupSize
    simp only [anchored, sizeWith]
    omega
  simp only [fits, Bool.and_eq_true, decide_eq_true_eq] at h ⊢
  exact h.imp (Nat.le_trans (hsize _ _)) (Nat.le_trans (hsize _ _))

/-- Between the two ends, an expression spans the whole text or nothing. -/
theorem anchored_spans_iff {text : Array Char} {i j : Nat} :
    Spans text r.anchored i j ↔ i = 0 ∧ j = text.size ∧ Spans text r 0 text.size := by
  simp only [anchored, Spans, Look.holds, beq_iff_eq]
  constructor
  · rintro ⟨k, ⟨rfl, rfl⟩, l, hspans, rfl, rfl⟩
    exact ⟨rfl, rfl, hspans⟩
  · rintro ⟨rfl, rfl, hspans⟩
    exact ⟨0, ⟨rfl, rfl⟩, _, hspans, rfl, rfl⟩

theorem isMatch_anchored_iff {text : String} :
    r.anchored.isMatch text ↔ Spans text.toList.toArray r 0 text.length := by
  rw [isMatch_iff, ← String.length_toList]
  simp [anchored_spans_iff]

end Regex

namespace Pattern

open Regex

/-- The source must be an expression on its own and between the two ends. -/
theorem ofSource?_eq_some_iff {source : String} {p : Pattern} : ofSource? source = some p ↔
    (Regex.parse? source).isSome ∧ Regex.parse? (anchoredSource source) = some p.anchored ∧
      p.source = source := by
  simp only [ofSource?, Option.bind_eq_bind, Option.bind_eq_some_iff, Option.isSome_iff_exists,
    ← exists_and_right]
  refine exists_congr fun r => and_congr_right' ⟨?_, ?_⟩
  · rintro ⟨r', hanchored, hp⟩
    cases hp
    exact ⟨hanchored, rfl⟩
  · rintro ⟨hanchored, rfl⟩
    exact ⟨p.anchored, hanchored, rfl⟩

/-- A source is a pattern if it is an expression that does not end in a comment and keeps to the
limits between the two ends of the text. The pattern matches the texts of which the expression,
with its own flags and branches, spans all from the first to the last character. -/
theorem isFullMatch_iff_spans {source : String} {e : Expr} {r : Regex} (h : Spells source e r) :
    ((ofSource? source).isSome ↔
        ¬ EndsInComment source ∧ e.depth + 2 ≤ nestingLimit ∧ r.anchored.fits) ∧
      ∀ p, ofSource? source = some p → p.source = source ∧
        ∀ text, p.isFullMatch text ↔ Spans text.toList.toArray r 0 text.length := by
  have hmade : ∀ p, ofSource? source = some p ↔
      (¬ EndsInComment source ∧ e.depth + 2 ≤ nestingLimit ∧ r.anchored.fits) ∧
        p.anchored = r.anchored ∧ p.source = source := by
    intro p
    rw [ofSource?_eq_some_iff]
    by_cases hcomment : EndsInComment source
    · simp [h.parse?_anchoredSource hcomment, hcomment]
    · rw [(h.anchored hcomment).parse?_eq_some_iff, depth_anchored, Option.isSome_iff_exists]
      simp only [h.parse?_eq_some_iff]
      constructor
      · rintro ⟨-, ⟨hr, hlimits⟩, hsource⟩
        exact ⟨⟨hcomment, hlimits⟩, hr, hsource⟩
      · rintro ⟨⟨-, hdepth, hfits⟩, hr, hsource⟩
        exact ⟨⟨r, rfl, by omega, fits_of_anchored hfits⟩, ⟨hr, hdepth, hfits⟩, hsource⟩
  refine ⟨?_, fun p hp => ?_⟩
  · rw [Option.isSome_iff_exists]
    constructor
    · rintro ⟨p, hp⟩
      exact ((hmade p).mp hp).1
    · exact fun hlimits => ⟨⟨source, r.anchored⟩, (hmade _).mpr ⟨hlimits, rfl, rfl⟩⟩
  · obtain ⟨-, hr, hsource⟩ := (hmade p).mp hp
    refine ⟨hsource, fun text => ?_⟩
    rw [isFullMatch, hr, isMatch_anchored_iff]

/-- The branches stay together between the two ends: `a|b` matches `b`, but not `ab`. -/
theorem isFullMatch_branches : ∃ e r, Spells "a|b" e r ∧ ∃ p, ofSource? "a|b" = some p ∧
    p.isFullMatch "b" ∧ ¬ p.isFullMatch "ab" := by
  have hspells : Spells "a|b" (.alternation [.literal ⟨'a', false⟩, .literal ⟨'b', false⟩])
      (.choice (.chars [⟨97, 97⟩]) (.chars [⟨98, 98⟩])) := ⟨by cbv, by cbv⟩
  obtain ⟨hmade, hmatches⟩ := isFullMatch_iff_spans hspells
  obtain ⟨p, hp⟩ := Option.isSome_iff_exists.mp (hmade.mpr (by decide +kernel))
  refine ⟨_, _, hspells, p, hp, ?_, ?_⟩
  · rw [(hmatches p hp).2]
    exact .inr ⟨rfl, 'b', rfl, by decide⟩
  · rw [(hmatches p hp).2]
    rintro (⟨hlength, -⟩ | ⟨hlength, -⟩)
    · exact absurd hlength (by decide)
    · exact absurd hlength (by decide)

/-- In verbose mode, what ends in a comment is an expression on its own, far from all limits, and
no pattern. -/
theorem comment_is_no_pattern : ∃ e r, Spells "(?x)a#" e r ∧ e.depth + 2 ≤ nestingLimit ∧
    r.anchored.fits ∧ Format.regex.holdsOfText "(?x)a#" ∧ (ofSource? "(?x)a#").isNone := by
  have hlimits : (Expr.read? "(?x)a#").any fun e => (e.elaborate? .initial).any fun x =>
      e.depth + 2 ≤ nestingLimit ∧ x.1.anchored.fits := by decide +kernel
  obtain ⟨e, hread, hlimits⟩ := (Option.any_eq_true _ _).mp hlimits
  obtain ⟨x, helaborate, hlimits⟩ := (Option.any_eq_true _ _).mp hlimits
  obtain ⟨hdepth, hfits⟩ := of_decide_eq_true hlimits
  refine ⟨e, x.1, ⟨hread, by rw [helaborate]; rfl⟩, hdepth, hfits, ?_, by decide +kernel⟩
  show (Regex.parse? "(?x)a#").isSome
  decide +kernel

end Pattern

end DraftSchema
