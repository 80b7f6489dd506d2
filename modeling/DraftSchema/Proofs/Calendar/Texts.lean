import DraftSchema.Proofs.Calendar.Shapes
import DraftSchema.Proofs.Scanner
import Mathlib.Data.List.Basic

/-!
# `DraftSchema.Proofs.Calendar.Texts`: which texts are read as dates and times

Each scanner of a date, a time or a moment reads the texts of one shape (`Scanner.Reads`). The
theorems:

* `reads_looseDate`, `reads_looseTime`, `reads_looseTimeWithSeconds`, `reads_strictDateTime` and
  `reads_looseDateTime`: the shapes.
* `momentText_withOffset_iff`: a letter Z at the end of a text stands for an offset of zero.
-/

set_option autoImplicit false

namespace DraftSchema

/-- The digit of a character is written as that character. -/
theorem Digit.ofChar?_eq_some_iff {c : Char} {d : Digit} :
    ofChar? c = some d ↔ c = d.toChar := by
  refine ⟨fun h => ?_, fun h => h ▸ ofChar?_toChar d⟩
  unfold ofChar? at h
  split at h
  · rename_i hrange
    rw [Option.some.injEq] at h
    subst h
    have hzero : '0'.toNat ≤ c.toNat := hrange.1
    have hsum : '0'.toNat + (c.toNat - '0'.toNat) = c.toNat := by omega
    show c = Char.ofNat ('0'.toNat + (c.toNat - '0'.toNat))
    rw [hsum, Char.ofNat_toNat]
  · cases h

namespace Calendar

open Scanner (out_bind_eq_some_iff Reads)
open Unicode.Property (isSpace)

variable {cs rest : List Char}

/-- No digit comes next. -/
def NoDigit (rest : List Char) : Prop := ∀ c ∈ rest.head?, Digit.ofChar? c = none

theorem noDigit_nil : NoDigit [] := by simp [NoDigit]

theorem noDigit_cons {c : Char} (h : Digit.ofChar? c = none) : NoDigit (c :: rest) := by
  simpa [NoDigit] using h

/-! ### Blanks and marks -/

/-- The blanks of every script. -/
theorem whiteSpace_eq : Unicode.Property.whiteSpace =
    [⟨9, 13⟩, ⟨32, 32⟩, ⟨0x85, 0x85⟩, ⟨0xA0, 0xA0⟩, ⟨0x1680, 0x1680⟩, ⟨0x2000, 0x200A⟩,
      ⟨0x2028, 0x2029⟩, ⟨0x202F, 0x202F⟩, ⟨0x205F, 0x205F⟩, ⟨0x3000, 0x3000⟩] := by
  decide +kernel

theorem not_isSpace_toChar (d : Digit) : isSpace d.toChar = false := by
  unfold isSpace
  rw [whiteSpace_eq]
  revert d
  decide

@[simp]
theorem out_spaces : spaces.out cs = some ((), cs.dropWhile isSpace) := by
  simp [spaces, Scanner.out_bind]

/-- Blanks are taken up to the first character that is none. -/
theorem dropWhile_blanks_append {blanks : List Char} (hblanks : ∀ c ∈ blanks, isSpace c)
    (hrest : ∀ c ∈ rest.head?, isSpace c = false) :
    (blanks ++ rest).dropWhile isSpace = rest := by
  rw [List.dropWhile_append_of_pos hblanks]
  cases rest with
  | nil => rfl
  | cons c rest => simp [hrest c rfl]

@[simp]
theorem out_mark {c : Char} {u : Unit} : (mark c).out cs = some (u, rest) ↔ cs = c :: rest := by
  simp only [mark, out_bind_eq_some_iff, Scanner.out_next, Scanner.out_guard, decide_eq_true_eq]
  refine ⟨?_, fun h => ⟨c, rest, h, rfl, rfl⟩⟩
  rintro ⟨_, _, rfl, rfl, rfl⟩
  rfl

/-! ### Numbers -/

/-- Digits in front of a text that does not go on with one are all the digits there. -/
theorem out_digitsUpTo_append {most : Nat} {ds : List Digit} (hmost : ds.length ≤ most)
    (hend : ds.length = most ∨ NoDigit rest) :
    (digitsUpTo most).out (Digit.chars ds ++ rest) = some (ds, rest) := by
  induction most generalizing ds with
  | zero =>
    obtain rfl : ds = [] := List.length_eq_zero_iff.mp (Nat.le_zero.mp hmost)
    rfl
  | succ most ih =>
    cases ds with
    | nil =>
      have hnone : rest.head?.bind Digit.ofChar? = none := by
        rcases hend with hend | hend
        · simp at hend
        · cases rest with
          | nil => rfl
          | cons c rest => exact hend c rfl
      simp [digitsUpTo, Scanner.out_bind, Digit.chars, hnone]
    | cons d ds =>
      have hrest : (digitsUpTo most).out (Digit.chars ds ++ rest) = some (ds, rest) :=
        ih (by simpa using hmost) (by simpa using hend)
      simp only [Digit.chars] at hrest
      simp [digitsUpTo, Scanner.out_bind, Digit.chars, Digit.ofChar?_toChar, hrest]

/-- Digits are taken, and no more than may be. -/
theorem eq_append_of_out_digitsUpTo {most : Nat} {ds : List Digit}
    (h : (digitsUpTo most).out cs = some (ds, rest)) :
    cs = Digit.chars ds ++ rest ∧ ds.length ≤ most := by
  induction most generalizing cs ds with
  | zero =>
    cases h
    exact ⟨rfl, Nat.le_refl _⟩
  | succ most ih =>
    simp only [digitsUpTo, Scanner.out_bind, Scanner.out_peek, Option.bind_some] at h
    split at h
    · cases h
      exact ⟨rfl, by simp⟩
    · rename_i d hd
      obtain ⟨c, hhead, hdigit⟩ := Option.bind_eq_some_iff.mp hd
      obtain ⟨tail, rfl⟩ : ∃ tail, cs = c :: tail := by
        cases cs with
        | nil => cases hhead
        | cons _ tail => exact ⟨tail, by simpa using hhead⟩
      obtain ⟨_, mid, hskip, h⟩ := out_bind_eq_some_iff.mp h
      obtain ⟨more, _, hmore, hds⟩ := out_bind_eq_some_iff.mp h
      obtain rfl : mid = tail := by simpa [eq_comm] using hskip
      simp only [Scanner.out_pure, Option.some.injEq, Prod.mk.injEq] at hds
      obtain ⟨rfl, rfl⟩ := hds
      obtain ⟨rfl, hlength⟩ := ih hmore
      rw [Digit.ofChar?_eq_some_iff.mp hdigit]
      exact ⟨rfl, by simpa using hlength⟩

/-- A number of so many digits. -/
inductive NumberText (least most : Nat) : List Char → Nat → Prop where
  | mk {ds : List Digit} (hleast : least ≤ ds.length) (hmost : ds.length ≤ most) :
      NumberText least most (Digit.chars ds) (Digit.value ds)

theorem reads_number (least most : Nat) :
    (number least most).Reads (NumberText least most) NoDigit where
  sound := by
    intro cs rest n h
    simp only [number, out_bind_eq_some_iff, Scanner.out_guard, Scanner.out_pure,
      decide_eq_true_eq] at h
    obtain ⟨ds, mid, hds, _, _, ⟨hleast, rfl⟩, hn⟩ := h
    cases hn
    obtain ⟨rfl, hmost⟩ := eq_append_of_out_digitsUpTo hds
    exact ⟨_, rfl, ⟨hleast, hmost⟩⟩
  complete := by
    rintro _ rest _ ⟨hleast, hmost⟩ hfollow
    have hds := out_digitsUpTo_append hmost (.inr hfollow)
    simp only [number, out_bind_eq_some_iff, Scanner.out_guard, decide_eq_true_eq]
    exact ⟨_, _, hds, (), _, ⟨hleast, rfl⟩, rfl⟩

/-- A number at full width is read whatever follows it. -/
theorem reads_fullField (width : Nat) :
    (number width width).Reads (FullField width) fun _ => True where
  sound := by
    intro cs rest n h
    obtain ⟨_, rfl, ⟨hleast, hmost⟩⟩ := (reads_number width width).sound h
    exact ⟨_, rfl, ⟨Nat.le_antisymm hmost hleast⟩⟩
  complete := by
    rintro _ rest _ ⟨hwidth⟩ -
    rename_i ds
    have hds : (digitsUpTo width).out (Digit.chars ds ++ rest) = some (ds, rest) :=
      out_digitsUpTo_append (Nat.le_of_eq hwidth) (.inl hwidth)
    simp only [number, out_bind_eq_some_iff, Scanner.out_guard, decide_eq_true_eq]
    exact ⟨_, _, hds, (), _, ⟨Nat.le_of_eq hwidth.symm, rfl⟩, rfl⟩

/-- A number of any length. -/
inductive LongText : List Char → Nat → Prop where
  | mk {ds : List Digit} (hleast : 1 ≤ ds.length) : LongText (Digit.chars ds) (Digit.value ds)

theorem reads_longNumber : longNumber.Reads LongText NoDigit where
  sound := by
    intro cs rest n h
    have hnumber : (number 1 cs.length).out cs = some (n, rest) := h
    obtain ⟨_, heq, ⟨hleast, -⟩⟩ := (reads_number 1 cs.length).sound hnumber
    exact ⟨_, heq, ⟨hleast⟩⟩
  complete := by
    rintro _ rest _ ⟨hleast⟩ hfollow
    refine (reads_number 1 _).complete ⟨hleast, ?_⟩ hfollow
    simp [Digit.chars]

theorem head?_chars_not_isSpace {ds : List Digit} (hleast : 1 ≤ ds.length) :
    ∀ c ∈ (Digit.chars ds ++ rest).head?, isSpace c = false := by
  cases ds with
  | nil => simp at hleast
  | cons d ds =>
    intro c hc
    cases hc
    exact not_isSpace_toChar d

theorem reads_looseField : looseField.Reads LooseField NoDigit where
  sound := by
    intro cs rest n h
    simp only [looseField, out_bind_eq_some_iff, out_spaces] at h
    obtain ⟨_, mid, hmid, hnumber⟩ := h
    cases hmid
    obtain ⟨_, hdigits, ⟨hleast, hmost⟩⟩ := (reads_number 1 2).sound hnumber
    refine ⟨cs.takeWhile isSpace ++ _, ?_,
      .mk (List.all_eq_true.mp List.all_takeWhile) hleast hmost⟩
    rw [List.append_assoc, ← hdigits, List.takeWhile_append_dropWhile]
  complete := by
    rintro _ rest _ ⟨hblanks, hleast, hmost⟩ hfollow
    simp only [looseField, out_bind_eq_some_iff, out_spaces, List.append_assoc]
    rw [dropWhile_blanks_append hblanks (head?_chars_not_isSpace hleast)]
    exact ⟨_, _, rfl, (reads_number 1 2).complete ⟨hleast, hmost⟩ hfollow⟩

/-! ### Dates -/

/-- Takes a sign and a number of any length, from which a year is made. -/
def signedYear (f : Nat → Int) : Scanner Int := do
  Scanner.skip 1
  return f (← longNumber)

theorem exists_of_out_signedYear {f : Nat → Int} {sign : Char} {y : Int}
    (hhead : cs.head? = some sign) (h : (signedYear f).out cs = some (y, rest)) :
    ∃ ds, 1 ≤ ds.length ∧ cs = sign :: Digit.chars ds ++ rest ∧ f (Digit.value ds) = y := by
  obtain ⟨tail, rfl⟩ := List.head?_eq_some_iff.mp hhead
  obtain ⟨_, _, hskip, h⟩ := out_bind_eq_some_iff.mp h
  cases hskip
  obtain ⟨n, _, hn, hy⟩ := out_bind_eq_some_iff.mp h
  cases hy
  obtain ⟨_, rfl, ⟨hleast⟩⟩ := reads_longNumber.sound hn
  exact ⟨_, hleast, rfl, rfl⟩

theorem out_signedYear (f : Nat → Int) (sign : Char) {ds : List Digit} (hleast : 1 ≤ ds.length)
    (hfollow : NoDigit rest) :
    (signedYear f).out (sign :: (Digit.chars ds ++ rest)) = some (f (Digit.value ds), rest) :=
  out_bind_eq_some_iff.mpr ⟨_, _, rfl,
    out_bind_eq_some_iff.mpr ⟨_, _, reads_longNumber.complete ⟨hleast⟩ hfollow, rfl⟩⟩

theorem reads_looseYear : looseYear.Reads LooseYear NoDigit where
  sound := by
    intro cs rest y h
    simp only [looseYear, out_bind_eq_some_iff, out_spaces, Scanner.out_peek] at h
    obtain ⟨_, mid, hmid, head, mid', hhead, h⟩ := h
    cases hmid
    cases hhead
    have hblanks : ∀ c ∈ cs.takeWhile isSpace, isSpace c := List.all_eq_true.mp List.all_takeWhile
    have hcut : cs = cs.takeWhile isSpace ++ cs.dropWhile isSpace :=
      List.takeWhile_append_dropWhile.symm
    split at h
    · rename_i hhead
      obtain ⟨ds, hleast, hds, rfl⟩ := exists_of_out_signedYear (f := fun n => -(n : Int)) hhead h
      exact ⟨_, by rw [List.append_assoc, ← hds, ← hcut], .minus hblanks hleast⟩
    · rename_i hhead
      obtain ⟨ds, hleast, hds, rfl⟩ := exists_of_out_signedYear (f := fun n => (n : Int)) hhead h
      exact ⟨_, by rw [List.append_assoc, ← hds, ← hcut], .plus hblanks hleast⟩
    · obtain ⟨n, _, hn, hy⟩ := out_bind_eq_some_iff.mp h
      cases hy
      obtain ⟨_, heq, ⟨hleast, hmost⟩⟩ := (reads_number 1 4).sound hn
      exact ⟨_, by rw [List.append_assoc, ← heq, ← hcut], .plain hblanks hleast hmost⟩
  complete := by
    intro text rest y htext hfollow
    simp only [looseYear, out_bind_eq_some_iff, out_spaces, Scanner.out_peek]
    cases htext with
    | @plain blanks ds hblanks hleast hmost =>
      have hn := (reads_number 1 4).complete ⟨hleast, hmost⟩ hfollow
      rw [List.append_assoc, dropWhile_blanks_append hblanks (head?_chars_not_isSpace hleast)]
      refine ⟨_, _, rfl, _, _, rfl, ?_⟩
      -- A digit is no sign.
      have hsign : ∀ d : Digit, d.toChar ≠ '-' ∧ d.toChar ≠ '+' := by decide
      cases ds with
      | nil => simp at hleast
      | cons d ds =>
        split
        · rename_i hhead
          exact absurd (Option.some.inj hhead) (hsign d).1
        · rename_i hhead
          exact absurd (Option.some.inj hhead) (hsign d).2
        · exact out_bind_eq_some_iff.mpr ⟨_, _, hn, rfl⟩
    | plus hblanks hleast =>
      have hplus : isSpace '+' = false := by decide
      rw [List.append_assoc, dropWhile_blanks_append hblanks (by simp [hplus])]
      exact ⟨_, _, rfl, _, _, rfl, out_signedYear (fun n => (n : Int)) '+' hleast hfollow⟩
    | minus hblanks hleast =>
      have hminus : isSpace '-' = false := by decide
      rw [List.append_assoc, dropWhile_blanks_append hblanks (by simp [hminus])]
      exact ⟨_, _, rfl, _, _, rfl, out_signedYear (fun n => -(n : Int)) '-' hleast hfollow⟩

theorem reads_looseDate : looseDate.Reads (DateText LooseYear LooseField) NoDigit where
  sound := by
    intro cs rest date h
    simp only [looseDate, out_bind_eq_some_iff, out_mark] at h
    obtain ⟨y, _, hyear, _, _, rfl, m, _, hmonth, _, _, rfl, d, _, hday, hdate⟩ := h
    cases hdate
    obtain ⟨yText, rfl, hy⟩ := reads_looseYear.sound hyear
    obtain ⟨mText, rfl, hm⟩ := reads_looseField.sound hmonth
    obtain ⟨dText, rfl, hd⟩ := reads_looseField.sound hday
    exact ⟨_, by simp, ⟨hy, hm, hd⟩⟩
  complete := by
    rintro _ rest _ ⟨hyear, hmonth, hday⟩ hfollow
    simp only [looseDate, out_bind_eq_some_iff, out_mark, List.append_assoc, List.cons_append]
    have hhyphen : Digit.ofChar? '-' = none := by decide
    exact ⟨_, _, reads_looseYear.complete hyear (noDigit_cons hhyphen), (), _, rfl,
      _, _, reads_looseField.complete hmonth (noDigit_cons hhyphen), (), _, rfl,
      _, _, reads_looseField.complete hday hfollow, rfl⟩

/-! ### Times -/

/-- Neither a digit nor a point comes next. -/
def NoFraction (rest : List Char) : Prop := NoDigit rest ∧ rest.head? ≠ some '.'

theorem reads_optionalFraction :
    optionalFraction.Reads (fun text _ => FractionText text) NoFraction where
  sound := by
    intro cs rest u h
    simp only [optionalFraction, out_bind_eq_some_iff, Scanner.out_peek] at h
    obtain ⟨_, _, hpeek, h⟩ := h
    cases hpeek
    split at h
    · simp only [fraction, out_bind_eq_some_iff, out_mark] at h
      obtain ⟨_, _, rfl, n, _, hn, hrest⟩ := h
      cases hrest
      obtain ⟨_, rfl, ⟨hleast⟩⟩ := reads_longNumber.sound hn
      exact ⟨_, rfl, .digits hleast⟩
    · cases h
      exact ⟨[], rfl, .absent⟩
  complete := by
    intro text rest u htext hfollow
    simp only [optionalFraction, out_bind_eq_some_iff, Scanner.out_peek]
    refine ⟨_, _, rfl, ?_⟩
    cases htext with
    | absent => rw [List.nil_append, if_neg hfollow.2, Scanner.out_pure]
    | digits hleast =>
      rw [List.cons_append, List.head?_cons, if_pos rfl]
      simp only [fraction, out_bind_eq_some_iff, out_mark]
      exact ⟨(), _, rfl, _, _, reads_longNumber.complete ⟨hleast⟩ hfollow.1, rfl⟩

theorem reads_looseTime : looseTime.Reads (MinuteText LooseField) NoDigit where
  sound := by
    intro cs rest t h
    simp only [looseTime, out_bind_eq_some_iff, out_mark] at h
    obtain ⟨hour, _, hhour, _, _, rfl, minute, _, hminute, ht⟩ := h
    cases ht
    obtain ⟨_, rfl, hh⟩ := reads_looseField.sound hhour
    obtain ⟨_, rfl, hm⟩ := reads_looseField.sound hminute
    exact ⟨_, by simp, ⟨hh, hm⟩⟩
  complete := by
    rintro _ rest _ ⟨hhour, hminute⟩ hfollow
    simp only [looseTime, out_bind_eq_some_iff, out_mark, List.append_assoc, List.cons_append]
    have hcolon : Digit.ofChar? ':' = none := by decide
    exact ⟨_, _, reads_looseField.complete hhour (noDigit_cons hcolon), (), _, rfl,
      _, _, reads_looseField.complete hminute hfollow, rfl⟩

theorem FractionText.noDigit {text : List Char} (h : FractionText text) (hrest : NoDigit rest) :
    NoDigit (text ++ rest) := by
  cases h with
  | absent => exact hrest
  | digits _ =>
    have hpoint : Digit.ofChar? '.' = none := by decide
    exact noDigit_cons hpoint

theorem reads_looseTimeWithSeconds :
    looseTimeWithSeconds.Reads (SecondText LooseField) NoFraction where
  sound := by
    intro cs rest t h
    simp only [looseTimeWithSeconds, out_bind_eq_some_iff, out_mark] at h
    obtain ⟨t', _, htime, _, _, rfl, s, _, hsecond, _, _, hfraction, ht⟩ := h
    cases ht
    obtain ⟨_, rfl, ⟨hhour, hminute⟩⟩ := reads_looseTime.sound htime
    obtain ⟨_, rfl, hs⟩ := reads_looseField.sound hsecond
    obtain ⟨_, rfl, hf⟩ := reads_optionalFraction.sound hfraction
    exact ⟨_, by simp, ⟨hhour, hminute, hs, hf⟩⟩
  complete := by
    rintro _ rest t ⟨hhour, hminute, hsecond, hfraction⟩ hfollow
    simp only [looseTimeWithSeconds, out_bind_eq_some_iff, out_mark, List.append_assoc,
      List.cons_append]
    have hcolon : Digit.ofChar? ':' = none := by decide
    have htime : ∀ more, looseTime.out _ = some (_, ':' :: more) := fun more =>
      reads_looseTime.complete ⟨hhour, hminute⟩ (noDigit_cons hcolon)
    simp only [List.append_assoc, List.cons_append] at htime
    exact ⟨_, _, htime _, (), _, rfl,
      _, _, reads_looseField.complete hsecond (hfraction.noDigit hfollow.1),
      (), _, reads_optionalFraction.complete hfraction hfollow, rfl⟩

/-! ### Offsets -/

theorem out_offsetSign {negative : Bool} : offsetSign.out cs = some (negative, rest) ↔
    ∃ sign, cs = sign :: rest ∧ AnySign sign ∧ negative = decide (sign ≠ '+') := by
  simp only [offsetSign, out_bind_eq_some_iff, Scanner.out_next]
  refine ⟨?_, ?_⟩
  · rintro ⟨sign, mid, rfl, h⟩
    split at h
    · cases h
      exact ⟨_, rfl, .inl rfl, rfl⟩
    · cases h
      exact ⟨_, rfl, .inr (.inl rfl), rfl⟩
    · cases h
      exact ⟨_, rfl, .inr (.inr rfl), rfl⟩
    · cases h
  · rintro ⟨sign, rfl, rfl | rfl | rfl, rfl⟩
    all_goals exact ⟨_, _, rfl, rfl⟩

/-- The value of an offset by its sign. -/
theorem signed_eq {sign : Char} {hours minutes : Nat} : signed sign hours minutes =
    if decide (sign ≠ '+') then -((hours : Int) * 3600 + minutes * 60)
    else (hours : Int) * 3600 + minutes * 60 := by
  unfold signed
  by_cases hsign : sign = '+' <;> simp [hsign]

/-- What stands between hours and minutes is read by a scanner that stops in front of digits. -/
theorem reads_offset {between : Scanner Unit} {Between Follow : List Char → Prop}
    (h : between.Reads (fun text _ => Between text) Follow)
    (hfollow : ∀ (d : Digit) rest, Follow (d.toChar :: rest)) :
    (offset between).Reads (OffsetText AnySign Between) fun _ => True where
  sound := by
    intro cs rest o hout
    simp only [offset, out_bind_eq_some_iff, out_offsetSign, Scanner.out_guard,
      decide_eq_true_eq] at hout
    obtain ⟨_, _, ⟨sign, rfl, hsign, rfl⟩, hours, _, hhours, _, _, hbetween, minutes, _, hminutes,
      _, _, ⟨hrange, rfl⟩, ho⟩ := hout
    rw [← signed_eq] at ho
    cases ho
    obtain ⟨_, rfl, hhoursText⟩ := (reads_fullField 2).sound hhours
    obtain ⟨_, rfl, hbetweenText⟩ := h.sound hbetween
    obtain ⟨_, rfl, hminutesText⟩ := (reads_fullField 2).sound hminutes
    exact ⟨_, by simp, ⟨hsign, hhoursText, hbetweenText, hminutesText, hrange⟩⟩
  complete := by
    rintro _ rest _ ⟨hsign, hhours, hbetween, hminutes, hrange⟩ -
    rename_i sign h' betweenText m hours minutes
    have hdigit : Follow (m ++ rest) := by
      obtain ⟨hwidth⟩ := hminutes
      rename_i ds
      cases ds with
      | nil => cases hwidth
      | cons d ds => exact hfollow d _
    simp only [offset, out_bind_eq_some_iff, out_offsetSign, Scanner.out_guard,
      decide_eq_true_eq, List.append_assoc, List.cons_append]
    refine ⟨_, _, ⟨sign, rfl, hsign, rfl⟩, _, _, (reads_fullField 2).complete hhours trivial,
      (), _, h.complete hbetween hdigit, _, _, (reads_fullField 2).complete hminutes trivial,
      (), _, ⟨hrange, rfl⟩, ?_⟩
    rw [← signed_eq]
    rfl

theorem reads_colon : (mark ':').Reads (fun text _ => text = [':']) fun _ => True where
  sound h := ⟨[':'], out_mark.mp h, rfl⟩
  complete := by
    rintro _ rest _ rfl -
    exact out_mark.mpr rfl

theorem reads_gap :
    (do let _ ← Scanner.takeWhile isGap : Scanner Unit).Reads
      (fun text _ => ∀ c ∈ text, isGap c) fun rest => ∀ c ∈ rest.head?, isGap c = false where
  sound := by
    intro cs rest u h
    obtain ⟨_, _, htake, hrest⟩ := out_bind_eq_some_iff.mp h
    cases htake
    cases hrest
    exact ⟨_, List.takeWhile_append_dropWhile.symm, List.all_eq_true.mp List.all_takeWhile⟩
  complete := by
    intro text rest u htext hfollow
    have hrest : (text ++ rest).dropWhile isGap = rest := by
      rw [List.dropWhile_append_of_pos htext]
      cases rest with
      | nil => rfl
      | cons c rest => simp [hfollow c rfl]
    refine out_bind_eq_some_iff.mpr ⟨_, _, rfl, ?_⟩
    show some ((), (text ++ rest).dropWhile isGap) = _
    rw [hrest]

theorem AnySign.ne {sign : Char} (h : AnySign sign) :
    sign ≠ 'Z' ∧ sign ≠ 'z' ∧ sign ≠ '.' ∧ Digit.ofChar? sign = none ∧ isSpace sign = false := by
  rcases h with rfl | rfl | rfl <;> decide

/-- An offset starts with its sign. -/
theorem OffsetText.exists_sign {Between : List Char → Prop} {text : List Char} {offset : Int}
    (h : OffsetText AnySign Between text offset) :
    ∃ sign tail, text = sign :: tail ∧ AnySign sign := by
  obtain ⟨hsign, -, -, -, -⟩ := h
  exact ⟨_, _, rfl, hsign⟩

theorem reads_strictOffset : strictOffset.Reads SecondZone fun _ => True where
  sound := by
    intro cs rest o h
    simp only [strictOffset, out_bind_eq_some_iff, Scanner.out_peek] at h
    obtain ⟨_, _, hpeek, h⟩ := h
    cases hpeek
    split at h
    · rename_i hhead
      obtain ⟨tail, rfl⟩ := List.head?_eq_some_iff.mp hhead
      cases h
      exact ⟨_, rfl, .zulu (.inl rfl)⟩
    · rename_i hhead
      obtain ⟨tail, rfl⟩ := List.head?_eq_some_iff.mp hhead
      cases h
      exact ⟨_, rfl, .zulu (.inr rfl)⟩
    · obtain ⟨_, rfl, htext⟩ := (reads_offset reads_colon fun _ _ => trivial).sound h
      exact ⟨_, rfl, .offset htext⟩
  complete := by
    intro text rest o htext hfollow
    simp only [strictOffset, out_bind_eq_some_iff, Scanner.out_peek]
    refine ⟨_, _, rfl, ?_⟩
    cases htext with
    | zulu hc => rcases hc with rfl | rfl <;> rfl
    | offset h =>
      have hout : (offset (mark ':')).out (text ++ rest) = some (o, rest) :=
        (reads_offset reads_colon fun _ _ => trivial).complete h hfollow
      obtain ⟨sign, tail, rfl, hsign⟩ := h.exists_sign
      split
      · rename_i hhead
        exact absurd (Option.some.inj hhead) hsign.ne.1
      · rename_i hhead
        exact absurd (Option.some.inj hhead) hsign.ne.2.1
      · exact hout

/-- An offset with blanks in front and gaps inside, but no letter. -/
inductive LooseOffset : List Char → Int → Prop where
  | mk {blanks text : List Char} {offset : Int} (hblanks : ∀ c ∈ blanks, isSpace c)
      (h : OffsetText AnySign (fun between => ∀ c ∈ between, isGap c) text offset) :
      LooseOffset (blanks ++ text) offset

theorem reads_looseOffset : looseOffset.Reads LooseOffset fun _ => True := by
  have hdigit : ∀ (d : Digit) (rest : List Char),
      ∀ c ∈ (d.toChar :: rest).head?, isGap c = false := by
    intro d rest c hc
    cases hc
    have hcolon : ∀ d : Digit, d.toChar ≠ ':' := by decide
    simp [isGap, hcolon d, not_isSpace_toChar d]
  have hoffset := reads_offset reads_gap hdigit
  refine ⟨fun {cs rest o} h => ?_, ?_⟩
  · simp only [looseOffset, out_bind_eq_some_iff, out_spaces] at h
    obtain ⟨_, _, hspaces, h⟩ := h
    cases hspaces
    obtain ⟨text, heq, htext⟩ := hoffset.sound h
    refine ⟨cs.takeWhile isSpace ++ text, ?_, ⟨List.all_eq_true.mp List.all_takeWhile, htext⟩⟩
    rw [List.append_assoc, ← heq, List.takeWhile_append_dropWhile]
  · rintro _ rest _ ⟨hblanks, htext⟩ hfollow
    have hout : ∀ rest, (offset _).out (_ ++ rest) = some (_, rest) := fun rest =>
      hoffset.complete htext hfollow
    simp only [looseOffset, out_bind_eq_some_iff, out_spaces, List.append_assoc]
    obtain ⟨sign, tail, rfl, hsign⟩ := htext.exists_sign
    rw [dropWhile_blanks_append hblanks (by simp [hsign.ne.2.2.2.2])]
    exact ⟨_, _, rfl, hout rest⟩

/-! ### Moments -/

theorem noDigit_blanks_append {blanks : List Char} (hblanks : ∀ c ∈ blanks, isSpace c)
    (hrest : NoDigit rest) : NoDigit (blanks ++ rest) := by
  cases blanks with
  | nil => exact hrest
  | cons c blanks =>
    refine noDigit_cons ?_
    rcases hdigit : Digit.ofChar? c with _ | d
    · rfl
    · have hspace := hblanks c List.mem_cons_self
      rw [Digit.ofChar?_eq_some_iff.mp hdigit, not_isSpace_toChar] at hspace
      cases hspace

theorem LooseOffset.noDigit {text : List Char} {offset : Int} (h : LooseOffset text offset) :
    NoDigit (text ++ rest) := by
  obtain ⟨hblanks, h⟩ := h
  obtain ⟨sign, tail, rfl, hsign⟩ := h.exists_sign
  rw [List.append_assoc]
  exact noDigit_blanks_append hblanks (noDigit_cons hsign.ne.2.2.2.1)

theorem reads_strictDateTime : strictDateTime.Reads
    (MomentText (DateText FullYear (FullField 2)) (fun c => c = 'T' ∨ c = 't' ∨ c = ' ')
      (SecondText (FullField 2)) SecondZone) fun _ => True where
  sound := by
    intro cs rest moment h
    simp only [strictDateTime, out_bind_eq_some_iff, out_mark, Scanner.out_next,
      Scanner.out_guard, Bool.or_eq_true, decide_eq_true_eq] at h
    obtain ⟨year, _, hyear, _, _, rfl, month, _, hmonth, _, _, rfl, day, _, hday, c, _, rfl, _, _,
      ⟨hc, rfl⟩, hour, _, hhour, _, _, rfl, minute, _, hminute, _, _, rfl, second, _, hsecond,
      _, _, hfraction, offset, _, hoffset, hmoment⟩ := h
    cases hmoment
    obtain ⟨_, rfl, hy⟩ := (reads_fullField 4).sound hyear
    obtain ⟨_, rfl, hm⟩ := (reads_fullField 2).sound hmonth
    obtain ⟨_, rfl, hd⟩ := (reads_fullField 2).sound hday
    obtain ⟨_, rfl, hh⟩ := (reads_fullField 2).sound hhour
    obtain ⟨_, rfl, hmin⟩ := (reads_fullField 2).sound hminute
    obtain ⟨_, rfl, hs⟩ := (reads_fullField 2).sound hsecond
    obtain ⟨_, rfl, hf⟩ := reads_optionalFraction.sound hfraction
    obtain ⟨_, rfl, hz⟩ := reads_strictOffset.sound hoffset
    exact ⟨_, by simp, .mk ⟨⟨hy⟩, hm, hd⟩ (or_assoc.mp hc) ⟨hh, hmin, hs, hf⟩ hz⟩
  complete := by
    rintro _ rest moment ⟨hdate, hmark, htime, hzone⟩ hfollow
    rename_i dateText timeText zoneText c
    obtain ⟨date, time, offset⟩ := moment
    obtain ⟨hyear, hmonth, hday⟩ := hdate
    obtain ⟨hhour, hminute, hsecond, hfraction⟩ := htime
    rename_i yearText monthText dayText hourText minuteText secondText fractionText
    obtain ⟨year, month, day⟩ := date
    obtain ⟨hyear⟩ := hyear
    have hnone : NoFraction (zoneText ++ rest) := by
      cases hzone with
      | zulu hc => rcases hc with rfl | rfl <;> exact ⟨noDigit_cons (by decide), by simp⟩
      | offset h =>
        obtain ⟨sign, tail, rfl, hsign⟩ := h.exists_sign
        exact ⟨noDigit_cons hsign.ne.2.2.2.1, by simp [hsign.ne.2.2.1]⟩
    simp only [strictDateTime, out_bind_eq_some_iff, out_mark, Scanner.out_next,
      Scanner.out_guard, Bool.or_eq_true, decide_eq_true_eq, List.append_assoc, List.cons_append]
    exact ⟨_, _, (reads_fullField 4).complete hyear trivial, (), _, rfl,
      _, _, (reads_fullField 2).complete hmonth trivial, (), _, rfl,
      _, _, (reads_fullField 2).complete hday trivial, _, _, rfl, (), _, ⟨or_assoc.mpr hmark, rfl⟩,
      _, _, (reads_fullField 2).complete hhour trivial, (), _, rfl,
      _, _, (reads_fullField 2).complete hminute trivial, (), _, rfl,
      _, _, (reads_fullField 2).complete hsecond trivial,
      (), _, reads_optionalFraction.complete hfraction hnone,
      _, _, reads_strictOffset.complete hzone trivial, rfl⟩

theorem reads_looseDateTime : looseDateTime.Reads
    (MomentText (DateText LooseYear LooseField) (· = 'T') (MinuteText LooseField) LooseOffset)
    fun _ => True where
  sound := by
    intro cs rest moment h
    simp only [looseDateTime, out_bind_eq_some_iff, out_mark] at h
    obtain ⟨date, _, hdate, _, _, rfl, time, _, htime, offset, _, hoffset, hmoment⟩ := h
    cases hmoment
    obtain ⟨_, rfl, hd⟩ := reads_looseDate.sound hdate
    obtain ⟨_, rfl, ht⟩ := reads_looseTime.sound htime
    obtain ⟨_, rfl, hz⟩ := reads_looseOffset.sound hoffset
    exact ⟨_, by simp, .mk hd rfl ht hz⟩
  complete := by
    rintro _ rest moment ⟨hdate, rfl, htime, hzone⟩ hfollow
    rename_i dateText timeText zoneText
    have hdigit : NoDigit (zoneText ++ rest) := hzone.noDigit
    simp only [looseDateTime, out_bind_eq_some_iff, out_mark, List.append_assoc, List.cons_append]
    have hT : Digit.ofChar? 'T' = none := by decide
    exact ⟨_, _, reads_looseDate.complete hdate (noDigit_cons hT), (), _, rfl,
      _, _, reads_looseTime.complete htime hdigit,
      _, _, reads_looseOffset.complete hzone trivial, rfl⟩

/-! ### The last letter -/

/-- An offset at the end of a text that ends with an offset of zero is this one. -/
theorem eq_zero_of_append_eq {front text init : List Char} {offset : Int}
    (h : OffsetText AnySign (fun between => ∀ c ∈ between, isGap c) text offset)
    (heq : front ++ text = init ++ ['+', '0', '0', ':', '0', '0']) :
    front = init ∧ offset = 0 := by
  obtain ⟨hsign, ⟨hhours⟩, hbetween, ⟨hminutes⟩, -⟩ := h
  rename_i sign between hs ms
  obtain ⟨h₁, h₂, rfl⟩ := List.length_eq_two.mp hhours
  obtain ⟨m₁, m₂, rfl⟩ := List.length_eq_two.mp hminutes
  have hcolon : ∀ d : Digit, d.toChar ≠ ':' := by decide
  have hzero : ∀ d : Digit, d.toChar = '0' → d = 0 := by decide
  have hgap : isGap '0' = false := by
    simp only [isGap, isSpace, whiteSpace_eq]
    decide
  -- Character by character from the end.
  have hm : front ++ sign :: h₁.toChar :: h₂.toChar :: between = init ++ ['+', '0', '0', ':'] ∧
      m₁.toChar = '0' ∧ m₂.toChar = '0' := by
    have hshape : (front ++ sign :: h₁.toChar :: h₂.toChar :: between) ++ [m₁.toChar, m₂.toChar]
        = (init ++ ['+', '0', '0', ':']) ++ ['0', '0'] := by
      simpa [Digit.chars] using heq
    obtain ⟨hfront, hback⟩ := List.append_inj' hshape rfl
    simpa [hfront] using hback
  obtain ⟨hfront, hm₁, hm₂⟩ := hm
  rcases List.eq_nil_or_concat between with rfl | ⟨between, c, rfl⟩
  · have hshape : (front ++ [sign, h₁.toChar]) ++ [h₂.toChar]
        = (init ++ ['+', '0', '0']) ++ [':'] := by simpa using hfront
    have hback := (List.append_inj' hshape rfl).2
    exact absurd (by simpa using hback) (hcolon h₂)
  · have hshape : (front ++ sign :: h₁.toChar :: h₂.toChar :: between) ++ [c]
        = (init ++ ['+', '0', '0']) ++ [':'] := by simpa using hfront
    have hfront := (List.append_inj' hshape rfl).1
    rcases List.eq_nil_or_concat between with rfl | ⟨between, c, rfl⟩
    · obtain ⟨rfl, hhours⟩ := List.append_inj' hfront rfl
      simp only [List.cons.injEq] at hhours
      obtain ⟨rfl, hh₁, hh₂, -⟩ := hhours
      rw [hzero _ hh₁, hzero _ hh₂, hzero _ hm₁, hzero _ hm₂]
      exact ⟨rfl, rfl⟩
    · have hshape : (front ++ sign :: h₁.toChar :: h₂.toChar :: between) ++ [c]
          = (init ++ ['+', '0']) ++ ['0'] := by simpa using hfront
      have hback := (List.append_inj' hshape rfl).2
      have hc : c = '0' := by simpa using hback
      have hmem := hbetween c (by simp)
      rw [hc, hgap] at hmem
      cases hmem

theorem offsetText_zero : OffsetText AnySign (fun between => ∀ c ∈ between, isGap c)
    ['+', '0', '0', ':', '0', '0'] 0 :=
  @OffsetText.mk _ _ '+' (Digit.chars [0, 0]) [':'] (Digit.chars [0, 0]) _ _ (.inl rfl) ⟨rfl⟩
    (by simp [isGap]) ⟨rfl⟩ (by decide)

/-- An offset does not end with a letter. -/
theorem getLast?_ne_of_offsetText {front text : List Char} {offset : Int} {Between}
    (h : OffsetText AnySign Between text offset) : (front ++ text).getLast? ≠ some 'Z' := by
  obtain ⟨-, -, -, ⟨hminutes⟩, -⟩ := h
  rename_i sign h between hours ms
  obtain ⟨m₁, m₂, rfl⟩ := List.length_eq_two.mp hminutes
  have hletter : ∀ d : Digit, d.toChar ≠ 'Z' := by decide
  have hshape : front ++ sign :: (h ++ (between ++ Digit.chars [m₁, m₂]))
      = (front ++ sign :: (h ++ (between ++ [m₁.toChar]))) ++ [m₂.toChar] := by
    simp [Digit.chars]
  rw [hshape, List.getLast?_concat]
  exact fun heq => hletter m₂ (Option.some.inj heq)

section

variable {D : List Char → Date → Prop} {M : Char → Prop} {T : List Char → Time → Prop}
variable {moment : DateTime}

/-- The letter Z at the end stands for an offset of zero. -/
theorem momentText_zulu_iff {init : List Char} :
    MomentText D M T LooseOffset (init ++ ['+', '0', '0', ':', '0', '0']) moment ↔
      MomentText D M T LooseZone (init ++ ['Z']) moment := by
  refine ⟨fun h => ?_, fun h => ?_⟩
  · generalize htext : init ++ ['+', '0', '0', ':', '0', '0'] = text at h
    obtain ⟨hdate, hmark, htime, hzone⟩ := h
    generalize hoffset : moment.offset = offset at hzone
    obtain ⟨hblanks, hzone⟩ := hzone
    rename_i d t mark blanks zone
    have heq : (d ++ mark :: (t ++ blanks)) ++ zone = init ++ ['+', '0', '0', ':', '0', '0'] := by
      simp [htext]
    obtain ⟨rfl, hzero⟩ := eq_zero_of_append_eq hzone heq
    have hzulu : LooseZone (blanks ++ ['Z']) moment.offset := by
      rw [hoffset, hzero]
      exact .zulu hblanks
    have hmoment := MomentText.mk hdate hmark htime hzulu
    simpa using hmoment
  · generalize htext : init ++ ['Z'] = text at h
    obtain ⟨hdate, hmark, htime, hzone⟩ := h
    generalize hoffset : moment.offset = offset at hzone
    rename_i d t zone mark
    cases hzone with
    | zulu hblanks =>
      rename_i blanks
      have hshape : init ++ ['Z'] = (d ++ mark :: (t ++ blanks)) ++ ['Z'] := by simp [htext]
      obtain ⟨rfl, -⟩ := List.append_inj' hshape rfl
      have hzero : LooseOffset (blanks ++ ['+', '0', '0', ':', '0', '0']) moment.offset := by
        rw [hoffset]
        exact ⟨hblanks, offsetText_zero⟩
      have hmoment := MomentText.mk hdate hmark htime hzero
      simpa using hmoment
    | offset hblanks h =>
      rename_i blanks zone
      have hne : ((d ++ mark :: (t ++ blanks)) ++ zone).getLast? ≠ some 'Z' :=
        getLast?_ne_of_offsetText h
      refine absurd ?_ hne
      have hshape : (d ++ mark :: (t ++ blanks)) ++ zone = init ++ ['Z'] := by simp [htext]
      rw [hshape, List.getLast?_concat]

/-- Without that letter the zone is an offset. -/
theorem momentText_iff_of_getLast?_ne (hlast : cs.getLast? ≠ some 'Z') :
    MomentText D M T LooseOffset cs moment ↔ MomentText D M T LooseZone cs moment := by
  refine ⟨?_, ?_⟩
  · rintro ⟨hdate, hmark, htime, hzone⟩
    refine ⟨hdate, hmark, htime, ?_⟩
    obtain ⟨hblanks, h⟩ := hzone
    exact .offset hblanks h
  · rintro ⟨hdate, hmark, htime, hzone⟩
    refine ⟨hdate, hmark, htime, ?_⟩
    generalize moment.offset = offset at hzone ⊢
    cases hzone with
    | zulu hblanks =>
      rename_i d t mark blanks
      refine absurd ?_ hlast
      have hshape : d ++ mark :: (t ++ (blanks ++ ['Z']))
          = (d ++ mark :: (t ++ blanks)) ++ ['Z'] := by simp
      rw [hshape, List.getLast?_concat]
    | offset hblanks h => exact ⟨hblanks, h⟩

/-- The text with its zone written as an offset is the same moment. -/
theorem momentText_withOffset_iff :
    MomentText D M T LooseOffset (withOffset cs) moment ↔ MomentText D M T LooseZone cs moment := by
  unfold withOffset
  split
  · rename_i hlast
    obtain ⟨init, rfl⟩ := List.getLast?_eq_some_iff.mp hlast
    rw [List.dropLast_concat]
    exact momentText_zulu_iff
  · rename_i hlast
    exact momentText_iff_of_getLast?_ne hlast

end

end Calendar
end DraftSchema
