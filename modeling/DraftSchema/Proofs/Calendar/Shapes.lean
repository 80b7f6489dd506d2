import DraftSchema.Calendar.Text

/-!
# `DraftSchema.Proofs.Calendar.Shapes`: texts of dates and times

How dates, times and moments are written, apart from how they are read, and which of them there
are. A number is written at full width (`FullField`) or loosely (`LooseField`), and so is a year.
A shape of a date or a time is given for any way to write the numbers in it. The theorems:

* `Date.isValid_iff`, `Time.isValid_iff` and `DateTime.isValid_iff`: which dates, times and
  moments there are.
* `DateText.mono` and the like: what is written at full width is also written loosely.
-/

set_option autoImplicit false

namespace DraftSchema.Calendar

open Unicode.Property (isSpace)

/-! ### Numbers -/

/-- A number at full width. -/
inductive FullField (width : Nat) : List Char → Nat → Prop where
  | mk {ds : List Digit} (hwidth : ds.length = width) :
      FullField width (Digit.chars ds) (Digit.value ds)

/-- A number of one or two digits, with blanks in front. -/
inductive LooseField : List Char → Nat → Prop where
  | mk {blanks : List Char} {ds : List Digit} (hblanks : ∀ c ∈ blanks, isSpace c)
      (hleast : 1 ≤ ds.length) (hmost : ds.length ≤ 2) :
      LooseField (blanks ++ Digit.chars ds) (Digit.value ds)

/-- A year of four digits. -/
inductive FullYear : List Char → Int → Prop where
  | mk {text : List Char} {n : Nat} (h : FullField 4 text n) : FullYear text n

/-- A year of at most four digits, or of any number behind a sign, with blanks in front. -/
inductive LooseYear : List Char → Int → Prop where
  | plain {blanks : List Char} {ds : List Digit} (hblanks : ∀ c ∈ blanks, isSpace c)
      (hleast : 1 ≤ ds.length) (hmost : ds.length ≤ 4) :
      LooseYear (blanks ++ Digit.chars ds) (Digit.value ds)
  | plus {blanks : List Char} {ds : List Digit} (hblanks : ∀ c ∈ blanks, isSpace c)
      (hleast : 1 ≤ ds.length) : LooseYear (blanks ++ '+' :: Digit.chars ds) (Digit.value ds)
  | minus {blanks : List Char} {ds : List Digit} (hblanks : ∀ c ∈ blanks, isSpace c)
      (hleast : 1 ≤ ds.length) : LooseYear (blanks ++ '-' :: Digit.chars ds) (-Digit.value ds)

/-! ### Dates and times -/

/-- A year, a month and a day with hyphens in between. -/
inductive DateText (Year : List Char → Int → Prop) (Field : List Char → Nat → Prop) :
    List Char → Date → Prop where
  | mk {y m d : List Char} {date : Date} (hyear : Year y date.year) (hmonth : Field m date.month)
      (hday : Field d date.day) : DateText Year Field (y ++ '-' :: (m ++ '-' :: d)) date

/-- Hours and minutes with a colon in between. -/
inductive MinuteText (Field : List Char → Nat → Prop) : List Char → Time → Prop where
  | mk {h m : List Char} {hour minute : Nat} (hhour : Field h hour) (hminute : Field m minute) :
      MinuteText Field (h ++ ':' :: m) ⟨hour, minute, 0⟩

/-- Nothing, or digits behind a point. -/
inductive FractionText : List Char → Prop where
  | absent : FractionText []
  | digits {ds : List Digit} (hleast : 1 ≤ ds.length) : FractionText ('.' :: Digit.chars ds)

/-- Hours, minutes and seconds with colons in between, and perhaps a fraction. -/
inductive SecondText (Field : List Char → Nat → Prop) : List Char → Time → Prop where
  | mk {h m s fraction : List Char} {t : Time} (hhour : Field h t.hour)
      (hminute : Field m t.minute) (hsecond : Field s t.second)
      (hfraction : FractionText fraction) :
      SecondText Field (h ++ ':' :: (m ++ ':' :: (s ++ fraction))) t

/-! ### Moments -/

/-- The seconds of an offset; every sign but plus is a minus. -/
def signed (sign : Char) (hours minutes : Nat) : Int :=
  if sign = '+' then hours * 3600 + minutes * 60 else -(hours * 3600 + minutes * 60)

/-- The sign of an offset. A minus may also be the mathematical one. -/
def AnySign (c : Char) : Prop := c = '+' ∨ c = '-' ∨ c = '\u2212'

/-- A sign with hours and minutes and something in between. -/
inductive OffsetText (Sign : Char → Prop) (Between : List Char → Prop) :
    List Char → Int → Prop where
  | mk {sign : Char} {h between m : List Char} {hours minutes : Nat} (hsign : Sign sign)
      (hhours : FullField 2 h hours) (hbetween : Between between)
      (hminutes : FullField 2 m minutes) (hrange : minutes < 60) :
      OffsetText Sign Between (sign :: (h ++ (between ++ m))) (signed sign hours minutes)

/-- The letter Z, or an offset with a colon. -/
inductive FullZone : List Char → Int → Prop where
  | zulu : FullZone ['Z'] 0
  | offset {text : List Char} {offset : Int}
      (h : OffsetText (fun c => c = '+' ∨ c = '-') (· = [':']) text offset) : FullZone text offset

/-- The letter Z in any case, or an offset with a colon and any sign. -/
inductive SecondZone : List Char → Int → Prop where
  | zulu {c : Char} (hc : c = 'Z' ∨ c = 'z') : SecondZone [c] 0
  | offset {text : List Char} {offset : Int} (h : OffsetText AnySign (· = [':']) text offset) :
      SecondZone text offset

/-- A colon or a blank. -/
def isGap (c : Char) : Bool := c = ':' || isSpace c

/-- The letter Z, or an offset with any colons and blanks inside, and blanks in front. -/
inductive LooseZone : List Char → Int → Prop where
  | zulu {blanks : List Char} (hblanks : ∀ c ∈ blanks, isSpace c) : LooseZone (blanks ++ ['Z']) 0
  | offset {blanks text : List Char} {offset : Int} (hblanks : ∀ c ∈ blanks, isSpace c)
      (h : OffsetText AnySign (fun between => ∀ c ∈ between, isGap c) text offset) :
      LooseZone (blanks ++ text) offset

/-- A date, a time and an offset, with a mark between the first two. -/
inductive MomentText (DateShape : List Char → Date → Prop) (Mark : Char → Prop)
    (TimeShape : List Char → Time → Prop) (Zone : List Char → Int → Prop) :
    List Char → DateTime → Prop where
  | mk {d t z : List Char} {mark : Char} {moment : DateTime} (hdate : DateShape d moment.date)
      (hmark : Mark mark) (htime : TimeShape t moment.time) (hzone : Zone z moment.offset) :
      MomentText DateShape Mark TimeShape Zone (d ++ mark :: (t ++ z)) moment

/-! ### Which there are -/

/-- The date is one of the Gregorian calendar, within the years that dates may have. -/
structure Date.InCalendar (d : Date) : Prop where
  year : firstYear ≤ d.year ∧ d.year ≤ lastYear
  month : 1 ≤ d.month ∧ d.month ≤ 12
  day : 1 ≤ d.day ∧ d.day ≤ 31
  short : d.month ∈ [4, 6, 9, 11] → d.day ≤ 30
  february : d.month = 2 → d.day ≤ 29
  leap : d.month = 2 → d.day = 29 → 4 ∣ d.year ∧ (100 ∣ d.year → 400 ∣ d.year)

/-- The time is one of a day. A minute may have a leap second. -/
structure Time.InDay (t : Time) : Prop where
  hour : t.hour ≤ 23
  minute : t.minute ≤ 59
  second : t.second ≤ 60

/-- The moment has a date, a time and an offset of less than a day, and it is within the calendar
in universal time. -/
structure DateTime.IsMoment (m : DateTime) : Prop where
  date : m.date.InCalendar
  time : m.time.InDay
  offset : -secondsPerDay < m.offset ∧ m.offset < secondsPerDay
  within : isWithinCalendar m.date m.time m.offset

theorem isLeapYear_iff {year : Int} :
    isLeapYear year ↔ 4 ∣ year ∧ (100 ∣ year → 400 ∣ year) := by
  simp only [isLeapYear, Bool.and_eq_true, Bool.or_eq_true, decide_eq_true_eq]
  omega

theorem Date.isValid_iff {d : Date} : d.isValid ↔ d.InCalendar := by
  simp only [isValid, Bool.and_eq_true, decide_eq_true_eq]
  have hday : d.month ≤ 12 → (d.day ≤ daysInMonth d.year d.month ↔ d.day ≤ 31 ∧
      (d.month ∈ [4, 6, 9, 11] → d.day ≤ 30) ∧ (d.month = 2 → d.day ≤ 29) ∧
      (d.month = 2 → d.day = 29 → isLeapYear d.year)) := by
    intro hmonth
    unfold daysInMonth
    split
    · rename_i hmonth
      cases isLeapYear d.year <;> simp [hmonth] <;> omega
    all_goals simp_all <;> omega
  refine ⟨fun ⟨⟨⟨⟨⟨hfirst, hlast⟩, hjanuary⟩, hdecember⟩, hone⟩, hmost⟩ => ?_, fun h => ?_⟩
  · obtain ⟨hlong, hshort, hfebruary, hleap⟩ := (hday hdecember).mp hmost
    exact ⟨⟨hfirst, hlast⟩, ⟨hjanuary, hdecember⟩, ⟨hone, hlong⟩, hshort, hfebruary,
      fun hmonth hlastDay => isLeapYear_iff.mp (hleap hmonth hlastDay)⟩
  · exact ⟨⟨⟨⟨⟨h.year.1, h.year.2⟩, h.month.1⟩, h.month.2⟩, h.day.1⟩,
      (hday h.month.2).mpr ⟨h.day.2, h.short, h.february,
        fun hmonth hlastDay => isLeapYear_iff.mpr (h.leap hmonth hlastDay)⟩⟩

theorem Time.isValid_iff {t : Time} : t.isValid ↔ t.InDay := by
  simp only [isValid, Bool.and_eq_true, decide_eq_true_eq]
  exact ⟨fun ⟨⟨hhour, hminute⟩, hsecond⟩ => ⟨by omega, by omega, hsecond⟩,
    fun h => ⟨⟨by have := h.hour; omega, by have := h.minute; omega⟩, h.second⟩⟩

theorem DateTime.isValid_iff {m : DateTime} : m.isValid ↔ m.IsMoment := by
  simp only [isValid, Bool.and_eq_true, decide_eq_true_eq, Date.isValid_iff, Time.isValid_iff]
  refine ⟨fun ⟨⟨⟨⟨hdate, htime⟩, hleast⟩, hmost⟩, hwithin⟩ =>
    ⟨hdate, htime, ⟨hleast, hmost⟩, hwithin⟩, fun h => ?_⟩
  exact ⟨⟨⟨⟨h.date, h.time⟩, h.offset.1⟩, h.offset.2⟩, h.within⟩

/-! ### Full width is a way to write loosely -/

theorem FullField.loose {text : List Char} {n : Nat} (h : FullField 2 text n) :
    LooseField text n := by
  obtain ⟨hwidth⟩ := h
  exact @LooseField.mk [] _ (by simp) (by omega) (by omega)

theorem FullYear.loose {text : List Char} {y : Int} (h : FullYear text y) : LooseYear text y := by
  obtain ⟨⟨hwidth⟩⟩ := h
  exact @LooseYear.plain [] _ (by simp) (by omega) (by omega)

theorem FullZone.loose {text : List Char} {offset : Int} (h : FullZone text offset) :
    LooseZone text offset := by
  cases h with
  | zulu => exact @LooseZone.zulu [] (by simp)
  | offset h =>
    obtain ⟨hsign, hhours, rfl, hminutes, hrange⟩ := h
    exact @LooseZone.offset [] _ _ (by simp)
      ⟨hsign.imp_right .inl, hhours, by simp [isGap], hminutes, hrange⟩

variable {text : List Char}

theorem DateText.loose {d : Date} (h : DateText FullYear (FullField 2) text d) :
    DateText LooseYear LooseField text d := by
  obtain ⟨hyear, hmonth, hday⟩ := h
  exact ⟨hyear.loose, hmonth.loose, hday.loose⟩

theorem MinuteText.loose {t : Time} (h : MinuteText (FullField 2) text t) :
    MinuteText LooseField text t := by
  obtain ⟨hhour, hminute⟩ := h
  exact ⟨hhour.loose, hminute.loose⟩

theorem SecondText.loose {t : Time} (h : SecondText (FullField 2) text t) :
    SecondText LooseField text t := by
  obtain ⟨hhour, hminute, hsecond, hfraction⟩ := h
  exact ⟨hhour.loose, hminute.loose, hsecond.loose, hfraction⟩

theorem MomentText.loose {m : DateTime}
    (h : MomentText (DateText FullYear (FullField 2)) (· = 'T') (MinuteText (FullField 2)) FullZone
      text m) :
    MomentText (DateText LooseYear LooseField) (· = 'T') (MinuteText LooseField) LooseZone
      text m := by
  obtain ⟨hdate, hmark, htime, hzone⟩ := h
  exact ⟨hdate.loose, hmark, htime.loose, hzone.loose⟩

end DraftSchema.Calendar
