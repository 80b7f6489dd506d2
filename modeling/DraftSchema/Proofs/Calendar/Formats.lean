import DraftSchema.Format
import DraftSchema.Proofs.Calendar.Texts

/-!
# `DraftSchema.Proofs.Calendar.Formats`: which texts are dates and times

The formats of dates and times read numbers loosely, with blanks in front of them and without
leading zeros; a moment with seconds alone is read at full width. The theorems:

* `isDate_iff`, `isTime_iff` and `isDateTime_iff`: the texts of each format.
* `FullWidth.isDate_iff` and the like: of texts at full width those are dates, times or moments
  that name one.
* `Format.temporal_iff`: both put together.
-/

set_option autoImplicit false

namespace DraftSchema

namespace Calendar

open Unicode.Property (isSpace)

variable {s : String}

/-- A date, a mark and a time with seconds at full width. -/
abbrev SecondMomentText : List Char → DateTime → Prop :=
  MomentText (DateText FullYear (FullField 2)) (fun c => c = 'T' ∨ c = 't' ∨ c = ' ')
    (SecondText (FullField 2)) SecondZone

/-- A date and a time without seconds. -/
abbrev MinuteMomentText (Year : List Char → Int → Prop) (Field : List Char → Nat → Prop)
    (Zone : List Char → Int → Prop) : List Char → DateTime → Prop :=
  MomentText (DateText Year Field) (· = 'T') (MinuteText Field) Zone

/-! ### The texts of the formats -/

theorem isDate_iff :
    isDate s ↔ ∃ d, DateText LooseYear LooseField s.toList d ∧ d.InCalendar := by
  simp only [isDate, Option.any_eq_true, Date.isValid_iff]
  exact exists_congr fun d => and_congr_left' (reads_looseDate.run?_eq_some_iff noDigit_nil)

theorem isTime_iff : isTime s ↔
    ∃ t, (MinuteText LooseField s.toList t ∨ SecondText LooseField s.toList t) ∧ t.InDay := by
  have hminutes : ∀ t, looseTime.run? s.toList = some t ↔ MinuteText LooseField s.toList t :=
    fun t => reads_looseTime.run?_eq_some_iff noDigit_nil
  have hseconds : ∀ t, looseTimeWithSeconds.run? s.toList = some t ↔
      SecondText LooseField s.toList t :=
    fun t => reads_looseTimeWithSeconds.run?_eq_some_iff ⟨noDigit_nil, by simp⟩
  simp only [isTime, Bool.or_eq_true, Option.any_eq_true, Time.isValid_iff, hminutes, hseconds,
    ← exists_or, or_and_right]

theorem isDateTime_iff : isDateTime s ↔
    ∃ m, (SecondMomentText s.toList m ∨
      MinuteMomentText LooseYear LooseField LooseZone s.toList m) ∧ m.IsMoment := by
  have hseconds : ∀ m, strictDateTime.run? s.toList = some m ↔ SecondMomentText s.toList m :=
    fun m => reads_strictDateTime.run?_eq_some_iff trivial
  have hminutes : ∀ m, looseDateTime.run? (withOffset s.toList) = some m ↔
      MinuteMomentText LooseYear LooseField LooseZone s.toList m := fun m =>
    (reads_looseDateTime.run?_eq_some_iff trivial).trans momentText_withOffset_iff
  simp only [isDateTime, Bool.or_eq_true, Option.any_eq_true, DateTime.isValid_iff, hminutes,
    hseconds, ← exists_or, or_and_right]

/-! ### Full width -/

/-- A text is read as one value. -/
theorem eq_of_reads {α : Type} {p : Scanner α} {Text : List Char → α → Prop}
    {Follow : List Char → Prop} (h : p.Reads Text Follow) (hend : Follow []) {text : List Char}
    {a b : α} (ha : Text text a) (hb : Text text b) : a = b := by
  have hread := (h.run?_eq_some_iff hend).mpr ha
  rw [(h.run?_eq_some_iff hend).mpr hb] at hread
  exact (Option.some.inj hread).symm

/-- Of texts at full width those are dates that name one. -/
theorem isDate_iff_of_fullWidth {d : Date} (h : DateText FullYear (FullField 2) s.toList d) :
    isDate s ↔ d.InCalendar := by
  rw [isDate_iff]
  refine ⟨fun ⟨d', hd', hvalid⟩ => ?_, fun hvalid => ⟨d, h.loose, hvalid⟩⟩
  rwa [eq_of_reads reads_looseDate noDigit_nil h.loose hd']

/-- No colon stands in a number. -/
theorem LooseField.count_colon {text : List Char} {n : Nat} (h : LooseField text n) :
    text.count ':' = 0 := by
  obtain ⟨hblanks, -, -⟩ := h
  have hblank : isSpace ':' = false := by decide
  have hdigit : ∀ d : Digit, d.toChar ≠ ':' := by decide
  refine List.count_eq_zero.mpr fun hmem => ?_
  rcases List.mem_append.mp hmem with hmem | hmem
  · rw [hblanks _ hmem] at hblank
    cases hblank
  · obtain ⟨d, -, hd⟩ := List.mem_map.mp hmem
    exact hdigit d hd

theorem MinuteText.count_colon {text : List Char} {t : Time} (h : MinuteText LooseField text t) :
    text.count ':' = 1 := by
  obtain ⟨hhour, hminute⟩ := h
  rw [List.count_append, List.count_cons_self, hhour.count_colon, hminute.count_colon]

theorem SecondText.two_le_count_colon {text : List Char} {t : Time}
    (h : SecondText LooseField text t) : 2 ≤ text.count ':' := by
  obtain ⟨-, -, -, -⟩ := h
  simp only [List.count_append, List.count_cons_self]
  omega

/-- Of texts at full width those are times that name one. -/
theorem isTime_iff_of_fullWidth {t : Time}
    (h : MinuteText (FullField 2) s.toList t ∨ SecondText (FullField 2) s.toList t) :
    isTime s ↔ t.InDay := by
  have hloose := h.imp MinuteText.loose SecondText.loose
  rw [isTime_iff]
  refine ⟨fun ⟨t', ht', hvalid⟩ => ?_, fun hvalid => ⟨t, hloose, hvalid⟩⟩
  -- The number of colons tells whether there are seconds.
  rcases hloose with hminutes | hseconds <;> rcases ht' with hminutes' | hseconds'
  · rwa [eq_of_reads reads_looseTime noDigit_nil hminutes hminutes']
  · have hone := hminutes.count_colon
    have htwo := hseconds'.two_le_count_colon
    omega
  · have hone := hminutes'.count_colon
    have htwo := hseconds.two_le_count_colon
    omega
  · rwa [eq_of_reads reads_looseTimeWithSeconds ⟨noDigit_nil, by simp⟩ hseconds hseconds']

theorem FullField.length_eq {width n : Nat} {text : List Char} (h : FullField width text n) :
    text.length = width := by
  obtain ⟨hwidth⟩ := h
  rw [Digit.chars, List.length_map, hwidth]

/-- A year of four digits is far from both ends of the calendar. -/
theorem FullYear.bounds {text : List Char} {y : Int} (h : FullYear text y) :
    text.length = 4 ∧ 0 ≤ y ∧ y ≤ 9999 := by
  obtain ⟨hn⟩ := h
  refine ⟨hn.length_eq, by omega, ?_⟩
  obtain ⟨hwidth⟩ := hn
  rename_i ds
  obtain ⟨a, b, c, d, rfl⟩ : ∃ a b c d, ds = [a, b, c, d] := by
    match ds, hwidth with
    | [a, b, c, d], _ => exact ⟨a, b, c, d, rfl⟩
  have hvalue : Digit.value [a, b, c, d] = ((a.val * 10 + b.val) * 10 + c.val) * 10 + d.val := by
    simp [Digit.value, Digit.valueFrom]
  omega

theorem DateText.length_eq {text : List Char} {d : Date}
    (h : DateText FullYear (FullField 2) text d) : text.length = 10 := by
  obtain ⟨hyear, hmonth, hday⟩ := h
  simp [hyear.bounds.1, hmonth.length_eq, hday.length_eq]

theorem MinuteText.five_le_length {text : List Char} {t : Time}
    (h : MinuteText (FullField 2) text t) : 5 ≤ text.length := by
  obtain ⟨hhour, hminute⟩ := h
  simp [hhour.length_eq, hminute.length_eq]

theorem SecondText.five_le_length {text : List Char} {t : Time}
    (h : SecondText (FullField 2) text t) : 5 ≤ text.length := by
  obtain ⟨hhour, hminute, hsecond, -⟩ := h
  simp only [List.length_append, List.length_cons, hhour.length_eq, hminute.length_eq,
    hsecond.length_eq]
  omega

theorem MomentText.sixteen_le_length {text : List Char} {m : DateTime}
    (h : MinuteMomentText FullYear (FullField 2) FullZone text m) : 16 ≤ text.length := by
  obtain ⟨hdate, -, htime, -⟩ := h
  have htimeLength := htime.five_le_length
  simp only [List.length_append, List.length_cons, hdate.length_eq]
  omega

/-- A moment without seconds is not one with seconds: behind the minutes there is no colon. -/
theorem not_secondMomentText {text : List Char} {m m' : DateTime}
    (h : MinuteMomentText FullYear (FullField 2) FullZone text m) : ¬ SecondMomentText text m' := by
  intro h'
  obtain ⟨hdate, rfl, htime, hzone⟩ := h
  rename_i d t z
  generalize htext : d ++ 'T' :: (t ++ z) = text at h'
  obtain ⟨hdate', -, htime', -⟩ := h'
  obtain ⟨-, htail⟩ := List.append_inj htext (hdate.length_eq.trans hdate'.length_eq.symm)
  rw [List.cons.injEq] at htail
  generalize m.time = time at htime
  obtain ⟨hhour', hminute', -, -⟩ := htime'
  obtain ⟨hhour, hminute⟩ := htime
  have hrest := htail.2
  simp only [List.append_assoc, List.cons_append] at hrest
  obtain ⟨-, hrest⟩ := List.append_inj hrest (hhour.length_eq.trans hhour'.length_eq.symm)
  rw [List.cons.injEq] at hrest
  obtain ⟨-, hcolon⟩ := List.append_inj hrest.2 (hminute.length_eq.trans hminute'.length_eq.symm)
  generalize m.offset = offset at hzone
  cases hzone with
  | zulu => simp at hcolon
  | offset h =>
    obtain ⟨hsign, -, -, -, -⟩ := h
    rw [List.cons.injEq] at hcolon
    rcases hsign with rfl | rfl <;> simp at hcolon

/-- With a year of four digits a moment is within the calendar at any offset. -/
theorem isWithinCalendar_of_fullYear {text : List Char} {d : Date} (h : FullYear text d.year)
    (t : Time) (offset : Int) : isWithinCalendar d t offset := by
  obtain ⟨-, hleast, hmost⟩ := h.bounds
  have hfirst : d ≠ .first := by
    rintro rfl
    simp [Date.first, firstYear] at hleast
  have hlast : d ≠ .last := by
    rintro rfl
    simp [Date.last, lastYear] at hmost
  unfold isWithinCalendar
  dsimp only
  split
  · simpa using hfirst
  · split
    · simpa using hlast
    · rfl

/-- Of texts without seconds at full width those are moments that name one. -/
theorem isDateTime_iff_of_fullWidth {m : DateTime}
    (h : MinuteMomentText FullYear (FullField 2) FullZone s.toList m) :
    isDateTime s ↔ m.date.InCalendar ∧ m.time.InDay ∧
      -secondsPerDay < m.offset ∧ m.offset < secondsPerDay := by
  have hwithin : isWithinCalendar m.date m.time m.offset := by
    generalize s.toList = text at h
    obtain ⟨hdate, -, -, -⟩ := h
    obtain ⟨hyear, -, -⟩ := hdate
    exact isWithinCalendar_of_fullYear hyear _ _
  rw [isDateTime_iff]
  refine ⟨fun ⟨m', hm', hvalid⟩ => ?_, fun ⟨hdate, htime, hoffset⟩ =>
    ⟨m, .inr h.loose, ⟨hdate, htime, hoffset, hwithin⟩⟩⟩
  obtain hloose' := hm'.resolve_left (not_secondMomentText h)
  have heq : m = m' := eq_of_reads reads_looseDateTime trivial
    (momentText_withOffset_iff.mpr h.loose) (momentText_withOffset_iff.mpr hloose')
  rw [heq]
  exact ⟨hvalid.date, hvalid.time, hvalid.offset⟩

end Calendar

open Calendar

/-- The texts of the formats of dates, times and moments. They are those shapes that are read
with loose numbers, or with seconds at full width, and name a date, a time or a moment; of the
texts at full width all are, if what they name exists. -/
theorem Format.temporal_iff (s : String) :
    (Format.date.holds (.string s) ↔
      ∃ d, DateText LooseYear LooseField s.toList d ∧ d.InCalendar) ∧
    (Format.time.holds (.string s) ↔
      ∃ t, (MinuteText LooseField s.toList t ∨ SecondText LooseField s.toList t) ∧ t.InDay) ∧
    (Format.dateTime.holds (.string s) ↔
      ∃ m, (SecondMomentText s.toList m ∨
        MinuteMomentText LooseYear LooseField LooseZone s.toList m) ∧ m.IsMoment) ∧
    (∀ d, DateText FullYear (FullField 2) s.toList d →
      (Format.date.holds (.string s) ↔ d.InCalendar)) ∧
    (∀ t, (MinuteText (FullField 2) s.toList t ∨ SecondText (FullField 2) s.toList t) →
      (Format.time.holds (.string s) ↔ t.InDay)) ∧
    ∀ m, MinuteMomentText FullYear (FullField 2) FullZone s.toList m →
      (Format.dateTime.holds (.string s) ↔ m.date.InCalendar ∧ m.time.InDay ∧
        -secondsPerDay < m.offset ∧ m.offset < secondsPerDay) :=
  ⟨isDate_iff, isTime_iff, isDateTime_iff, fun _ => isDate_iff_of_fullWidth,
    fun _ => isTime_iff_of_fullWidth, fun _ => isDateTime_iff_of_fullWidth⟩

/-- The 29th of February is a date in a leap year only, a minute may have a leap second, and a
moment is one at an offset of less than a day. -/
theorem Format.temporal_fullWidth :
    (Format.date.holds (.string "2024-02-29") ∧ ¬ Format.date.holds (.string "2023-02-29")) ∧
    Format.time.holds (.string "23:59:60") ∧
    ¬ Format.dateTime.holds (.string "2024-02-29T10:30-24:00") := by
  have hleap : DateText FullYear (FullField 2) "2024-02-29".toList ⟨2024, 2, 29⟩ :=
    .mk (y := Digit.chars [2, 0, 2, 4]) (m := Digit.chars [0, 2]) (d := Digit.chars [2, 9])
      ⟨⟨rfl⟩⟩ ⟨rfl⟩ ⟨rfl⟩
  have hcommon : DateText FullYear (FullField 2) "2023-02-29".toList ⟨2023, 2, 29⟩ :=
    .mk (y := Digit.chars [2, 0, 2, 3]) (m := Digit.chars [0, 2]) (d := Digit.chars [2, 9])
      ⟨⟨rfl⟩⟩ ⟨rfl⟩ ⟨rfl⟩
  have htime : SecondText (FullField 2) "23:59:60".toList ⟨23, 59, 60⟩ :=
    .mk (h := Digit.chars [2, 3]) (m := Digit.chars [5, 9]) (s := Digit.chars [6, 0])
      (t := ⟨23, 59, 60⟩) ⟨rfl⟩ ⟨rfl⟩ ⟨rfl⟩ .absent
  have hday : FullField 2 "24".toList 24 := @FullField.mk 2 [2, 4] rfl
  have hnone : FullField 2 "00".toList 0 := @FullField.mk 2 [0, 0] rfl
  have hzone : FullZone "-24:00".toList (signed '-' 24 0) :=
    .offset (@OffsetText.mk _ (· = [':']) '-' _ _ _ _ _ (.inr rfl) hday rfl hnone (by decide))
  have hminutes : MinuteText (FullField 2) "10:30".toList ⟨10, 30, 0⟩ :=
    .mk (h := Digit.chars [1, 0]) (m := Digit.chars [3, 0]) ⟨rfl⟩ ⟨rfl⟩
  have hmoment : MinuteMomentText FullYear (FullField 2) FullZone
      "2024-02-29T10:30-24:00".toList ⟨⟨2024, 2, 29⟩, ⟨10, 30, 0⟩, signed '-' 24 0⟩ :=
    @MomentText.mk _ (· = 'T') _ _ _ _ _ _ ⟨_, _, _⟩ hleap rfl hminutes hzone
  refine ⟨⟨((temporal_iff _).2.2.2.1 _ hleap).mpr ?_, fun h => ?_⟩,
    ((temporal_iff _).2.2.2.2.1 _ (.inr htime)).mpr ⟨by decide, by decide, by decide⟩, fun h => ?_⟩
  · exact Date.isValid_iff.mp (by decide)
  · have hvalid := ((temporal_iff _).2.2.2.1 _ hcommon).mp h
    have hfour : (4 : Int) ∣ 2023 := (hvalid.leap rfl rfl).1
    omega
  · have hless := (((temporal_iff _).2.2.2.2.2 _ hmoment).mp h).2.2.1
    exact absurd hless (by decide)

/-- Each format holds of a text that is not at full width. -/
theorem Format.temporal_loose :
    (Format.date.holds (.string "2024-1-5") ∧
      ¬ ∃ d, DateText FullYear (FullField 2) "2024-1-5".toList d) ∧
    (Format.time.holds (.string "5:07") ∧
      ¬ ∃ t, MinuteText (FullField 2) "5:07".toList t ∨ SecondText (FullField 2) "5:07".toList t) ∧
    (Format.dateTime.holds (.string "2011-1-3T1:5Z") ∧
      ¬ ∃ m, MinuteMomentText FullYear (FullField 2) FullZone "2011-1-3T1:5Z".toList m) := by
  refine ⟨⟨by decide +kernel, ?_⟩, ⟨by decide +kernel, ?_⟩, ⟨by decide +kernel, ?_⟩⟩
  · rintro ⟨d, h⟩
    have hlength := h.length_eq
    simp at hlength
  · rintro ⟨t, h | h⟩
    · have hlength := h.five_le_length
      simp at hlength
    · have hlength := h.five_le_length
      simp at hlength
  · rintro ⟨m, h⟩
    have hlength := h.sixteen_le_length
    simp at hlength

end DraftSchema
