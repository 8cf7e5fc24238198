import StaticSite.Proofs.Calendar
import StaticSite.Proofs.Cuts
import StaticSite.Proofs.Numerals

/-! The text of a date in its fixed form. What is written of a count of seconds is the text of the clock
that shows them, and the text of a clock is read as this clock again, except that a year below 100 is
taken for one of two digits. -/

namespace StaticSite

/-! ### Words -/

namespace HttpDate

open Text

theorem wordsAfter_append {s : Text} (h : ∀ c ∈ s, isBlank c = false) (word t : Text) :
    wordsAfter word (s ++ t) = wordsAfter (s.reverse ++ word) t := by
  induction s generalizing word with
  | nil => rfl
  | cons c rest ih =>
      obtain ⟨hc, hrest⟩ := List.forall_mem_cons.mp h
      rw [List.cons_append, wordsAfter, hc, if_neg Bool.false_ne_true, ih hrest, List.reverse_cons,
        List.append_assoc, List.singleton_append]

/-- A word of a text: not empty, and without a blank in it. -/
structure IsWord (t : Text) : Prop where
  notEmpty : t ≠ []
  unbroken : ∀ c ∈ t, isBlank c = false

instance (t : Text) : Decidable (IsWord t) :=
  decidable_of_iff (t ≠ [] ∧ (t.all fun c => isBlank c == false) = true)
    ⟨fun h => ⟨h.1, fun c hc => beq_iff_eq.mp (List.all_eq_true.mp h.2 c hc)⟩,
      fun h => ⟨h.notEmpty, List.all_eq_true.mpr fun c hc => beq_iff_eq.mpr (h.unbroken c hc)⟩⟩

theorem wordsAfter_end {word : Text} (h : word ≠ []) : wordsAfter word.reverse [] = [word] := by
  have hempty : word.reverse.isEmpty = false := by
    rw [List.isEmpty_eq_false_iff]
    exact List.reverse_ne_nil_iff.mpr h
  rw [wordsAfter, hempty, if_neg Bool.false_ne_true, List.reverse_reverse]

/-- Words with spaces between them are told apart again. -/
theorem words_joinWith {ws : List Text} (h : ∀ w ∈ ws, IsWord w) : words (joinWith [' '] ws) = ws := by
  rw [words]
  induction ws with
  | nil => rfl
  | cons w rest ih =>
      obtain ⟨hw, hrest⟩ := List.forall_mem_cons.mp h
      cases rest with
      | nil =>
          have hend := wordsAfter_append hw.unbroken [] []
          rw [List.append_nil, List.append_nil, wordsAfter_end hw.notEmpty] at hend
          exact hend
      | cons next rest =>
          have hempty : (w.reverse ++ []).isEmpty = false := by
            rw [List.append_nil, List.isEmpty_eq_false_iff]
            exact List.reverse_ne_nil_iff.mpr hw.notEmpty
          have hblank : isBlank ' ' = true := by decide
          rw [joinWith, List.append_assoc, wordsAfter_append hw.unbroken, List.singleton_append,
            wordsAfter, hblank, if_pos rfl, hempty, if_neg Bool.false_ne_true, List.append_nil,
            List.reverse_reverse, ih hrest]

theorem isWord_of_isNumeral {t : Text} (h : t.IsNumeral) : IsWord t where
  notEmpty := h.notEmpty
  unbroken c hc := Number.isBlank_of_isDigit (h.digits c hc)

theorem dropComma_of_not_mem {t : Text} (h : ',' ∉ t) : dropComma t = t := by
  have hends : t.endsWith [','] = false := by
    rw [← Bool.not_eq_true]
    exact fun hends => h (mem_of_endsWith hends)
  rw [dropComma, hends, if_neg Bool.false_ne_true]

/-! ### Fields -/

theorem readInt?_digitsIn {width n : Nat} (hwidth : width ≤ Number.maxDigits)
    (h : (Text.ofNat n).length ≤ width) : Number.readInt? (digitsIn 10 width n) = some (n : Int) := by
  rw [Number.readInt?_of_isNumeral (isNumeral_digitsIn width n), length_digitsIn h, if_pos hwidth,
    natOfDigits_digitsIn]

theorem readInt?_twoDigits {n : Int} (h : 0 ≤ n ∧ n < 100) : Number.readInt? (twoDigits n) = some n := by
  have hlength : (Text.ofNat n.toNat).length ≤ 2 :=
    (Nat.length_toDigits_le_iff (by decide) (by decide)).mpr (by omega)
  rw [twoDigits, readInt?_digitsIn (by decide) hlength, Int.toNat_of_nonneg h.1]

/-- The name of a month, from January on. -/
def monthName (month : Int) : Text :=
  monthNames.getD (month - 1).toNat []

theorem monthName_spec {month : Int} (h : 1 ≤ month ∧ month ≤ 12) :
    IsWord (monthName month) ∧ monthNumber? (monthName month) = some month.toNat := by
  have hall : ∀ i < 12, IsWord (monthNames.getD i []) ∧
      monthNumber? (monthNames.getD i []) = some (i + 1) := by
    decide
  have hindex : month.toNat = (month - 1).toNat + 1 := by omega
  rw [monthName, hindex]
  exact hall _ (by omega)

/-- The name of the day of the week that stands `n` days after 1970-01-01. -/
def dayName (n : Int) : Text :=
  dayNames.getD (weekday n) []

theorem isWord_dayName (n : Int) : IsWord (dayName n ++ [',']) := by
  have hall : ∀ i < 7, IsWord (dayNames.getD i [] ++ [',']) := by
    decide
  have hindex : weekday n < 7 := by
    unfold weekday
    omega
  exact hall _ hindex

/-- The text of a time of day. -/
def timeText (c : ClockTime) : Text :=
  twoDigits c.hour ++ [':'] ++ twoDigits c.minute ++ [':'] ++ twoDigits c.second

end HttpDate

open HttpDate

namespace ClockTime

/-- The text of a clock: the day of the week, the day, the month and the year, and the time. -/
def fixdate (c : ClockTime) : Text :=
  dayName c.date.dayNumber ++ ", ".toList ++ twoDigits c.day ++ [' '] ++ monthName c.month ++ [' '] ++
    Text.digitsIn 10 4 c.year.toNat ++ [' '] ++ timeText c ++ " GMT".toList

/-- What is written of a count of seconds is the text of the clock that shows them. -/
theorem render_eq_fixdate (n : Int) : render n = (ofSeconds n).fixdate := by
  have hday : (ofSeconds n).date.dayNumber = n / 86400 := (Date.ofDayNumber_spec (n / 86400)).2
  rw [render, fixdate, hday]
  simp only [timeText, dayName, monthName, List.append_assoc]

theorem fixdate_eq_joinWith (c : ClockTime) :
    c.fixdate = Text.joinWith [' '] [dayName c.date.dayNumber ++ [','], twoDigits c.day,
      monthName c.month, Text.digitsIn 10 4 c.year.toNat, timeText c, "GMT".toList] := by
  simp [fixdate, Text.joinWith]

variable {c : ClockTime}

theorem Valid.readInt?_fields (h : c.Valid) :
    Number.readInt? (twoDigits c.day) = some c.day ∧ Number.readInt? (twoDigits c.hour) = some c.hour ∧
      Number.readInt? (twoDigits c.minute) = some c.minute ∧
        Number.readInt? (twoDigits c.second) = some c.second := by
  obtain ⟨⟨hmonth, hday⟩, hhour, hminute, hsecond⟩ := h
  have hlength := (Date.monthLength_bounds c.date.year c.date.month).2
  have hday' : 0 ≤ c.day ∧ c.day < 100 :=
    ⟨Int.le_trans (by decide) hday.1, Int.lt_of_le_of_lt (Int.le_trans hday.2 hlength) (by decide)⟩
  exact ⟨readInt?_twoDigits hday', readInt?_twoDigits (by omega), readInt?_twoDigits (by omega),
    readInt?_twoDigits (by omega)⟩

theorem isNumeral_twoDigits (n : Int) : (twoDigits n).IsNumeral :=
  Text.isNumeral_digitsIn 2 n.toNat

/-- A time of day is parted at its colons. -/
theorem timeParts?_timeText (c : ClockTime) :
    timeParts? (timeText c) = some (twoDigits c.hour, twoDigits c.minute, twoDigits c.second) := by
  have hjoined : timeText c =
      Text.joinWith [':'] [twoDigits c.hour, twoDigits c.minute, twoDigits c.second] := by
    simp [timeText, Text.joinWith]
  have hcolon : ∀ part ∈ [twoDigits c.hour, twoDigits c.minute, twoDigits c.second], ':' ∉ part := by
    simp only [List.forall_mem_cons]
    exact ⟨(isNumeral_twoDigits _).not_mem (by decide), (isNumeral_twoDigits _).not_mem (by decide),
      (isNumeral_twoDigits _).not_mem (by decide), List.forall_mem_nil _⟩
  rw [timeParts?, hjoined, Text.splitOn_joinWith (by simp) hcolon]

theorem isWord_timeText (c : ClockTime) : IsWord (timeText c) where
  notEmpty := by simp [timeText]
  unbroken := by
    have hblank : ∀ n : Int, ∀ d ∈ twoDigits n, Text.isBlank d = false := fun n =>
      (isWord_of_isNumeral (isNumeral_twoDigits n)).unbroken
    have hcolon : Text.isBlank ':' = false := by decide
    simp only [timeText, List.forall_mem_append, List.forall_mem_singleton, hcolon]
    exact ⟨⟨⟨⟨hblank _, trivial⟩, hblank _⟩, trivial⟩, hblank _⟩

theorem comma_not_mem_timeText (c : ClockTime) : ',' ∉ timeText c := by
  have hdigits : ∀ n : Int, ',' ∉ twoDigits n := fun n => (isNumeral_twoDigits n).not_mem (by decide)
  simp [timeText, hdigits]

/-- The words of the text of a clock. -/
theorem words_fixdate (h : c.Valid) :
    words c.fixdate = [dayName c.date.dayNumber ++ [','], twoDigits c.day, monthName c.month,
      Text.digitsIn 10 4 c.year.toNat, timeText c, "GMT".toList] := by
  rw [fixdate_eq_joinWith]
  refine words_joinWith ?_
  simp only [List.forall_mem_cons]
  exact ⟨isWord_dayName _, isWord_of_isNumeral (isNumeral_twoDigits _), (monthName_spec h.date.month).1,
    isWord_of_isNumeral (Text.isNumeral_digitsIn _ _), isWord_timeText c, by decide, nofun⟩

theorem beginsWithDigit_of_isNumeral {t : Text} (h : t.IsNumeral) : beginsWithDigit t = true := by
  obtain ⟨d, rest, rfl⟩ := List.exists_cons_of_ne_nil h.notEmpty
  rw [beginsWithDigit, h.digits d List.mem_cons_self, Bool.true_or, Bool.true_or, Bool.true_or]

/-- The text of a clock in a year of four digits at most is read as this clock. -/
theorem Valid.read?_fixdate (h : c.Valid) (hyear : 1 ≤ c.year ∧ c.year ≤ 9999) :
    read? c.fixdate = some { c with year := fullYear c.year } := by
  have hday := isNumeral_twoDigits c.day
  have hyears := Text.isNumeral_digitsIn 4 c.year.toNat
  have hmonths : 1 ≤ c.month ∧ c.month ≤ 12 := h.date.month
  obtain ⟨hmonthWord, hmonth⟩ := monthName_spec hmonths
  obtain ⟨hreadDay, hreadHour, hreadMinute, hreadSecond⟩ := h.readInt?_fields
  have hreadYear : Number.readInt? (Text.digitsIn 10 4 c.year.toNat) = some c.year := by
    have hlength : (Text.ofNat c.year.toNat).length ≤ 4 :=
      (Nat.length_toDigits_le_iff (by decide) (by decide)).mpr (by omega)
    rw [readInt?_digitsIn (by decide) hlength, Int.toNat_of_nonneg (by omega)]
  have hname : (dayName c.date.dayNumber ++ [',']).endsWith [','] = true := by
    simp [Text.endsWith]
  have hcolon : (Text.digitsIn 10 4 c.year.toNat).findIdx? (· == ':') = none := by
    refine List.findIdx?_eq_none_iff.mpr fun d hd => beq_eq_false_iff_ne.mpr ?_
    rintro rfl
    exact hyears.not_mem (by decide) hd
  have hempty : ∀ {t : Text}, t ≠ [] → t.isEmpty = false := fun h => List.isEmpty_eq_false_iff.mpr h
  have hwords : read? c.fixdate = ofWords? (twoDigits c.day) (monthName c.month)
      (Text.digitsIn 10 4 c.year.toNat) (timeText c) "GMT".toList := by
    rw [read?, words_fixdate h, dropDayName, if_pos (Or.inl hname)]
    rfl
  have hmonthNumber : (c.month.toNat : Int) = c.month := Int.toNat_of_nonneg (by omega)
  rw [hwords, ofWords?]
  simp only [hempty hday.notEmpty, hempty hmonthWord.notEmpty, hempty hyears.notEmpty, hmonth, hcolon,
    Bool.false_eq_true, or_self, if_false, dropComma_of_not_mem (hyears.not_mem (by decide)),
    dropComma_of_not_mem (hday.not_mem (by decide)), beginsWithDigit_of_isNumeral hyears, if_true]
  simp only [numbers?, dropComma_of_not_mem (comma_not_mem_timeText c), timeParts?_timeText, hreadYear,
    hreadDay, hreadHour, hreadMinute, hreadSecond, Option.bind_eq_bind, Option.bind_some, hmonthNumber]
  rfl

/-- Clocks of whole seconds are in the order of these. -/
theorem le_ofSeconds_iff (m n : Int) : (ofSeconds m).le (ofSeconds n) = true ↔ m ≤ n := by
  obtain ⟨hvalid, hm⟩ := ofSeconds_spec m
  obtain ⟨hvalid', hn⟩ := ofSeconds_spec n
  rw [hvalid.le_iff_instant hvalid', hm, hn]

end ClockTime

namespace HttpDate

/-- Whether a text is the date of the time that is so many seconds from the beginning of 1970. -/
def Denotes (t : Text) (n : Int) : Prop :=
  ∃ c : ClockTime, c.Valid ∧ c.instant = n ∧ t = c.fixdate

/-- Each time has one text, and this is what is written of it. -/
theorem denotes_iff {t : Text} {n : Int} : Denotes t n ↔ t = render n := by
  obtain ⟨hvalid, hinstant⟩ := ClockTime.ofSeconds_spec n
  rw [ClockTime.render_eq_fixdate]
  constructor
  · rintro ⟨c, hc, hn, rfl⟩
    rw [hc.ext hvalid (hn.trans hinstant.symm)]
  · rintro rfl
    exact ⟨_, hvalid, hinstant, rfl⟩

/-- What is written of a time in a year of four digits at most can be read. -/
theorem read?_render {n : Int}
    (h : 1 ≤ (ClockTime.ofSeconds n).year ∧ (ClockTime.ofSeconds n).year ≤ 9999) :
    read? (render n) =
      some { ClockTime.ofSeconds n with year := fullYear (ClockTime.ofSeconds n).year } := by
  rw [ClockTime.render_eq_fixdate, (ClockTime.ofSeconds_spec n).1.read?_fixdate h]

end HttpDate

end StaticSite
