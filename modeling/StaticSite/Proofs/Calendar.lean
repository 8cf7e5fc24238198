import StaticSite.Time.Calendar

/-! The Gregorian calendar by its rules: leap years, the lengths of the months, and the days counted from
the beginning of 1970. The clock that is made from a count of seconds is the one that shows them, and of
two clocks the one with the first smaller field is the earlier. -/

namespace StaticSite

namespace Date

/-! ### Years -/

/-- Whether a year has a leap day. -/
def IsLeap (year : Int) : Prop :=
  year % 4 = 0 ∧ (year % 100 ≠ 0 ∨ year % 400 = 0)

instance (year : Int) : Decidable (IsLeap year) :=
  inferInstanceAs (Decidable (_ ∧ _))

def leapDays (year : Int) : Int :=
  if IsLeap year then 1 else 0

def yearLength (year : Int) : Int :=
  365 + leapDays year

/-- The days from the beginning of 1970 to that of a year. -/
def yearStart (year : Int) : Int :=
  365 * (year - 1970) + (year - 1) / 4 - (year - 1) / 100 + (year - 1) / 400 - 477

theorem yearStart_epoch : yearStart 1970 = 0 := by
  decide

theorem leapDays_cases (year : Int) :
    (IsLeap year ∧ leapDays year = 1) ∨ (¬ IsLeap year ∧ leapDays year = 0) := by
  by_cases h : IsLeap year
  · exact Or.inl ⟨h, if_pos h⟩
  · exact Or.inr ⟨h, if_neg h⟩

/-- A year begins when the one before it ends. -/
theorem yearStart_succ (year : Int) : yearStart (year + 1) = yearStart year + yearLength year := by
  unfold yearStart yearLength
  rcases leapDays_cases year with ⟨h, hdays⟩ | ⟨h, hdays⟩ <;> unfold IsLeap at h <;> omega

theorem yearStart_mono {year later : Int} (h : year ≤ later) : yearStart year ≤ yearStart later := by
  unfold yearStart
  omega

/-- What lies in a year lies before all later ones. -/
theorem yearStart_add_yearLength_le {year later : Int} (h : year < later) :
    yearStart year + yearLength year ≤ yearStart later := by
  rw [← yearStart_succ]
  exact yearStart_mono h

/-! ### Months -/

def monthLength (year month : Int) : Int :=
  if month = 2 then 28 + leapDays year
  else if month = 4 ∨ month = 6 ∨ month = 9 ∨ month = 11 then 30
  else 31

/-- The days of so many months of a year. -/
def daysOfMonths (year : Int) : Nat → Int
  | 0 => 0
  | count + 1 => daysOfMonths year count + monthLength year (count + 1)

/-- The days of a year before a month. -/
def monthStart (year month : Int) : Int :=
  daysOfMonths year (month - 1).toNat

/-- From March on, the months have 153 days in every five. The tenth after it would begin with the next
year. -/
theorem monthStart_fromMarch (year count : Int) (hcount : 0 ≤ count ∧ count ≤ 10) :
    monthStart year (count + 3) = 59 + leapDays year + (153 * count + 2) / 5 := by
  have hcases : count = 0 ∨ count = 1 ∨ count = 2 ∨ count = 3 ∨ count = 4 ∨ count = 5 ∨ count = 6 ∨
      count = 7 ∨ count = 8 ∨ count = 9 ∨ count = 10 := by
    omega
  rcases hcases with rfl | rfl | rfl | rfl | rfl | rfl | rfl | rfl | rfl | rfl | rfl <;>
    simp [monthStart, daysOfMonths, monthLength] <;> omega

/-- The twelve months make up a year. -/
theorem monthStart_end (year : Int) : monthStart year 13 = yearLength year := by
  have hend : monthStart year 13 = 59 + leapDays year + 306 :=
    monthStart_fromMarch year 10 (by decide)
  rw [hend, yearLength]
  omega

/-- A month begins when the one before it ends. -/
theorem monthStart_succ (year : Int) {month : Int} (hmonth : 1 ≤ month) :
    monthStart year (month + 1) = monthStart year month + monthLength year month := by
  obtain ⟨count, rfl⟩ : ∃ count : Nat, month = count + 1 := ⟨(month - 1).toNat, by omega⟩
  have hcount : ((count : Int) + 1 - 1).toNat = count := by omega
  have hnext : ((count : Int) + 1 + 1 - 1).toNat = count + 1 := by omega
  rw [monthStart, monthStart, hcount, hnext, daysOfMonths]

theorem monthLength_bounds (year month : Int) :
    0 < monthLength year month ∧ monthLength year month ≤ 31 := by
  unfold monthLength
  split
  · rcases leapDays_cases year with ⟨-, hdays⟩ | ⟨-, hdays⟩ <;> omega
  · split <;> omega

theorem daysOfMonths_mono (year : Int) {count later : Nat} (h : count ≤ later) :
    daysOfMonths year count ≤ daysOfMonths year later := by
  induction h with
  | refl => exact Int.le_refl _
  | step _ ih =>
      rw [daysOfMonths]
      exact Int.le_trans ih (Int.le_add_of_nonneg_right (Int.le_of_lt (monthLength_bounds year _).1))

theorem monthStart_mono (year : Int) {month later : Int} (h : month ≤ later) :
    monthStart year month ≤ monthStart year later :=
  daysOfMonths_mono year (Int.toNat_le_toNat (Int.sub_le_sub_right h 1))

/-! ### Days -/

/-- A date that there is in the calendar. -/
structure Valid (d : Date) : Prop where
  month : 1 ≤ d.month ∧ d.month ≤ 12
  day : 1 ≤ d.day ∧ d.day ≤ monthLength d.year d.month

/-- The days from the beginning of 1970 to a date. -/
def dayNumber (d : Date) : Int :=
  yearStart d.year + monthStart d.year d.month + (d.day - 1)

/-- Whether a date comes before another, by the first difference. -/
def Before (d d' : Date) : Prop :=
  d.year < d'.year ∨ d.year = d'.year ∧ (d.month < d'.month ∨ d.month = d'.month ∧ d.day < d'.day)

/-- A date lies in its year. -/
theorem Valid.within_year {d : Date} (h : d.Valid) :
    yearStart d.year ≤ d.dayNumber ∧ d.dayNumber < yearStart d.year + yearLength d.year := by
  obtain ⟨hmonth, hday⟩ := h
  have hfirst : 0 ≤ monthStart d.year d.month := monthStart_mono d.year hmonth.1
  have hlast : monthStart d.year (d.month + 1) ≤ monthStart d.year 13 :=
    monthStart_mono d.year (by omega)
  rw [monthStart_succ d.year hmonth.1, monthStart_end] at hlast
  rw [dayNumber]
  omega

/-- Days are counted in the order of their dates. -/
theorem Valid.dayNumber_lt {d d' : Date} (h : d.Valid) (h' : d'.Valid) (hbefore : d.Before d') :
    d.dayNumber < d'.dayNumber := by
  rcases hbefore with hyear | ⟨hyear, hmonth | ⟨hmonth, hday⟩⟩
  · have hyears := yearStart_add_yearLength_le hyear
    have hwithin := h.within_year
    have hwithin' := h'.within_year
    omega
  · have hmonths : monthStart d.year (d.month + 1) ≤ monthStart d.year d'.month :=
      monthStart_mono d.year hmonth
    rw [monthStart_succ d.year h.month.1] at hmonths
    have hday := h.day
    have hday' := h'.day
    rw [dayNumber, dayNumber, ← hyear]
    omega
  · rw [dayNumber, dayNumber, ← hyear, ← hmonth]
    omega

/-- A date lies before a year exactly if its day does. -/
theorem Valid.year_lt_iff {d : Date} (h : d.Valid) (year : Int) :
    d.year < year ↔ d.dayNumber < yearStart year := by
  have hwithin := h.within_year
  constructor
  · intro hyear
    have hyears := yearStart_add_yearLength_le hyear
    omega
  · intro hday
    refine Int.not_le.mp fun hyear => ?_
    have hyears := yearStart_mono hyear
    omega

/-! ### Eras -/

/-- A day of an era of 400 years by centuries, cycles of four years, years from March on and days. Only
the last year of a cycle may have a leap day, and the last cycle only in the last century. -/
structure EraDay (day century cycle year offset : Int) : Prop where
  centuries : 0 ≤ century ∧ century ≤ 3
  cycles : 0 ≤ cycle ∧ cycle ≤ 24
  years : 0 ≤ year ∧ year ≤ 3
  days : 0 ≤ offset ∧ offset ≤ 365
  leap : offset = 365 → year = 3 ∧ (cycle = 24 → century = 3)
  sum : day = 36524 * century + 1461 * cycle + 365 * year + offset

theorem exists_eraDay {day : Int} (h : 0 ≤ day ∧ day < eraDays) :
    ∃ century cycle year offset, EraDay day century cycle year offset := by
  rw [eraDays] at h
  obtain ⟨century, rest, hcentury, hrest, hlast, hsum⟩ : ∃ century rest : Int,
      (0 ≤ century ∧ century ≤ 3) ∧ (0 ≤ rest ∧ rest ≤ 36524) ∧ (rest = 36524 → century = 3) ∧
        day = 36524 * century + rest :=
    ⟨min (day / 36524) 3, day - 36524 * min (day / 36524) 3, by omega, by omega, by omega, by omega⟩
  obtain ⟨cycle, remaining, hcycle, hremaining, hsum'⟩ : ∃ cycle remaining : Int,
      (0 ≤ cycle ∧ cycle ≤ 24) ∧ (0 ≤ remaining ∧ remaining ≤ 1460) ∧
        rest = 1461 * cycle + remaining :=
    ⟨rest / 1461, rest % 1461, by omega, by omega, by omega⟩
  obtain ⟨year, offset, hyear, hoffset, hleap, hsum''⟩ : ∃ year offset : Int,
      (0 ≤ year ∧ year ≤ 3) ∧ (0 ≤ offset ∧ offset ≤ 365) ∧ (offset = 365 → year = 3) ∧
        remaining = 365 * year + offset :=
    ⟨min (remaining / 365) 3, remaining - 365 * min (remaining / 365) 3, by omega, by omega, by omega,
      by omega⟩
  exact ⟨century, cycle, year, offset, hcentury, hcycle, hyear, hoffset, by omega, by omega⟩

/-- The year of an era is found by leaving out the leap days. -/
theorem EraDay.year_eq {day century cycle year offset : Int} (h : EraDay day century cycle year offset) :
    (day - day / 1460 + day / 36524 - day / 146096) / 365 = 100 * century + 4 * cycle + year := by
  obtain ⟨hcentury, hcycle, hyear, hoffset, hleap, hsum⟩ := h
  -- In the last days of a cycle its leap day is counted already, on the last day of the era also that
  -- of a century and that of the era.
  obtain ⟨early, hearly, hcycles⟩ : ∃ early,
      (early = 0 ∧ 24 * century + cycle + 365 * year + offset < 1460 ∨
        early = 1 ∧ 1460 ≤ 24 * century + cycle + 365 * year + offset) ∧
      day / 1460 = 25 * century + cycle + early := by
    by_cases hlate : 1460 ≤ 24 * century + cycle + 365 * year + offset
    · exact ⟨1, Or.inr ⟨rfl, hlate⟩, by omega⟩
    · exact ⟨0, Or.inl ⟨rfl, by omega⟩, by omega⟩
  have hrest : 1461 * cycle + 365 * year + offset < 36524 ∨ century = 3 ∧ day = 146096 := by
    omega
  have hcenturies : day / 36524 - day / 146096 = century := by
    rcases hrest with hrest | ⟨rfl, rfl⟩
    · have hwhole : day / 36524 = century := by omega
      have hera : day / 146096 = 0 := by omega
      rw [hwhole, hera, Int.sub_zero]
    · rfl
  omega

theorem EraDay.offset_eq {day century cycle year offset : Int}
    (h : EraDay day century cycle year offset) {yearOfEra : Int}
    (hyear : yearOfEra = 100 * century + 4 * cycle + year) :
    day - (365 * yearOfEra + yearOfEra / 4 - yearOfEra / 100) = offset := by
  obtain ⟨-, hcycle, hyears, -, -, hsum⟩ := h
  omega

/-- The first of March stands so many days before the end of its year. -/
theorem EraDay.yearStart_eq {day century cycle year offset : Int}
    (h : EraDay day century cycle year offset) (era : Int) {yearOfEra : Int}
    (hyear : yearOfEra = 100 * century + 4 * cycle + year) :
    yearStart (era * 400 + yearOfEra + 1) = eraDays * era + day - offset - 719162 := by
  obtain ⟨hcentury, hcycle, hyears, -, -, hsum⟩ := h
  have hfours : (era * 400 + yearOfEra) / 4 = 100 * era + 25 * century + cycle := by omega
  have hhundreds : (era * 400 + yearOfEra) / 100 = 4 * era + century := by omega
  have heras : (era * 400 + yearOfEra) / 400 = era := by omega
  rw [yearStart, Int.add_sub_cancel, hfours, hhundreds, heras, eraDays]
  omega

/-- A day that has no place in a common year is the leap day of its year. -/
theorem EraDay.leapDays_eq {day century cycle year offset : Int}
    (h : EraDay day century cycle year offset) (era : Int) {yearOfEra : Int}
    (hyear : yearOfEra = 100 * century + 4 * cycle + year) (hoffset : offset = 365) :
    leapDays (era * 400 + yearOfEra + 1) = 1 := by
  obtain ⟨hcentury, hcycle, -, -, hleap, -⟩ := h
  obtain ⟨rfl, hlast⟩ := hleap hoffset
  have hisLeap : IsLeap (era * 400 + yearOfEra + 1) := by
    unfold IsLeap
    omega
  rw [leapDays, if_pos hisLeap]

/-- The date that is made from a count of days is in the calendar, and so many days from the beginning of
1970. -/
theorem ofDayNumber_spec (n : Int) : (ofDayNumber n).Valid ∧ (ofDayNumber n).dayNumber = n := by
  have hday : 0 ≤ (n + 719468) % eraDays ∧ (n + 719468) % eraDays < eraDays :=
    ⟨Int.emod_nonneg _ (by decide), Int.emod_lt_of_pos _ (by decide)⟩
  have hdivision := Int.mul_ediv_add_emod (n + 719468) eraDays
  obtain ⟨century, cycle, year, offset, hera⟩ := exists_eraDay hday
  simp only [ofDayNumber, hera.year_eq, hera.offset_eq rfl]
  generalize (n + 719468) / eraDays = era at *
  generalize (n + 719468) % eraDays = day at *
  have hstart := hera.yearStart_eq era rfl
  have hleap := hera.leapDays_eq era rfl
  have hoffset := hera.days
  generalize era * 400 + (100 * century + 4 * cycle + year) = march at *
  have hsucc := yearStart_succ march
  rw [yearLength] at hsucc
  obtain ⟨count, hcount⟩ : ∃ count, (5 * offset + 2) / 153 = count := ⟨_, rfl⟩
  rw [hcount]
  by_cases hearly : count < 10
  · -- From March to December.
    have hlate : ¬ count + 3 ≤ 2 := by omega
    simp only [if_pos hearly, if_neg hlate, Int.add_zero]
    have hmonthStart := monthStart_fromMarch march count (by omega)
    have hnext := monthStart_fromMarch march (count + 1) (by omega)
    rw [Int.add_right_comm, monthStart_succ march (by omega), hmonthStart] at hnext
    refine ⟨⟨by dsimp only; omega, by dsimp only; omega⟩, ?_⟩
    simp only [dayNumber, hmonthStart]
    omega
  · -- January and February.
    have hearlier : count - 9 ≤ 2 := by omega
    simp only [if_neg hearly, if_pos hearlier]
    have hmonth : count = 10 ∨ count = 11 := by omega
    rcases hmonth with rfl | rfl
    · have hmonthStart : monthStart (march + 1) (10 - 9) = 0 := rfl
      have hlength : monthLength (march + 1) (10 - 9) = 31 := rfl
      refine ⟨⟨by dsimp only; omega, by dsimp only; omega⟩, ?_⟩
      simp only [dayNumber, hmonthStart]
      omega
    · have hmonthStart : monthStart (march + 1) (11 - 9) = 31 := rfl
      have hlength : monthLength (march + 1) (11 - 9) = 28 + leapDays (march + 1) := rfl
      have hcases := leapDays_cases (march + 1)
      refine ⟨⟨by dsimp only; omega, by dsimp only; omega⟩, ?_⟩
      simp only [dayNumber, hmonthStart]
      omega

end Date

/-! ### Clocks -/

namespace ClockTime

open Date

/-- The date that a clock shows. -/
def date (c : ClockTime) : Date :=
  ⟨c.year, c.month, c.day⟩

/-- A clock that shows a time there is. -/
structure Valid (c : ClockTime) : Prop where
  date : c.date.Valid
  hour : 0 ≤ c.hour ∧ c.hour < 24
  minute : 0 ≤ c.minute ∧ c.minute < 60
  second : 0 ≤ c.second ∧ c.second < 60

/-- The seconds from the beginning of 1970 to what a clock shows. -/
def instant (c : ClockTime) : Int :=
  86400 * c.date.dayNumber + 3600 * c.hour + 60 * c.minute + c.second

/-- The clock that is made from a count of seconds is the one that shows them. -/
theorem ofSeconds_spec (n : Int) : (ofSeconds n).Valid ∧ (ofSeconds n).instant = n := by
  obtain ⟨hvalid, hday⟩ := ofDayNumber_spec (n / 86400)
  have hdate : (ofSeconds n).date = ofDayNumber (n / 86400) := rfl
  constructor
  · refine ⟨hvalid, ?_, ?_, ?_⟩
    all_goals
      simp only [ofSeconds]
      omega
  · rw [instant, hdate, hday]
    simp only [ofSeconds]
    omega

/-- A clock shows a year or a later one from the beginning of this year on. -/
theorem le_year_iff (year n : Int) : year ≤ (ofSeconds n).year ↔ 86400 * yearStart year ≤ n := by
  obtain ⟨hvalid, hday⟩ := ofDayNumber_spec (n / 86400)
  have hbefore := hvalid.year_lt_iff year
  have hyear : (ofSeconds n).year = (ofDayNumber (n / 86400)).year := rfl
  rw [hday] at hbefore
  omega

/-- The order of clocks field by field. -/
theorem le_iff (c c' : ClockTime) :
    c.le c' = true ↔ c.date.Before c'.date ∨ c.date = c'.date ∧
      (c.hour < c'.hour ∨ c.hour = c'.hour ∧
        (c.minute < c'.minute ∨ c.minute = c'.minute ∧ c.second ≤ c'.second)) := by
  simp only [le, fields, fieldsLe, Bool.or_eq_true, Bool.and_eq_true, decide_eq_true_eq, beq_iff_eq,
    and_true, Before, date, Date.mk.injEq]
  omega

/-- Of two clocks, the one that is not later by its fields shows no later time. -/
theorem Valid.le_iff_instant {c c' : ClockTime} (h : c.Valid) (h' : c'.Valid) :
    c.le c' = true ↔ c.instant ≤ c'.instant := by
  obtain ⟨hdate, hhour, hminute, hsecond⟩ := h
  obtain ⟨hdate', hhour', hminute', hsecond'⟩ := h'
  have hforth := hdate.dayNumber_lt hdate'
  have hback := hdate'.dayNumber_lt hdate
  have hcases : c.date.Before c'.date ∨ c.date = c'.date ∨ c'.date.Before c.date := by
    simp only [Before, ClockTime.date, Date.mk.injEq]
    omega
  rw [le_iff, instant, instant]
  rcases hcases with hbefore | hsame | hbehind
  · have hdays := hforth hbefore
    exact iff_of_true (Or.inl hbefore) (by omega)
  · have hnever : ¬ c.date.Before c'.date := by
      simp only [hsame, Before]
      omega
    rw [or_iff_right hnever, and_iff_right hsame, hsame]
    omega
  · have hdays := hback hbehind
    have hnever : ¬ c.date.Before c'.date := fun hbefore => by
      have := hforth hbefore
      omega
    have hother : c.date ≠ c'.date := fun hsame => by
      rw [hsame] at hdays
      omega
    exact iff_of_false (not_or.mpr ⟨hnever, fun h => hother h.1⟩) (by omega)

/-- A time is shown by one clock only. -/
theorem Valid.ext {c c' : ClockTime} (h : c.Valid) (h' : c'.Valid) (hinstant : c.instant = c'.instant) :
    c = c' := by
  have hforth := (h.le_iff_instant h').mpr (Int.le_of_eq hinstant)
  have hback := (h'.le_iff_instant h).mpr (Int.le_of_eq hinstant.symm)
  rw [le_iff] at hforth hback
  cases c
  cases c'
  simp only [Before, ClockTime.date, Date.mk.injEq] at hforth hback
  rw [mk.injEq]
  omega

end ClockTime

end StaticSite
