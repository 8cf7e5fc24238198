import StaticSite.Text.Basic

/-! The Gregorian calendar, extended to all years: from a count of seconds to the fields of a
clock in Universal Time. Years are counted from the first of March inside eras of 400 years, so
that the leap day is the last of its year. -/

namespace StaticSite

structure Date where
  year : Int
  month : Int
  day : Int
  deriving DecidableEq, Repr

namespace Date

def eraDays : Int := 146097

/-- The day that stands `n` days after 1970-01-01. -/
def ofDayNumber (n : Int) : Date :=
  let shifted := n + 719468
  let era := shifted / eraDays
  let dayOfEra := shifted % eraDays
  let yearOfEra := (dayOfEra - dayOfEra / 1460 + dayOfEra / 36524 - dayOfEra / 146096) / 365
  let dayOfYear := dayOfEra - (365 * yearOfEra + yearOfEra / 4 - yearOfEra / 100)
  let monthFromMarch := (5 * dayOfYear + 2) / 153
  let month := if monthFromMarch < 10 then monthFromMarch + 3 else monthFromMarch - 9
  { year := era * 400 + yearOfEra + (if month ≤ 2 then 1 else 0)
    month
    day := dayOfYear - (153 * monthFromMarch + 2) / 5 + 1 }

end Date

/-- A date and a time of day. A reader of dates fills in whatever numbers a text gives. -/
structure ClockTime where
  year : Int
  month : Int
  day : Int
  hour : Int
  minute : Int
  second : Int
  deriving DecidableEq, Repr

namespace ClockTime

/-- The clock `n` seconds after the beginning of 1970. -/
def ofSeconds (n : Int) : ClockTime :=
  let date := Date.ofDayNumber (n / 86400)
  let rest := n % 86400
  ⟨date.year, date.month, date.day, rest / 3600, rest / 60 % 60, rest % 60⟩

/-- The fields from the greatest unit to the least. -/
def fields (c : ClockTime) : List Int :=
  [c.year, c.month, c.day, c.hour, c.minute, c.second]

/-- Whether the first of two lists of fields is not the later one, by the first difference. -/
def fieldsLe : List Int → List Int → Bool
  | a :: as, b :: bs => a < b || (a == b && fieldsLe as bs)
  | [], _ => true
  | _ :: _, [] => false

/-- Whether a clock shows no later time than another, compared field by field. -/
def le (a b : ClockTime) : Bool :=
  fieldsLe a.fields b.fields

end ClockTime

/-- The day of the week that stands `n` days after 1970-01-01, Monday being 0. -/
def weekday (n : Int) : Nat :=
  ((n + 3) % 7).toNat

end StaticSite
