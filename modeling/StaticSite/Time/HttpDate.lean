import StaticSite.Number.Grouped
import StaticSite.Time.Calendar

/-! Dates in message headers: the fixed form that is written, and the wide range of forms that is
read, with or without a day name, with the day before or after the month, with years of two
digits. A zone is passed over. -/

namespace StaticSite.HttpDate

/-- The names of the days, Monday first. -/
def dayNames : List Text :=
  ["Mon", "Tue", "Wed", "Thu", "Fri", "Sat", "Sun"].map String.toList

def monthNames : List Text :=
  ["Jan", "Feb", "Mar", "Apr", "May", "Jun", "Jul", "Aug", "Sep", "Oct", "Nov", "Dec"].map
    String.toList

def longMonthNames : List Text :=
  ["January", "February", "March", "April", "May", "June", "July", "August", "September",
    "October", "November", "December"].map String.toList

/-- A number of a field, in two digits at least. -/
def twoDigits (n : Int) : Text :=
  Text.digitsIn 10 2 n.toNat

/-- The text of a time `n` seconds after the beginning of 1970, in a year from 1 to 9999. -/
def render (n : Int) : Text :=
  let c := ClockTime.ofSeconds n
  dayNames.getD (weekday (n / 86400)) [] ++ ", ".toList ++ twoDigits c.day ++ [' '] ++
    monthNames.getD (c.month - 1).toNat [] ++ [' '] ++ Text.digitsIn 10 4 c.year.toNat ++ [' '] ++
    twoDigits c.hour ++ [':'] ++ twoDigits c.minute ++ [':'] ++ twoDigits c.second ++
    " GMT".toList

/-! ### Reading -/

/-- The words of a text; `word` holds the one begun, in reverse. -/
def wordsAfter (word : Text) : Text → List Text
  | [] => if word.isEmpty then [] else [word.reverse]
  | c :: rest =>
      if Text.isBlank c then
        if word.isEmpty then wordsAfter [] rest else word.reverse :: wordsAfter [] rest
      else wordsAfter (c :: word) rest

/-- The words of a text, between blanks. -/
def words (t : Text) : List Text :=
  wordsAfter [] t

/-- The words without a day name, which is known by its comma or by its letters; a comma inside
the first word ends a day name written close to the day. -/
def dropDayName : List Text → List Text
  | [] => []
  | first :: rest =>
      if first.endsWith [','] ∨ (dayNames.map Text.asciiLower).contains first.asciiLower then rest
      else match Text.cutLast? ',' first with
        | some (_, after) => after :: rest
        | none => first :: rest

/-- Three words whose first is a date with hyphens become five. -/
def splitHyphens (ws : List Text) : List Text :=
  match ws with
  | [date, time, zone] =>
      match Text.splitOn '-' date with
      | [a, b, c] => [a, b, c, time, zone]
      | _ => ws
  | _ => ws

/-- The place of the first `+` in a text, or else of the first `-`. -/
def signPlace? (t : Text) : Option Nat :=
  match t.findIdx? (· == '+') with
  | some i => some i
  | none => t.findIdx? (· == '-')

/-- A fourth and last word is parted before the sign of a zone; without one the zone is empty. -/
def splitZone (ws : List Text) : List Text :=
  match ws with
  | [a, b, c, time] =>
      match signPlace? time with
      | some (i + 1) => [a, b, c, time.take (i + 1), time.drop (i + 1)]
      | _ => [a, b, c, time, []]
  | _ => ws

/-- The number of a month by its short or long name in any case. -/
def monthNumber? (t : Text) : Option Nat :=
  let name := t.asciiLower
  match (monthNames.map Text.asciiLower).findIdx? (· == name) with
  | some i => some (i + 1)
  | none => ((longMonthNames.map Text.asciiLower).findIdx? (· == name)).map (· + 1)

def dropComma (t : Text) : Text :=
  if t.endsWith [','] then t.dropLast else t

/-- Whether a text begins with a digit; the raised digits one, two and three count. -/
def beginsWithDigit (t : Text) : Bool :=
  match t with
  | c :: _ => Text.isDigit c || c.toNat == 0xb2 || c.toNat == 0xb3 || c.toNat == 0xb9
  | [] => false

/-- The hour, the minute and the second of a text with colons, or with points if it has no
colon; the second may be missing. -/
def timeParts? (t : Text) : Option (Text × Text × Text) :=
  match Text.splitOn ':' t with
  | [h, m] => some (h, m, ['0'])
  | [h, m, s] => some (h, m, s)
  | [_] =>
      match Text.splitOn '.' t with
      | [h, m] => some (h, m, ['0'])
      | [h, m, s] => some (h, m, s)
      | _ => none
  | _ => none

/-- A year of two digits is one from 1969 to 2068. -/
def fullYear (y : Int) : Int :=
  if y < 100 then (if 68 < y then y + 1900 else y + 2000) else y

/-- The numbers of a date whose year, time and zone have found their places. -/
def numbers? (month : Nat) (day year time : Text) : Option ClockTime := do
  let (h, m, s) ← timeParts? (dropComma time)
  let year ← Number.readInt? year
  let day ← Number.readInt? day
  let hour ← Number.readInt? h
  let minute ← Number.readInt? m
  let second ← Number.readInt? s
  return ⟨fullYear year, month, day, hour, minute, second⟩

/-- The date that five words give. Day and month may be exchanged; so may year and time, known by
the colon, and year and zone, known by the missing digit. -/
def ofWords? (day month year time zone : Text) : Option ClockTime :=
  if day.isEmpty ∨ month.isEmpty ∨ year.isEmpty then none
  else
    let found := match monthNumber? month with
      | some n => some (n, day)
      | none => (monthNumber? day).map fun n => (n, month)
    match found with
    | none => none
    | some (n, day) =>
        let (year, time) := match year.findIdx? (· == ':') with
          | some (_ + 1) => (time, year)
          | _ => (year, time)
        let year := dropComma year
        if year.isEmpty then none
        else numbers? n (dropComma day) (if beginsWithDigit year then year else zone) time

/-- The date that a text denotes, if it can be read. The fields may lie out of their ranges. -/
def read? (t : Text) : Option ClockTime :=
  match splitZone (splitHyphens (dropDayName (words t))) with
  | day :: month :: year :: time :: zone :: _ => ofWords? day month year time zone
  | _ => none

end StaticSite.HttpDate
