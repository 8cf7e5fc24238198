import StaticSite.Digest.Md5
import StaticSite.Http.Request
import StaticSite.Number.Binary64
import StaticSite.Time.HttpDate

/-! What tells one version of a file from another: a tag made from its time and size, and the time
itself. A client that names the version it has need not be sent it again. -/

namespace StaticSite

/-- The tag and the time of a version, as headers give them. -/
structure Validator where
  tag : Text
  time : Text
  deriving DecidableEq, Repr

namespace Validator

def nanosecond : Number.Binary64 :=
  Number.Binary64.ofRatio false 1 1000000000

/-- A time of modification in seconds, as the sum of its whole seconds and its fraction, rounded
after the product and after the sum. -/
def seconds (modified : Int) : Number.Binary64 :=
  (Number.Binary64.ofInt (modified / 1000000000)).add
    (nanosecond.mul (Number.Binary64.ofInt (modified % 1000000000)))

/-- The whole seconds of a time: its fraction is rounded to microseconds, a half to the even one,
and what is then below a second is cut off. -/
def wholeSeconds (time : Number.Binary64) : Int :=
  let microseconds := (time.fraction.mul (Number.Binary64.ofInt 1000000)).nearestInt
  if 1000000 ≤ microseconds then time.truncate + 1
  else if microseconds < 0 then time.truncate - 1
  else time.truncate

/-- The first and the last year that a date can name. -/
def years : Int × Int := (1, 9999)

/-- The text of a time, or the year that no date can name. -/
def timeText (time : Number.Binary64) : Except Int Text :=
  let n := wholeSeconds time
  let year := (ClockTime.ofSeconds n).year
  if years.1 ≤ year ∧ year ≤ years.2 then .ok (HttpDate.render n) else .error year

/-- The validator of a file with the given time of modification and size, or the year that no
date can name. -/
def ofFile (modified : Int) (size : Nat) : Except Int Validator :=
  let time := seconds modified
  (timeText time).map fun shown =>
    { tag := '"' :: Md5.hexDigest (Utf8.encode (time.text ++ '-' :: Text.ofNat size)) ++ ['"']
      time := shown }

/-- A tag of a list, without blanks around it and the mark of a weak one. -/
def bareTag (t : Text) : Text :=
  let t := t.strip
  ("W/".toList.isPrefixOf? t).getD t

def namedBy (v : Validator) (list : Text) : Bool :=
  list.strip == ['*'] || (Text.splitOn ',' list).any fun t => bareTag t == v.tag

/-- Whether a date is not before the time of the version. -/
def notAfter (v : Validator) (date : Text) : Bool :=
  match HttpDate.read? date, HttpDate.read? v.time with
  | some asked, some time => time.le asked
  | _, _ => false

/-- Whether a client has the version already: a list of tags decides alone, if it is not empty;
otherwise the date does. -/
def isCurrent (v : Validator) (headers : Headers) : Bool :=
  match headers.first? "if-none-match".toList with
  | some (c :: rest) => v.namedBy (c :: rest)
  | _ =>
      match headers.first? "if-modified-since".toList with
      | some date => v.notAfter date
      | none => false

/-- Whether a part of a file may be sent: a condition on it has to name the version exactly. -/
def allowsRange (v : Validator) (headers : Headers) : Bool :=
  match headers.first? "if-range".toList with
  | some condition => condition == v.tag || condition == v.time
  | none => true

end Validator
end StaticSite
