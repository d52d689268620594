/-!
# Dates and timestamps

Days of the Gregorian calendar and moments of them, as descriptors write them, with the two texts
that a report shows for each: the plain one, and the one inside a larger value.

## Main definitions

* `Date`, `Timestamp`: A day, and a moment of a day with an optional zone.
* `Date.valid`, `Timestamp.valid`: Whether the numbers name a day and a moment.
* `Timestamp.sameMoment`: Whether two timestamps name one moment.
-/

namespace Assay

/-- A day of the calendar. -/
structure Date where
  year : Nat
  month : Nat
  day : Nat
  deriving DecidableEq, Repr

/-- A moment of a day, with the offset of its zone in seconds where a zone is given. -/
structure Timestamp where
  date : Date
  hour : Nat
  minute : Nat
  second : Nat
  microsecond : Nat
  offset : Option Int
  deriving DecidableEq, Repr

/-- A number in decimal, padded with zeros to `width`. -/
def padded (width n : Nat) : String :=
  let digits := Nat.toDigits 10 n
  String.ofList (List.replicate (width - digits.length) '0' ++ digits)

namespace Date

/-- Whether a year has a 29th of February. -/
def isLeap (year : Nat) : Bool :=
  year % 4 == 0 && (year % 100 != 0 || year % 400 == 0)

/-- The number of days of a month. -/
def daysIn (year month : Nat) : Nat :=
  if month = 2 then if isLeap year then 29 else 28
  else if month = 4 ∨ month = 6 ∨ month = 9 ∨ month = 11 then 30
  else 31

/-- Whether the numbers name a day of the years 1 to 9999. -/
def valid (d : Date) : Bool :=
  1 ≤ d.year && d.year ≤ 9999 && 1 ≤ d.month && d.month ≤ 12 && 1 ≤ d.day &&
    d.day ≤ daysIn d.year d.month

/-- The number of days before a day, from the start of year 1. -/
def ordinal (d : Date) : Nat :=
  let y := d.year - 1
  let months := (List.range (d.month - 1)).map fun k => daysIn d.year (k + 1)
  365 * y + y / 4 - y / 100 + y / 400 + months.foldl (· + ·) 0 + (d.day - 1)

/-- The text of a day. -/
def render (d : Date) : String :=
  padded 4 d.year ++ "-" ++ padded 2 d.month ++ "-" ++ padded 2 d.day

/-- The text of a day inside a larger value. -/
def renderNested (d : Date) : String :=
  "datetime.date(" ++ toString d.year ++ ", " ++ toString d.month ++ ", " ++ toString d.day ++ ")"

end Date

namespace Timestamp

/-- Whether the numbers name a moment; an offset must be less than a day. -/
def valid (t : Timestamp) : Bool :=
  t.date.valid && t.hour ≤ 23 && t.minute ≤ 59 && t.second ≤ 59 &&
    match t.offset with
    | none => true
    | some s => -86400 < s && s < 86400

/-- The seconds from the start of year 1 to a moment, read in its own zone. -/
def seconds (t : Timestamp) : Int :=
  ((t.date.ordinal * 86400 + t.hour * 3600 + t.minute * 60 + t.second : Nat) : Int) -
    t.offset.getD 0

/-- Whether two timestamps name one moment. A timestamp with a zone and one without never do. -/
def sameMoment (t u : Timestamp) : Bool :=
  t.offset.isSome == u.offset.isSome && t.seconds == u.seconds && t.microsecond == u.microsecond

/-- The text of an offset. -/
def renderOffset (seconds : Int) : String :=
  let minutes := seconds.natAbs / 60
  (if seconds < 0 then "-" else "+") ++ padded 2 (minutes / 60) ++ ":" ++ padded 2 (minutes % 60)

/-- The text of a moment. -/
def render (t : Timestamp) : String :=
  t.date.render ++ " " ++ padded 2 t.hour ++ ":" ++ padded 2 t.minute ++ ":" ++ padded 2 t.second ++
    (if t.microsecond = 0 then "" else "." ++ padded 6 t.microsecond) ++
    (match t.offset with
      | none => ""
      | some s => renderOffset s)

/-- The text of a zone inside a larger value. -/
def renderZone (seconds : Int) : String :=
  if seconds = 0 then "datetime.timezone.utc"
  else
    let delta :=
      if seconds < 0 then "days=-1, seconds=" ++ toString (seconds + 86400)
      else "seconds=" ++ toString seconds
    "datetime.timezone(datetime.timedelta(" ++ delta ++ "))"

/-- The text of a moment inside a larger value; seconds and microseconds that are zero are left
    out from the end. -/
def renderNested (t : Timestamp) : String :=
  let fine := if t.microsecond ≠ 0 then [t.second, t.microsecond]
    else if t.second ≠ 0 then [t.second] else []
  let fields := [t.date.year, t.date.month, t.date.day, t.hour, t.minute] ++ fine
  let zone := match t.offset with
    | none => ""
    | some s => ", tzinfo=" ++ renderZone s
  "datetime.datetime(" ++ String.intercalate ", " (fields.map toString) ++ zone ++ ")"

end Timestamp

end Assay
