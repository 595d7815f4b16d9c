import SpecFinder.Yaml.Kind

/-!
# Dates and times

A day of the calendar, perhaps with a time of day and a time zone.
-/

namespace SpecFinder.Yaml

structure Date where
  year : Nat
  month : Nat
  day : Nat
  deriving DecidableEq, Repr

/-- A day and a time of it. The time zone is given by the minutes that its clocks
are ahead. -/
structure Moment where
  date : Date
  hour : Nat
  minute : Nat
  second : Nat
  microsecond : Nat
  zone : Option Int
  deriving DecidableEq, Repr

namespace Date

def isLeap (year : Nat) : Bool :=
  year % 4 == 0 && (year % 100 != 0 || year % 400 == 0)

def daysIn (year month : Nat) : Nat :=
  match month with
  | 2 => if isLeap year then 29 else 28
  | 4 | 6 | 9 | 11 => 30
  | _ => 31

def isValid (date : Date) : Bool :=
  1 ≤ date.year && date.year ≤ 9999 && 1 ≤ date.month && date.month ≤ 12
    && 1 ≤ date.day && date.day ≤ daysIn date.year date.month

/-- The number of days up to a day, from the beginning of the calendar. -/
def ordinal (date : Date) : Nat :=
  let past := date.year - 1
  let months := (List.range (date.month - 1)).map fun month => daysIn date.year (month + 1)
  365 * past + past / 4 - past / 100 + past / 400 + months.foldr (· + ·) 0 + date.day

end Date

/-- A count with zeros in front up to some width. -/
def padded (width value : Nat) : Text :=
  let digits := Text.ofNat value
  List.replicate (width - digits.length) '0' ++ digits

def Date.text (date : Date) : Text :=
  padded 4 date.year ++ '-' :: padded 2 date.month ++ '-' :: padded 2 date.day

def Date.literal (date : Date) : Text :=
  "datetime.date(".toList
    ++ Text.join ", ".toList ([date.year, date.month, date.day].map Text.ofNat) ++ [')']

namespace Moment

def isValid (moment : Moment) : Bool :=
  moment.date.isValid && moment.hour < 24 && moment.minute < 60 && moment.second < 60
    && moment.zone.all (·.natAbs < 24 * 60)

/-- The microseconds from the beginning of the calendar up to a moment, by the clocks of
its time zone. -/
def elapsed (moment : Moment) : Int :=
  let minutes := (moment.date.ordinal * 24 + moment.hour) * 60 + moment.minute
  (minutes * 60 + moment.second) * 1000000 + moment.microsecond

/-- Whether two moments are the same. Clocks of two time zones may show different times
at once, and without a time zone a moment is not to be compared with one in a zone. -/
def isSame (left right : Moment) : Bool :=
  match left.zone, right.zone with
  | none, none => left == right
  | some zone, some zone' =>
      left.elapsed - zone * 60000000 == right.elapsed - zone' * 60000000
  | _, _ => false

/-- A time zone as its distance in hours and minutes. -/
def zoneText (zone : Int) : Text :=
  let sign := if zone < 0 then '-' else '+'
  sign :: padded 2 (zone.natAbs / 60) ++ ':' :: padded 2 (zone.natAbs % 60)

/-- A moment as date and time with a mark between them. -/
def text (mark : Char) (moment : Moment) : Text :=
  moment.date.text ++ mark :: padded 2 moment.hour ++ ':' :: padded 2 moment.minute
    ++ ':' :: padded 2 moment.second
    ++ (if moment.microsecond = 0 then [] else '.' :: padded 6 moment.microsecond)
    ++ (moment.zone.map zoneText).getD []

def zoneLiteral (zone : Int) : Text :=
  if zone = 0 then
    "datetime.timezone.utc".toList
  else
    let days := if zone < 0 then "days=-1, ".toList else []
    let seconds := (zone.fmod (24 * 60)).toNat * 60
    "datetime.timezone(datetime.timedelta(".toList ++ days ++ "seconds=".toList
      ++ Text.ofNat seconds ++ "))".toList

/-- A moment as the call that makes it. Seconds are left out when they are zero. -/
def literal (moment : Moment) : Text :=
  let date := moment.date
  let seconds :=
    if moment.microsecond != 0 then [moment.second, moment.microsecond]
    else if moment.second != 0 then [moment.second]
    else []
  let parts := ([date.year, date.month, date.day, moment.hour, moment.minute] ++ seconds).map
    Text.ofNat
  let zone := (moment.zone.map fun zone => "tzinfo=".toList ++ zoneLiteral zone).toList
  "datetime.datetime(".toList ++ Text.join ", ".toList (parts ++ zone) ++ [')']

/-- The time zone that a sign, hours and minutes stand for. -/
def zoneOf (zone : Option (Char × Text × Text)) : Int :=
  match zone with
  | none => 0
  | some (sign, hours, minutes) =>
      let ahead : Int := Scalar.valueOf 10 hours * 60 + Scalar.valueOf 10 minutes
      if sign == '-' then -ahead else ahead

/-- The moment that a date with a time of day stands for. Of the fraction of a
second six digits count. -/
def ofParts (date : Date) (time : Text × Text × Text) (parts : Kind.TimestampParts) : Moment :=
  let (hour, minute, second) := time
  let fraction := parts.fraction.take 6
  { date
    hour := Scalar.valueOf 10 hour
    minute := Scalar.valueOf 10 minute
    second := Scalar.valueOf 10 second
    microsecond := Scalar.valueOf 10 fraction * Nat.pow 10 (6 - fraction.length)
    zone := parts.zone.map zoneOf }

end Moment

end SpecFinder.Yaml
