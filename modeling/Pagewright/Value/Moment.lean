import Pagewright.Number.Layout
import Pagewright.Text.Spelling

/-!
# Dates and times

A moment is a calendar day, or a day with a time of day and possibly a distance from universal
time. It comes from a document as written there and is displayed again; as a key it is compared by
the instant it names when its distance from universal time is known, and as written otherwise.
-/

namespace Pagewright

open Pagewright.Text Pagewright.Number

/-- The distance of a local time from universal time, in minutes, and the name it was written
with. -/
structure ZoneOffset where
  minutes : Int
  name : String
deriving DecidableEq

/-- A time of day. -/
structure Clock where
  hour : Nat
  minute : Nat
  second : Nat
  micro : Nat
  offset : Option ZoneOffset
deriving DecidableEq

/-- A calendar day, possibly with a time of day. -/
structure Moment where
  year : Nat
  month : Nat
  day : Nat
  clock : Option Clock
deriving DecidableEq

namespace Moment

/-- Is the year one with a leap day? -/
def isLeap (year : Nat) : Bool := year % 4 == 0 && (year % 100 != 0 || year % 400 == 0)

/-- The number of days of a month. -/
def daysIn (year month : Nat) : Nat :=
  if month = 2 then (if isLeap year then 29 else 28)
  else if month = 4 ∨ month = 6 ∨ month = 9 ∨ month = 11 then 30
  else 31

/-- Is the moment one of the calendar and of the clock? -/
def isValid (m : Moment) : Bool :=
  1 ≤ m.year && m.year ≤ 9999 && 1 ≤ m.month && m.month ≤ 12 && 1 ≤ m.day &&
    m.day ≤ daysIn m.year m.month &&
    match m.clock with
    | none => true
    | some c =>
      c.hour < 24 && c.minute < 60 && c.second < 60 && c.micro < 1000000 &&
        match c.offset with
        | none => true
        | some z => z.minutes.natAbs < 1440

/-- The number of days of the years before a year. -/
def daysBeforeYear (year : Nat) : Nat :=
  let past := year - 1
  365 * past + past / 4 - past / 100 + past / 400

/-- The number of days of a year before a month. -/
def daysBeforeMonth (year month : Nat) : Nat :=
  (List.range (month - 1)).foldl (fun days before => days + daysIn year (before + 1)) 0

/-- The number of days up to a day. -/
def dayNumber (m : Moment) : Nat :=
  daysBeforeYear m.year + daysBeforeMonth m.year m.month + m.day

/-- The instant of a moment whose distance from universal time is known, in millionths of a
second. -/
def instant? (m : Moment) : Option Int := do
  let c ← m.clock
  let z ← c.offset
  let minutes : Int := (m.dayNumber * 24 + c.hour) * 60 + c.minute - z.minutes
  return (minutes * 60 + c.second) * 1000000 + c.micro

/-- The day behind a day; none behind the last one of the calendar. -/
def nextDay? (m : Moment) : Option Moment :=
  if m.day < daysIn m.year m.month then some { m with day := m.day + 1 }
  else if m.month < 12 then some { m with month := m.month + 1, day := 1 }
  else if m.year < 9999 then some { m with year := m.year + 1, month := 1, day := 1 }
  else none

/-- The moment one second later; none behind the last second of the calendar. A day without a time
is left as it is. -/
def nextSecond? (m : Moment) : Option Moment :=
  match m.clock with
  | none => some m
  | some c =>
    if c.second < 59 then some { m with clock := some { c with second := c.second + 1 } }
    else if c.minute < 59 then
      some { m with clock := some { c with minute := c.minute + 1, second := 0 } }
    else if c.hour < 23 then
      some { m with clock := some { c with hour := c.hour + 1, minute := 0, second := 0 } }
    else nextDay? { m with clock := some { c with hour := 0, minute := 0, second := 0 } }

/-- A number with zeros in front up to a width. -/
def padded (width n : Nat) : List Char :=
  let digits := natDigits n
  List.replicate (width - digits.length) '0' ++ digits

/-- The text of a distance from universal time. -/
def offsetText (minutes : Int) : List Char :=
  (if minutes < 0 then '-' else '+') :: padded 2 (minutes.natAbs / 60) ++ ':' ::
    padded 2 (minutes.natAbs % 60)

/-- The text of a time of day; the fraction is left out when it is zero. -/
def clockText (c : Clock) : List Char :=
  padded 2 c.hour ++ ':' :: padded 2 c.minute ++ ':' :: padded 2 c.second ++
    (if c.micro = 0 then [] else '.' :: padded 6 c.micro) ++
    match c.offset with
    | none => []
    | some z => offsetText z.minutes

/-- The text of a moment. -/
def text (m : Moment) : List Char :=
  padded 4 m.year ++ '-' :: padded 2 m.month ++ '-' :: padded 2 m.day ++
    match m.clock with
    | none => []
    | some c => ' ' :: clockText c

/-- The spelling of a distance from universal time. -/
def offsetSpelling (z : ZoneOffset) : List Char :=
  let seconds := z.minutes * 60
  let days := seconds.fdiv 86400
  let rest := seconds.fmod 86400
  let delta :=
    if seconds = 0 then "0".toList
    else if days = 0 then "seconds=".toList ++ intDigits rest
    else "days=".toList ++ intDigits days ++
      if rest = 0 then [] else ", seconds=".toList ++ intDigits rest
  "datetime.timezone(datetime.timedelta(".toList ++ delta ++ "), ".toList ++
    spell z.name.toList ++ [')']

/-- The spelling of a moment inside a list or a mapping. -/
def spelled (m : Moment) : List Char :=
  let day := [m.year, m.month, m.day].map natDigits
  match m.clock with
  | none => "datetime.date(".toList ++ joinWith ", ".toList day ++ [')']
  | some c =>
    let fine := if c.micro ≠ 0 then [c.second, c.micro] else if c.second ≠ 0 then [c.second] else []
    let clock := (c.hour :: c.minute :: fine).map natDigits
    let zone := match c.offset with
      | none => []
      | some z => ", tzinfo=".toList ++ offsetSpelling z
    "datetime.datetime(".toList ++ joinWith ", ".toList (day ++ clock) ++ zone ++ [')']

end Moment

end Pagewright
