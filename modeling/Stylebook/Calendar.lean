import Stylebook.Text.Basic

/-!
# Dates and moments

* `Date`, `Date.of` : a day of the Gregorian calendar, from year 1 to 9999;
* `Moment`, `Moment.of` : a time of a day with microseconds, in a known time zone or in none;
* `Calendar.Error` : the part of a date or time that is out of range;
* `Date.text`, `Moment.text` : the usual numeric texts; `Date.shown`, `Moment.shown` : the texts inside other values;
* `Moment.same` : both are the same moment. One with a time zone is never the same as one without.
-/

namespace Stylebook

structure Date where
  year : Nat
  month : Nat
  day : Nat
  deriving DecidableEq

/-- A time of a day; the offset of its time zone is in minutes. -/
structure Moment where
  date : Date
  hour : Nat
  minute : Nat
  second : Nat
  micro : Nat
  offset : Option Int
  deriving DecidableEq

namespace Calendar

/-- The digits of a number, with zeros in front up to a width. -/
def padded (width n : Nat) : Text :=
  let digits := Nat.toDigits 10 n
  List.replicate (width - digits.length) '0' ++ digits

def number (n : Int) : Text := (if n < 0 then ['-'] else []) ++ Nat.toDigits 10 n.natAbs

/-- Arguments between parentheses after a name. -/
def call (name : String) (arguments : List Text) : Text :=
  name.toList ++ '(' :: [',', ' '].intercalate arguments ++ [')']

/-- A duration in minutes, as days and seconds. -/
def shownDuration (minutes : Int) : Text :=
  let days := Int.fdiv minutes 1440
  let seconds := Int.fmod minutes 1440 * 60
  let parts := (if days == 0 then [] else ["days=".toList ++ number days]) ++
    (if seconds == 0 then [] else ["seconds=".toList ++ number seconds])
  call "datetime.timedelta" (if parts.isEmpty then [['0']] else parts)

/-- The part of a date or time that is out of range. -/
inductive Error where
  | year (n : Nat)
  | month
  | day
  | hour
  | minute
  | second
  | offset (minutes : Int)
  deriving DecidableEq

def Error.message : Error → Text
  | .year n => "year ".toList ++ Nat.toDigits 10 n ++ " is out of range".toList
  | .month => "month must be in 1..12".toList
  | .day => "day is out of range for month".toList
  | .hour => "hour must be in 0..23".toList
  | .minute => "minute must be in 0..59".toList
  | .second => "second must be in 0..59".toList
  | .offset minutes =>
    "offset must be a timedelta strictly between -timedelta(hours=24) and timedelta(hours=24), not ".toList ++
      shownDuration minutes ++ ['.']

end Calendar

open Calendar

namespace Date

def isLeapYear (year : Nat) : Bool := year % 4 == 0 && (year % 100 != 0 || year % 400 == 0)

def daysIn (year month : Nat) : Nat :=
  if month == 2 then (if isLeapYear year then 29 else 28)
  else if [4, 6, 9, 11].contains month then 30 else 31

def of (year month day : Nat) : Except Error Date :=
  if year < 1 || 9999 < year then .error (.year year)
  else if month < 1 || 12 < month then .error .month
  else if day < 1 || daysIn year month < day then .error .day
  else .ok ⟨year, month, day⟩

/-- The number of days from the beginning of the calendar. -/
def ordinal (d : Date) : Nat :=
  let before := d.year - 1
  365 * before + before / 4 - before / 100 + before / 400 +
    ((List.range (d.month - 1)).map fun m => daysIn d.year (m + 1)).foldl (· + ·) 0 + d.day

def text (d : Date) : Text := padded 4 d.year ++ '-' :: padded 2 d.month ++ '-' :: padded 2 d.day

def numbers (d : Date) : List Text := [d.year, d.month, d.day].map (Nat.toDigits 10)

def shown (d : Date) : Text := call "datetime.date" d.numbers

end Date

namespace Moment

def of (year month day hour minute second micro : Nat) (offset : Option Int) : Except Error Moment := do
  match offset with
  | some minutes => if minutes.natAbs < 1440 then pure () else throw (.offset minutes)
  | none => pure ()
  let date ← Date.of year month day
  if 23 < hour then throw .hour
  if 59 < minute then throw .minute
  if 59 < second then throw .second
  return { date, hour, minute, second, micro, offset }

/-- The offset of a time zone as hours and minutes. -/
def offsetText (minutes : Int) : Text :=
  (if minutes < 0 then '-' else '+') :: padded 2 (minutes.natAbs / 60) ++ ':' :: padded 2 (minutes.natAbs % 60)

def text (m : Moment) : Text :=
  m.date.text ++ ' ' :: padded 2 m.hour ++ ':' :: padded 2 m.minute ++ ':' :: padded 2 m.second ++
    (if m.micro == 0 then [] else '.' :: padded 6 m.micro) ++ (m.offset.map offsetText).getD []

def shownZone (minutes : Int) : Text :=
  if minutes == 0 then "datetime.timezone.utc".toList
  else call "datetime.timezone" [shownDuration minutes]

/-- The text inside other values; seconds and microseconds are left out if they are zero. -/
def shown (m : Moment) : Text :=
  let fine := if m.micro != 0 then [m.second, m.micro] else if m.second != 0 then [m.second] else []
  call "datetime.datetime" (m.date.numbers ++ ([m.hour, m.minute] ++ fine).map (Nat.toDigits 10) ++
    (m.offset.map fun minutes => ["tzinfo=".toList ++ shownZone minutes]).getD [])

/-- The minutes from the beginning of the calendar, in universal time if the time zone is known. -/
def minutes (m : Moment) : Int :=
  Int.ofNat ((m.date.ordinal * 24 + m.hour) * 60 + m.minute) - m.offset.getD 0

def same (a b : Moment) : Bool :=
  a.offset.isSome == b.offset.isSome && a.minutes == b.minutes && a.second == b.second && a.micro == b.micro

end Moment

end Stylebook
