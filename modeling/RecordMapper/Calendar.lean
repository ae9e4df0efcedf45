import RecordMapper.Decimal.Digits
/-!
# Dates and times of day

Dates of the proleptic Gregorian calendar, with year zero and negative years, and times of day with
nanoseconds. A leap second is the sixtieth second of a minute: it is kept as second 59 with a
nanosecond count of a thousand million or more.
-/

namespace RecordMapper

namespace Calendar

def isLeapYear (year : Int) : Bool :=
  year % 4 = 0 && (year % 100 ≠ 0 || year % 400 = 0)

def daysInMonth (year : Int) (month : Nat) : Nat :=
  match month with
  | 2 => if isLeapYear year then 29 else 28
  | 4 | 6 | 9 | 11 => 30
  | _ => 31

/-- Nanoseconds in one second. -/
def second : Nat := 1000000000

end Calendar

open Calendar Decimal

structure Date where
  year : Int
  month : Nat
  day : Nat
  month_range : 1 ≤ month ∧ month ≤ 12
  day_range : 1 ≤ day ∧ day ≤ daysInMonth year month
deriving DecidableEq

/-- A time of day; only second 59 runs on into a leap second. -/
structure TimeOfDay where
  hour : Nat
  minute : Nat
  second : Nat
  nanosecond : Nat
  hour_lt : hour < 24
  minute_lt : minute < 60
  second_lt : second < 60
  nanosecond_lt : nanosecond < if second = 59 then 2 * Calendar.second else Calendar.second
deriving DecidableEq

structure DateTime where
  date : Date
  time : TimeOfDay
deriving DecidableEq

namespace Date

def ofYearMonthDay? (year : Int) (month day : Nat) : Option Date :=
  if hm : 1 ≤ month ∧ month ≤ 12 then
    if hd : 1 ≤ day ∧ day ≤ daysInMonth year month then some ⟨year, month, day, hm, hd⟩ else none
  else none

def epoch : Date := ⟨1970, 1, 1, by decide, by decide⟩

/-- At least four digits; a sign goes in front of a year outside 0 to 9999. -/
def yearText (year : Int) : List Char :=
  let digits := padded 4 year.natAbs
  if year < 0 then '-' :: digits else if 9999 < year then '+' :: digits else digits

def chars (d : Date) : List Char :=
  yearText d.year ++ '-' :: padded 2 d.month ++ '-' :: padded 2 d.day

def text (d : Date) : String := String.ofList d.chars

end Date

namespace TimeOfDay

def ofParts? (hour minute second nanosecond : Nat) : Option TimeOfDay :=
  if h : hour < 24 ∧ minute < 60 ∧ second < 60 ∧
      nanosecond < if second = 59 then 2 * Calendar.second else Calendar.second then
    some ⟨hour, minute, second, nanosecond, h.1, h.2.1, h.2.2.1, h.2.2.2⟩
  else none

def midnight : TimeOfDay := ⟨0, 0, 0, 0, by decide, by decide, by decide, by decide⟩

/-- The second as a clock shows it: 60 during a leap second. -/
def shownSecond (t : TimeOfDay) : Nat :=
  if Calendar.second ≤ t.nanosecond then t.second + 1 else t.second

/-- The fraction of a second with 3, 6 or 9 digits, the fewest that are exact; none when it is
zero. -/
def fractionText (nanosecond : Nat) : List Char :=
  let n := nanosecond % Calendar.second
  if n = 0 then []
  else if n % 1000000 = 0 then '.' :: padded 3 (n / 1000000)
  else if n % 1000 = 0 then '.' :: padded 6 (n / 1000)
  else '.' :: padded 9 n

def chars (t : TimeOfDay) : List Char :=
  padded 2 t.hour ++ ':' :: padded 2 t.minute ++ ':' :: padded 2 t.shownSecond ++
    fractionText t.nanosecond

end TimeOfDay

namespace DateTime

def epoch : DateTime := ⟨Date.epoch, TimeOfDay.midnight⟩

def chars (separator : Char) (t : DateTime) : List Char :=
  t.date.chars ++ separator :: t.time.chars

def text (t : DateTime) : String := String.ofList (t.chars ' ')

end DateTime

end RecordMapper
