/-!
# Calendar dates and times of day

Dates of the Gregorian calendar, extended backwards, from year 1 to year 9999, and their
number of days since the last day of year 0.
-/

namespace SkillKit.Time

structure Date where
  year : Nat
  month : Nat
  day : Nat
deriving Repr, DecidableEq, Inhabited

structure Clock where
  hour : Nat
  minute : Nat
  second : Nat
  micro : Nat
deriving Repr, DecidableEq, Inhabited

/-- A date and a time of day, with its distance from universal time in microseconds when that
is known. -/
structure Stamp where
  date : Date
  time : Clock
  offset : Option Int := none
deriving Repr, DecidableEq, Inhabited

def isLeap (year : Nat) : Bool :=
  year % 4 == 0 && (year % 100 != 0 || year % 400 == 0)

def daysInMonth (year month : Nat) : Nat :=
  if month == 2 then (if isLeap year then 29 else 28)
  else if [4, 6, 9, 11].contains month then 30
  else 31

def daysBeforeYear (year : Nat) : Nat :=
  let y := year - 1
  y * 365 + y / 4 - y / 100 + y / 400

def daysBeforeMonth (year month : Nat) : Nat :=
  (List.range (month - 1)).foldl (fun n m => n + daysInMonth year (m + 1)) 0

def Date.isValid (d : Date) : Bool :=
  1 ≤ d.year && d.year ≤ 9999 && 1 ≤ d.month && d.month ≤ 12
    && 1 ≤ d.day && d.day ≤ daysInMonth d.year d.month

def Clock.isValid (c : Clock) : Bool :=
  c.hour < 24 && c.minute < 60 && c.second < 60 && c.micro < 1000000

/-- Day number of a date; the first of January of year 1 has number 1. -/
def Date.ordinal (d : Date) : Nat :=
  daysBeforeYear d.year + daysBeforeMonth d.year d.month + d.day

def monthAndDay (year : Nat) : (fuel month n : Nat) → Nat × Nat
  | 0, month, n => (month, n + 1)
  | fuel + 1, month, n =>
    if n < daysInMonth year month then (month, n + 1)
    else monthAndDay year fuel (month + 1) (n - daysInMonth year month)

def Date.ofOrdinal (n : Nat) : Date :=
  let n := n - 1
  let n400 := n / 146097
  let n := n % 146097
  let n100 := n / 36524
  let n := n % 36524
  let n4 := n / 1461
  let n := n % 1461
  let n1 := n / 365
  let n := n % 365
  let year := n400 * 400 + n100 * 100 + n4 * 4 + n1 + 1
  if n1 == 4 || n100 == 4 then ⟨year - 1, 12, 31⟩
  else
    let (month, day) := monthAndDay year 11 1 n
    ⟨year, month, day⟩

def dayMicros : Int := 86400000000

def Clock.micros (c : Clock) : Nat :=
  ((c.hour * 60 + c.minute) * 60 + c.second) * 1000000 + c.micro

def Clock.ofMicros (n : Nat) : Clock :=
  ⟨n / 3600000000, n / 60000000 % 60, n / 1000000 % 60, n % 1000000⟩

def Stamp.wall (t : Stamp) : Int :=
  (t.date.ordinal : Int) * dayMicros + t.time.micros

/-- Microseconds from the start of the calendar to the stamp, in universal time if it says how
far it is from it. -/
def Stamp.instant (t : Stamp) : Int :=
  t.wall - t.offset.getD 0

def Stamp.ofWall? (n : Int) : Option Stamp :=
  let day := n.fdiv dayMicros
  if 1 ≤ day && day ≤ 3652059 then
    some ⟨Date.ofOrdinal day.toNat, Clock.ofMicros (n.fmod dayMicros).toNat, none⟩
  else none

def Date.weekday (d : Date) : Nat :=
  (d.ordinal + 6) % 7

def firstMonday (year : Nat) : Int :=
  let first : Int := Date.ordinal ⟨year, 1, 1⟩
  let weekday := (first + 6) % 7
  let monday := first - weekday
  if 3 < weekday then monday + 7 else monday

def weeksInYear (year : Nat) : Nat :=
  let first := Date.ordinal ⟨year, 1, 1⟩ % 7
  if first == 4 || (first == 3 && isLeap year) then 53 else 52

def Date.ofWeek? (year week day : Nat) : Option Date :=
  if 1 ≤ year && year ≤ 9999 && 1 ≤ week && week ≤ weeksInYear year && 1 ≤ day && day ≤ 7 then
    let n := firstMonday year + ((week : Int) - 1) * 7 + ((day : Int) - 1)
    if 1 ≤ n && n ≤ 3652059 then some (Date.ofOrdinal n.toNat) else none
  else none

end SkillKit.Time
