import SkillKit.Decimal.Power
import SkillKit.Time.Calendar
import SkillKit.Text.Basic

/-!
# ISO 8601 texts of dates and times

Reading takes calendar dates and week dates in basic and extended form, any one character
between date and time, times down to fractions of a second, and offsets.  Writing gives the
extended form.
-/

namespace SkillKit.Time

open Text

/-! ## Writing -/

def zeroPadded (width n : Nat) : String :=
  padLeft '0' width (toString n)

def Date.iso (d : Date) : String :=
  zeroPadded 4 d.year ++ "-" ++ zeroPadded 2 d.month ++ "-" ++ zeroPadded 2 d.day

def Clock.iso (c : Clock) : String :=
  zeroPadded 2 c.hour ++ ":" ++ zeroPadded 2 c.minute ++ ":" ++ zeroPadded 2 c.second
    ++ (if c.micro == 0 then "" else "." ++ zeroPadded 6 c.micro)

def isoOffset (offset : Int) : String :=
  let c := Clock.ofMicros offset.natAbs
  (if offset < 0 then "-" else "+") ++ zeroPadded 2 c.hour ++ ":" ++ zeroPadded 2 c.minute
    ++ (if c.second == 0 && c.micro == 0 then "" else ":" ++ zeroPadded 2 c.second)
    ++ (if c.micro == 0 then "" else "." ++ zeroPadded 6 c.micro)

def Stamp.isoWith (sep : String) (t : Stamp) : String :=
  t.date.iso ++ sep ++ t.time.iso ++ (t.offset.map isoOffset).getD ""

def Stamp.iso (t : Stamp) : String :=
  t.isoWith "T"

/-! ## Reading -/

def readDigits (n : Nat) (cs : List Char) : Option (Nat × List Char) :=
  let ds := cs.take n
  if ds.length == n && ds.all Char.isDigit then
    some (ds.foldl (fun v c => v * 10 + (c.toNat - 48)) 0, cs.drop n)
  else none

/-- Number of characters of the date at the start of a text of at least seven characters; the
forms are told apart by the characters after the year. -/
def dateLength? (cs : List Char) : Option Nat :=
  let len := cs.length
  if len == 7 then some 7
  else if cs[4]? == some '-' then
    if cs[5]? == some 'W' then
      if cs[8]? == some '-' then
        if len == 9 then none
        -- after `YYYY-Www-` two digits are an hour, and the dash is the separator
        else if (cs[10]?.map Char.isDigit).getD false then some 8
        else some 10
      else some 8
    else some 10
  else if cs[4]? == some 'W' then
    let run := 7 + ((cs.drop 7).takeWhile Char.isDigit).length
    if run < 9 then some run
    else if run % 2 == 0 then some 7
    else some 8
  else some 8

/-- A date that fills the whole list: `YYYY-MM-DD`, `YYYYMMDD`, `YYYY-Www`, `YYYYWww`,
`YYYY-Www-D` or `YYYYWwwD`. -/
def readDate? (cs : List Char) : Option Date := do
  let (year, cs) ← readDigits 4 cs
  let dashed := cs.head? == some '-'
  let cs := if dashed then cs.drop 1 else cs
  let dash (cs : List Char) : Option (List Char) :=
    if dashed then dropPrefix? ['-'] cs else some cs
  match cs with
  | 'W' :: cs =>
    let (week, cs) ← readDigits 2 cs
    if cs.isEmpty then Date.ofWeek? year week 1
    else
      let cs ← dash cs
      let (day, _) ← readDigits 1 cs
      Date.ofWeek? year week day
  | cs =>
    let (month, cs) ← readDigits 2 cs
    let cs ← dash cs
    let (day, _) ← readDigits 2 cs
    some ⟨year, month, day⟩

structure ClockReading where
  time : Clock
  complete : Bool

/-- Six digits of a fraction of a second.  Further digits are dropped, and anything after the
sixth digit that is none is left. -/
def readFraction? (hour minute second : Nat) (cs : List Char) : Option ClockReading := do
  let n := min cs.length 6
  let (v, rest) ← readDigits n cs
  some ⟨⟨hour, minute, second, v * tenTo (6 - n)⟩, rest.all Char.isDigit⟩

/-- What stands behind a component of a time: nothing, one ASCII character that is left over, a
fraction, or the next component. -/
inductive ClockTail where
  | done (complete : Bool)
  | fraction (rest : List Char)
  | more (rest : List Char)

/-- Sorts what stands behind a component; components have colons between them or nothing. -/
def clockTail? (colons : Bool) : List Char → Option ClockTail
  | [] => some (.done true)
  | [c] => if c.toNat < 128 then some (.done false) else none
  | c :: rest =>
    if colons && c == ':' then some (.more rest)
    else if c == '.' || c == ',' then some (.fraction rest)
    else if colons then none
    else some (.more (c :: rest))

def readClock? (cs : List Char) : Option ClockReading := do
  let (hour, cs) ← readDigits 2 cs
  let colons := cs.head? == some ':'
  match ← clockTail? colons cs with
  | .done complete => some ⟨⟨hour, 0, 0, 0⟩, complete⟩
  | .fraction rest => readFraction? hour 0 0 rest
  | .more rest =>
    let (minute, cs) ← readDigits 2 rest
    match ← clockTail? colons cs with
    | .done complete => some ⟨⟨hour, minute, 0, 0⟩, complete⟩
    | .fraction rest => readFraction? hour minute 0 rest
    | .more rest =>
      let (second, cs) ← readDigits 2 rest
      match ← clockTail? colons cs with
      | .done complete => some ⟨⟨hour, minute, second, 0⟩, complete⟩
      | .fraction rest => readFraction? hour minute second rest
      -- without colons, digits behind the seconds are a fraction
      | .more rest => readFraction? hour minute second rest

/-- A time with an optional offset: `Z`, or a sign and a time.  An offset of less than a second
counts as none. -/
def readTime? (cs : List Char) : Option (Clock × Option Int) := do
  let isMark (c : Char) : Bool := c == '+' || c == '-' || c == 'Z'
  let reading ← readClock? (cs.takeWhile (!isMark ·))
  match cs.dropWhile (!isMark ·) with
  | [] => if reading.complete then some (reading.time, none) else none
  | ['Z'] => some (reading.time, some 0)
  | 'Z' :: _ => none
  | sign :: rest =>
    let shift ← readClock? rest
    let n : Int := shift.time.micros
    if !shift.complete then none
    else if n < 1000000 then some (reading.time, some 0)
    else some (reading.time, some (if sign == '-' then -n else n))

def Stamp.ofIso? (s : String) : Option Stamp := do
  let cs := s.toList
  if cs.length < 7 then none
  else
    let len ← dateLength? cs
    let date ← readDate? (cs.take len)
    let (time, offset) ←
      match cs.drop len with
      | [] => some (⟨0, 0, 0, 0⟩, none)
      | _ :: rest => readTime? rest
    if date.isValid && time.isValid && (offset.getD 0).natAbs < 86400000000 then
      some ⟨date, time, offset⟩
    else none

end SkillKit.Time
