import SkillKit.Data.Number

/-!
# Spans of days

A span given in days, whole or not, as microseconds.
-/

namespace SkillKit.Time

def maxSpanDays : Int := 999999999

def checkedSpan (micros : Int) : Except Fault Int :=
  if -maxSpanDays ≤ micros.fdiv dayMicros && micros.fdiv dayMicros ≤ maxSpanDays then .ok micros
  else .error .tooLarge

def daysSpan : Number → Except Fault Int
  | .int n => checkedSpan (n * dayMicros)
  | .float x =>
    match Decimal.truncate? x with
    | none => if x == x then .error .tooLarge else .error .unusable
    | some whole => do
      let fraction := x - (Decimal.ofInt? whole).getD 0.0
      let micros := fraction * 86400000000.0
      let rounded ← match Decimal.parts micros with
        | .finite negative m q =>
          let n : Int := Decimal.inPlaces 0 m q
          pure (if negative then -n else n)
        | _ => throw .tooLarge
      checkedSpan (whole * dayMicros + rounded)

end SkillKit.Time
