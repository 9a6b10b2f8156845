import SkillKit.Data.Number

/-!
# Statistics of a measure

Mean, sample deviation, least and greatest value of a list of numbers, each rounded to four
places.  Sums run from left to right and stay exact as long as only integers are added.
-/

namespace SkillKit.Benchmark

structure Stats where
  mean : Number
  stddev : Number
  min : Number
  max : Number

namespace Stats

def places : Nat := 4

def constant (n : Number) : Stats := ⟨n, n, n, n⟩

def toValue (s : Stats) : Value :=
  .object [("mean", s.mean.toValue), ("stddev", s.stddev.toValue), ("min", s.min.toValue),
    ("max", s.max.toValue)]

def rounded (s : Stats) : Stats :=
  ⟨s.mean.round places, s.stddev.round places, s.min.round places, s.max.round places⟩

end Stats

/-- Square of a double, which must not leave the range of doubles. -/
def square (x : Float) : Except Fault Float :=
  let y := x.pow 2.0
  if Decimal.isFinite x && !Decimal.isFinite y then .error .tooLarge else .ok y

def sumOf (numbers : List Number) : Except Fault Number :=
  numbers.foldlM Number.add (.int 0)

def sum (items : List Value) : Except Fault Number :=
  items.foldlM (fun (total : Number) v => do total.add (← Number.ofValue v)) (.int 0)

def squaredDistance (mean : Float) (n : Number) : Except Fault Number := do
  return .float (← square (← (← n.sub (.float mean)).toFloat))

def deviation (mean : Float) (numbers : List Number) : Except Fault Float := do
  if numbers.length ≤ 1 then return 0.0
  let total ← sumOf (← numbers.mapM (squaredDistance mean))
  return Float.sqrt (← total.div (.int (numbers.length - 1 : Nat)))

def least : Number → List Number → Number :=
  List.foldl fun best n => if n.lessThan best then n else best

def greatest : Number → List Number → Number :=
  List.foldl fun best n => if best.lessThan n then n else best

def statsOf (items : List Value) : Except Fault Stats := do
  let total ← sum items
  match ← items.mapM Number.ofValue with
  | [] => return .constant (.float 0.0)
  | n :: rest =>
    let mean ← total.div (.int (items.length : Nat))
    return Stats.rounded
      ⟨.float mean, .float (← deviation mean (n :: rest)), least n rest, greatest n rest⟩

def stats (values : Value) : Except Fault Stats := do
  if !values.truthy then return .constant (.float 0.0)
  statsOf (← values.parts)

end SkillKit.Benchmark
