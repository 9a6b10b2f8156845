import SkillKit.Data.Number
import SkillKit.Decimal.Reader
import SkillKit.Random.Twister

/-!
# Holding out queries

A set of queries is split into one to learn from and one to test with.  The queries that should
trigger and those that should not are shuffled and cut apart from each other, so that both sets
have their share of either kind.
-/

namespace SkillKit.Optimize

open SkillKit.Random

structure Split where
  train : List Value
  test : List Value

def defaultSeed : Int := 42

def shareOf (count : Nat) (share : Value) : Except Fault Int :=
  match share with
  | .text s =>
    match Decimal.readInt? (Text.repeated count s) with
    | some n => .ok n
    | none => .error .unusable
  | share => do
    match ← (Number.int count).mul (← Number.ofValue share) with
    | .int n => return n
    | .float x =>
      match Decimal.parts x with
      | .nan => throw .unusable
      | .infinite _ => throw .tooLarge
      | .finite .. => return (Decimal.truncate? x).getD 0

/-- How many items are held out: a share of them, and at least one. -/
def heldOut (count : Nat) (share : Value) : Except Fault Nat := do
  return (max 1 (← shareOf count share)).toNat

/-- Splits a set of queries; a seed and its negative give the same split. -/
def split (queries : Value) (holdout : Value) (seed : Int) : Except Fault Split := do
  let items ← (← queries.parts).mapM fun q => do return (q, (← q.entry "should_trigger").truthy)
  let wanted := (items.filter (·.2)).map (·.1)
  let unwanted := (items.filter (!·.2)).map (·.1)
  let (wanted, g) := (Twister.ofSeed seed.natAbs).shuffle wanted
  let (unwanted, _) := g.shuffle unwanted
  let m ← heldOut wanted.length holdout
  let n ← heldOut unwanted.length holdout
  return { train := wanted.drop m ++ unwanted.drop n, test := wanted.take m ++ unwanted.take n }

end SkillKit.Optimize
