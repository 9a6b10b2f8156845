import SkillKit.Decimal.Power

/-!
# Doubles as exact numbers

A finite double is `± mantissa · 2 ^ exponent`.  Reading it apart and rounding a quotient of
natural numbers to the nearest double are the two steps between decimal text and doubles.
-/

namespace SkillKit.Decimal

inductive Parts where
  | finite (negative : Bool) (mantissa : Nat) (exponent : Int)
  | infinite (negative : Bool)
  | nan
deriving Repr, DecidableEq

def parts (x : Float) : Parts :=
  let bits : Nat := x.toBits.toNat
  let negative := bits / twoTo 63 == 1
  let biased : Nat := bits / twoTo 52 % twoTo 11
  let fraction : Nat := bits % twoTo 52
  if biased == 2047 then
    if fraction == 0 then .infinite negative else .nan
  else if biased == 0 then .finite negative fraction (-1074)
  else .finite negative (twoTo 52 + fraction) ((biased : Int) - 1075)

def isFinite (x : Float) : Bool :=
  match parts x with
  | .finite .. => true
  | _ => false

def divNearest (num den : Nat) : Nat :=
  let low := num / den
  let twice := 2 * (num % den)
  if twice < den then low
  else if den < twice then low + 1
  else low + low % 2

def scaled (n : Nat) (e : Int) : Nat × Nat :=
  if 0 ≤ e then (n * twoTo e.toNat, 1) else (n, twoTo (-e).toNat)

/-- The double `mantissa · 2 ^ exponent`, for a mantissa of at most 53 bits that has all of them
unless the exponent is the least one; infinite when the exponent is too large. -/
def assemble (negative : Bool) (mantissa : Nat) (exponent : Int) : Float :=
  let sign := if negative then twoTo 63 else 0
  let bits :=
    if mantissa < twoTo 52 then mantissa
    else if 971 < exponent then 2047 * twoTo 52
    else (exponent + 1075).toNat * twoTo 52 + (mantissa - twoTo 52)
  Float.ofBits (UInt64.ofNat (sign + bits))

def ofRatio (negative : Bool) (num den : Nat) : Float :=
  if num == 0 then assemble negative 0 (-1074)
  else
    let guess : Int := (num.log2 : Int) - den.log2 - 52
    -- the quotient has 53 bits above `2 ^ guess`, or 52 when the guess is one too high
    let (num', den') := scaled num (-guess)
    let exponent := if num' < den' * den * twoTo 52 then guess - 1 else guess
    let exponent := max exponent (-1074)
    let (top, bottom) := scaled num (-exponent)
    let mantissa := divNearest top (bottom * den)
    if mantissa == twoTo 53 then assemble negative (twoTo 52) (exponent + 1)
    else assemble negative mantissa exponent

def ofNat? (n : Nat) : Option Float :=
  let x := ofRatio false n 1
  if isFinite x then some x else none

def ofInt? (n : Int) : Option Float :=
  let x := ofRatio (n < 0) n.natAbs 1
  if isFinite x then some x else none

def ofDigits (negative : Bool) (digits : Nat) (exponent : Int) : Float :=
  -- beyond these bounds the answer is zero or infinite whatever the digits are
  let places : Int := (Nat.toDigits 10 digits).length
  if digits == 0 || exponent + places < -400 then ofRatio negative 0 1
  else if 400 < exponent + places then ofRatio negative (tenTo 400) 1
  else if 0 ≤ exponent then ofRatio negative (digits * tenTo exponent.toNat) 1
  else ofRatio negative digits (tenTo (-exponent).toNat)

def truncate? (x : Float) : Option Int :=
  match parts x with
  | .finite negative m e =>
    let (num, den) := scaled m e
    let n : Int := (num / den : Nat)
    some (if negative then -n else n)
  | _ => none

end SkillKit.Decimal
