import SkillKit.Decimal.Binary64

/-!
# Shortest decimal text of a double

The digits are the fewest that read back as the same double and, among those, the nearest to
it.  They are found by trying the value's two neighbours on ever finer decimal grids.
-/

namespace SkillKit.Decimal

/-- The largest `k` with `10 ^ k ≤ num / den`, for a positive quotient. -/
def magnitude (num den : Nat) : Int :=
  if den ≤ num then ((Nat.toDigits 10 (num / den)).length : Int) - 1
  else
    let len := (Nat.toDigits 10 (den / num)).length
    if den ≤ num * tenTo (len - 1) then 1 - (len : Int) else -(len : Int)

def readsAs (x : Float) (negative : Bool) (n : Nat) (e : Int) : Bool :=
  (ofDigits negative n e).toBits == x.toBits

/-- The point of the grid of unit `10 ^ e` that reads back as `± num / den` and is nearest to it. -/
def onGrid? (x : Float) (negative : Bool) (num den : Nat) (e : Int) : Option Nat :=
  let (top, bottom) := if 0 ≤ e then (num, den * tenTo e.toNat) else (num * tenTo (-e).toNat, den)
  let low := top / bottom
  let nearest := divNearest top bottom
  let other := if nearest == low then low + 1 else low
  [nearest, other].find? (readsAs x negative · e)

/-- `m · 2 ^ q` with all of its digits. -/
def exactDigits (m : Nat) (q : Int) : Nat × Int :=
  if 0 ≤ q then (m * twoTo q.toNat, 0) else (m * Nat.pow 5 (-q).toNat, q)

/-- Digits and exponent of the shortest decimal that reads back as the double `± m · 2 ^ q`, `m`
positive.  No double needs more than 17 digits. -/
def shortest (x : Float) (negative : Bool) (m : Nat) (q : Int) : Nat × Int :=
  let (num, den) := scaled m q
  let k := magnitude num den
  let grids := (List.range 17).map fun (i : Nat) => k - i
  (grids.findSome? fun e => (onGrid? x negative num den e).map (·, e)).getD (exactDigits m q)

def trimZeros (digits : List Char) : List Char :=
  match (digits.reverse.dropWhile (· == '0')).reverse with
  | [] => ['0']
  | ds => ds

/-- A positive decimal written with its point when its leading digit stands for `10 ^ -4` up to
`10 ^ 15`, and with an exponent of two or more digits otherwise. -/
def writeDigits (n : Nat) (e : Int) : String :=
  let all := Nat.toDigits 10 n
  let k : Int := all.length + e - 1
  let ds := trimZeros all
  if -4 ≤ k && k < 16 then
    if k < 0 then "0." ++ String.ofList (List.replicate (-k - 1).toNat '0' ++ ds)
    else
      let whole := ds.take (k.toNat + 1)
      let rest := ds.drop (k.toNat + 1)
      String.ofList (whole ++ List.replicate (k.toNat + 1 - whole.length) '0') ++ "."
        ++ (if rest.isEmpty then "0" else String.ofList rest)
  else
    let frac := ds.drop 1
    let mark := if k < 0 then "e-" else "e+"
    let size := toString k.natAbs
    String.ofList (ds.take 1) ++ (if frac.isEmpty then "" else "." ++ String.ofList frac)
      ++ mark ++ (if size.length < 2 then "0" ++ size else size)

def render (x : Float) : String :=
  match parts x with
  | .nan => "nan"
  | .infinite negative => if negative then "-inf" else "inf"
  | .finite negative m q =>
    let sign := if negative then "-" else ""
    if m == 0 then sign ++ "0.0"
    else
      let (n, e) := shortest x negative m q
      sign ++ writeDigits n e

end SkillKit.Decimal
