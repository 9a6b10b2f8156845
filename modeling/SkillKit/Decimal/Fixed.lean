import SkillKit.Decimal.Shortest

/-!
# Fixed decimal places

Rounding to a number of places is exact: the binary value is compared with the two neighbouring
decimals, and a half goes to the even one.
-/

namespace SkillKit.Decimal

def inPlaces (places m : Nat) (q : Int) : Nat :=
  let (num, den) := scaled m q
  divNearest (num * tenTo places) den

def roundTo (places : Nat) (x : Float) : Float :=
  match parts x with
  | .finite negative m q => ofRatio negative (inPlaces places m q) (tenTo places)
  | _ => x

def fixed (places : Nat) (x : Float) : String :=
  match parts x with
  | .nan => "nan"
  | .infinite negative => if negative then "-inf" else "inf"
  | .finite negative m q =>
    let ds := Nat.toDigits 10 (inPlaces places m q)
    let ds := List.replicate (places + 1 - ds.length) '0' ++ ds
    let whole := String.ofList (ds.take (ds.length - places))
    let sign := if negative then "-" else ""
    if places == 0 then sign ++ whole
    else sign ++ whole ++ "." ++ String.ofList (ds.drop (ds.length - places))

def fixedSigned (places : Nat) (x : Float) : String :=
  let s := fixed places x
  if s.startsWith "-" then s else "+" ++ s

def percent (places : Nat) (x : Float) : String :=
  fixed places (x * 100.0) ++ "%"

end SkillKit.Decimal
