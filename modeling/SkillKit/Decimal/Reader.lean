import SkillKit.Decimal.Binary64
import SkillKit.Text.Basic
import SkillKit.Text.Digits
import SkillKit.Text.LetterCase

/-!
# Numbers read from text

Blanks around a number are passed over, digits may come from any script, and single
underscores may stand between digits.
-/

namespace SkillKit.Decimal

open Text

def digitValues? (cs : List Char) : Option (List Nat) :=
  let groups := splitWhen (· == '_') cs
  if groups.any List.isEmpty then none
  else (groups.flatten).mapM digitValue?

def ofDigitValues (ds : List Nat) : Nat :=
  ds.foldl (fun n d => n * 10 + d) 0

def readSign (cs : List Char) : Bool × List Char :=
  match cs with
  | '-' :: r => (true, r)
  | '+' :: r => (false, r)
  | r => (false, r)

def readInt? (s : String) : Option Int := do
  let (negative, cs) := readSign (trim isBlank s.toList)
  let ds ← digitValues? cs
  let n : Int := ofDigitValues ds
  if 4300 < ds.length then none else some (if negative then -n else n)

def readFloat? (s : String) : Option Float := do
  let (negative, cs) := readSign (trim isBlank s.toList)
  let word := lower (String.ofList cs)
  let signed (x : Float) : Float := if negative then -x else x
  if word == "inf" || word == "infinity" then some (signed (assemble false (twoTo 52) 972))
  else if word == "nan" then
    let inf := assemble false (twoTo 52) 972
    some (inf - inf)
  else
    let mantissa := cs.takeWhile fun c => c != 'e' && c != 'E'
    let tail := cs.dropWhile fun c => c != 'e' && c != 'E'
    let whole := mantissa.takeWhile (· != '.')
    let rest := mantissa.dropWhile (· != '.')
    let frac := rest.drop 1
    let wholeDigits ← if whole.isEmpty then some [] else digitValues? whole
    let fracDigits ← if frac.isEmpty then some [] else digitValues? frac
    if wholeDigits.isEmpty && fracDigits.isEmpty then none
    else
      let exponent ← match tail with
        | [] => some 0
        | _ :: e => do
          let (down, e) := readSign e
          let ds ← digitValues? e
          let n : Int := ofDigitValues ds
          some (if down then -n else n)
      some (ofDigits negative (ofDigitValues (wholeDigits ++ fracDigits))
        (exponent - fracDigits.length))

end SkillKit.Decimal
