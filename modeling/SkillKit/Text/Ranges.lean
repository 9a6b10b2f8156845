/-!
# Sets of characters given by stretches

A set of code points is a list of lengths: how many code points there are before its first range,
how many in that range, how many up to the next range, and so on.  Long lists of lengths are packed
in numbers.
-/

namespace SkillKit.Text

/-- The lengths in a number, of which one was read in part.  Their digits stand from the lowest on,
each with three bits and a fourth bit where the length has more of them; `fuel` is at least the number
of digits. -/
def lengthsIn : (fuel length unit word : Nat) → List Nat
  | 0, _, _, _ => []
  | fuel + 1, length, unit, word =>
    if word = 0 then []
    else if word % 16 < 8 then (length + word % 8 * unit) :: lengthsIn fuel 0 1 (word / 16)
    else lengthsIn fuel (length + word % 8 * unit) (unit * 8) (word / 16)

def lengths (words : List Nat) : List Nat :=
  words.flatMap (lengthsIn 100 0 1)

def stretchesBefore : List Nat → Nat → Nat
  | [], _ => 0
  | length :: rest, n => if n < length then 0 else stretchesBefore rest (n - length) + 1

def inRanges (stretches : List Nat) (n : Nat) : Bool :=
  stretchesBefore stretches n % 2 == 1

end SkillKit.Text
