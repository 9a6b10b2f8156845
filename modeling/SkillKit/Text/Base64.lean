/-!
# Base 64

Three bytes are written as four letters of an alphabet of 64, with `=` filling up the end.
-/

namespace SkillKit.Text

def base64Letters : Array Char :=
  "ABCDEFGHIJKLMNOPQRSTUVWXYZabcdefghijklmnopqrstuvwxyz0123456789+/".toList.toArray

def base64Letter (n : Nat) : Char :=
  base64Letters.getD (n % 64) 'A'

def encodeBase64 : List UInt8 → List Char
  | a :: b :: c :: rest =>
    let n := (a.toNat * 256 + b.toNat) * 256 + c.toNat
    base64Letter (n / 262144) :: base64Letter (n / 4096) :: base64Letter (n / 64)
      :: base64Letter n :: encodeBase64 rest
  | [a, b] =>
    let n := (a.toNat * 256 + b.toNat) * 256
    [base64Letter (n / 262144), base64Letter (n / 4096), base64Letter (n / 64), '=']
  | [a] =>
    let n := a.toNat * 65536
    [base64Letter (n / 262144), base64Letter (n / 4096), '=', '=']
  | [] => []

def base64Value? (c : Char) : Option Nat :=
  base64Letters.findIdx? (· == c)

def bytesOfBits (bits count : Nat) : List Nat → List UInt8
  | [] => []
  | v :: vs =>
    let bits := bits * 64 + v
    if count + 6 < 8 then bytesOfBits bits (count + 6) vs
    else
      let left := count - 2
      UInt8.ofNat (bits / 2 ^ left) :: bytesOfBits (bits % 2 ^ left) left vs

def decodeBase64 (cs : List Char) : List UInt8 :=
  bytesOfBits 0 0 ((cs.takeWhile (· != '=')).filterMap base64Value?)

/-- The six-bit groups of letters with their filling; `count` is the number of letters in the open
group of four, and `filling` the number of `=` behind them.  None when a group is left open. -/
def filledGroups? (count filling : Nat) : List Char → Option (List Nat)
  | [] => if count == 0 then some [] else none
  | c :: cs =>
    if c == '=' then
      if count < 2 then filledGroups? count filling cs
      else if 4 ≤ count + filling + 1 then some []
      else filledGroups? count (filling + 1) cs
    else
      match base64Value? c with
      | some v => (v :: ·) <$> filledGroups? ((count + 1) % 4) 0 cs
      | none => filledGroups? count filling cs

def decodeBase64? (cs : List Char) : Option (List UInt8) :=
  (bytesOfBits 0 0) <$> filledGroups? 0 0 cs

end SkillKit.Text
