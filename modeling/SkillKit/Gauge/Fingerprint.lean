import SkillKit.Gauge.Sample
import SkillKit.Gauge.Sha256

/-!
# Fingerprints

The fingerprint of a sample is the digest of its encoding, which does not show the order in which
fields were added: the pairs of a mapping come in the order of the fingerprints of their keys.
Numbers that are not whole are rounded to six digits, a long list shows its two ends only, and what
is nested too deeply shows a mark only.
-/

namespace SkillKit.Gauge

open Decimal

/-! ## Rounding -/

def keptDigits : Nat := 6

def roundDigits (x : Float) : Float :=
  match parts x with
  | .finite negative m q =>
    if m == 0 then x
    else
      let (num, den) := scaled m q
      let e := magnitude num den + 1 - keptDigits
      if 0 ≤ e then ofDigits negative (divNearest num (den * tenTo e.toNat)) e
      else ofDigits negative (divNearest (num * tenTo (-e).toNat) den) e
  | _ => x

/-! ## Encoding -/

def octets (s : String) : List UInt8 :=
  s.toUTF8.toList

def deepMark : List UInt8 := octets "..."

def maxDepth : Nat := 8

def shownEnds : Nat := 1000

def withoutMiddle (xs : List α) : List α :=
  if xs.length ≤ 2 * shownEnds then xs
  else xs.take shownEnds ++ xs.drop (xs.length - shownEnds)

def littleEndian (n : Int) : List UInt8 :=
  (List.range 8).map fun i => (n.fdiv (twoTo (8 * i) : Nat)).fmod 256 |>.toNat.toUInt8

def arrayHead (size : Nat) (items : String) : List UInt8 :=
  octets s!"A({size},){items}"

def inOrder (parts : List (String × List UInt8)) : List UInt8 :=
  (parts.mergeSort fun a b => a.1 ≤ b.1).flatMap (·.2)

def print (encoded : List UInt8) : String :=
  Sha256.hex (Sha256.digest encoded)

def encodeText : (room : Nat) → String → List UInt8
  | 0, _ => deepMark
  | _ + 1, s => octets ("s" ++ s)

mutual

def encode : (room : Nat) → Sample → List UInt8
  | 0, _ => deepMark
  | _ + 1, .null => octets "None"
  | _ + 1, .bool b => octets (if b then "True" else "False")
  | _ + 1, .int n => octets (toString n)
  | _ + 1, .float x => octets (render (roundDigits x))
  | _ + 1, .complex re im =>
    octets ("c" ++ render (roundDigits re) ++ render (roundDigits im))
  | room + 1, .text s => encodeText (room + 1) s
  | _ + 1, .bytes b => octets "s" ++ b
  | _ + 1, .buffer b => octets "s" ++ b
  | room + 1, .list items =>
    octets s!"L{items.length}" ++ (withoutMiddle (encodeItems room items)).flatten
  | room + 1, .tuple items =>
    octets s!"L{items.length}" ++ (withoutMiddle (encodeItems room items)).flatten
  | room + 1, .dict pairs =>
    octets s!"D{pairs.length}" ++ inOrder (encodePairs room pairs)
  | room + 1, .set items =>
    octets s!"S{items.length}" ++ inOrder (printItems room items)
  | room + 1, .frozen items =>
    octets s!"S{items.length}" ++ inOrder (printItems room items)
  | room + 1, .outcome success output error =>
    let part := fun name (encoded : List UInt8) =>
      let key := encodeText room name
      (print key, key ++ encoded)
    octets "D3" ++ inOrder [
      part "success" (encode room success),
      part "output" (encode room output),
      part "error" (encode room error)]
  | _ + 1, .date year month day => octets s!"datetime.date({year}, {month}, {day})"
  | _ + 1, .clock hour minute second => octets (Sample.clockLiteral hour minute second)
  | _ + 1, .span micros => octets (Sample.spanLiteral micros)
  | _ + 1, .decimal written => octets ("Decimal('" ++ Sample.decimalText written ++ "')")
  | _ + 1, .fraction num den => octets (Sample.fractionLiteral num den)
  | _ + 1, .uid digits => octets ("UUID('" ++ Sample.uidText digits ++ "')")
  | _ + 1, .path p => octets ("PurePosixPath(" ++ Text.quoted p.toString ++ ")")
  | _ + 1, .ints items =>
    arrayHead items.length "<i8" ++ Sha256.digest (items.flatMap littleEndian)
  | _ + 1, .floats items =>
    arrayHead items.length "<f8" ++ items.flatMap fun x => octets (render (roundDigits x))
  | _ + 1, .thing => octets "<builtins.object>"
  | _ + 1, .function => octets "<builtins.function>"

def encodeItems (room : Nat) : List Sample → List (List UInt8)
  | [] => []
  | s :: ss => encode room s :: encodeItems room ss

def encodePairs (room : Nat) : List (Sample × Sample) → List (String × List UInt8)
  | [] => []
  | (k, v) :: ps =>
    let key := encode room k
    (print key, key ++ encode room v) :: encodePairs room ps

def printItems (room : Nat) : List Sample → List (String × List UInt8)
  | [] => []
  | s :: ss =>
    let told := print (encode room s)
    (told, octets told) :: printItems room ss

end

def fingerprint (s : Sample) : String :=
  print (encode (maxDepth + 1) s)

end SkillKit.Gauge
