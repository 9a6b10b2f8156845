import SkillKit.Text.Basic
import SkillKit.Text.Quoted

/-!
# Text in bytes

Strict decoding of UTF-8 refuses malformed bytes.  Forgiving decoding puts one replacement
character in place of every longest run of bytes that starts a character and cannot end it.
-/

namespace SkillKit.Text

def decode? (b : ByteArray) : Option String :=
  String.fromUTF8? b

/-- A character begun: the bits so far, how many bytes are missing, and the range of the next. -/
structure Begun where
  bits : Nat
  missing : Nat
  low : Nat
  high : Nat

def startByte (b : Nat) : Except Char Begun :=
  if b < 0x80 then .error (Char.ofNat b)
  else if 0xc2 ≤ b && b ≤ 0xdf then .ok ⟨b - 0xc0, 1, 0x80, 0xbf⟩
  else if 0xe0 ≤ b && b ≤ 0xef then
    .ok ⟨b - 0xe0, 2, if b == 0xe0 then 0xa0 else 0x80, if b == 0xed then 0x9f else 0xbf⟩
  else if 0xf0 ≤ b && b ≤ 0xf4 then
    .ok ⟨b - 0xf0, 3, if b == 0xf0 then 0x90 else 0x80, if b == 0xf4 then 0x8f else 0xbf⟩
  else .error (Char.ofNat 0xfffd)

def decodeFrom (begun : Option Begun) : List UInt8 → List Char
  | [] => if begun.isSome then [Char.ofNat 0xfffd] else []
  | byte :: rest =>
    let b := byte.toNat
    let restart : List Char :=
      match startByte b with
      | .error c => c :: decodeFrom none rest
      | .ok next => decodeFrom (some next) rest
    match begun with
    | none => restart
    | some g =>
      if g.low ≤ b && b ≤ g.high then
        let bits := g.bits * 64 + (b - 0x80)
        if g.missing == 1 then Char.ofNat bits :: decodeFrom none rest
        else decodeFrom (some ⟨bits, g.missing - 1, 0x80, 0xbf⟩) rest
      else Char.ofNat 0xfffd :: restart

def decodeForgiving (b : ByteArray) : String :=
  String.ofList (decodeFrom none b.toList)

/-! ## What is wrong with bytes -/

structure Malformed where
  position : Nat
  bytes : List UInt8
  reason : String

def findMalformed (position : Nat) (taken : List UInt8) (begun : Option Begun) :
    List UInt8 → Option Malformed
  | [] => if begun.isSome then some ⟨position, taken, "unexpected end of data"⟩ else none
  | byte :: rest =>
    let b := byte.toNat
    match begun with
    | none =>
      match startByte b with
      | .ok next => findMalformed position [byte] (some next) rest
      | .error _ =>
        if b < 0x80 then findMalformed (position + 1) [] none rest
        else some ⟨position, [byte], "invalid start byte"⟩
    | some g =>
      if g.low ≤ b && b ≤ g.high then
        if g.missing == 1 then findMalformed (position + taken.length + 1) [] none rest
        else findMalformed position (taken ++ [byte]) (some ⟨0, g.missing - 1, 0x80, 0xbf⟩) rest
      else some ⟨position, taken, "invalid continuation byte"⟩

def Malformed.message (m : Malformed) : String :=
  match m.bytes with
  | [b] =>
    let hex := String.ofList (hexPadded 2 b.toNat)
    s!"'utf-8' codec can't decode byte 0x{hex} in position {m.position}: {m.reason}"
  | bytes =>
    let last := m.position + bytes.length - 1
    s!"'utf-8' codec can't decode bytes in position {m.position}-{last}: {m.reason}"

def withoutMark (b : ByteArray) : ByteArray :=
  if b.toList.take 3 == [0xef, 0xbb, 0xbf] then b.extract 3 b.size else b

end SkillKit.Text
