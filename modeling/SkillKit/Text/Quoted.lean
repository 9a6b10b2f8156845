import SkillKit.Text.Printable

/-!
# Quoted text

A text in quotes on one line: single quotes unless the text has a single quote and no double
one; the quote, the backslash and the characters that are not printable are escaped.
-/

namespace SkillKit.Text

def hexPadded (width n : Nat) : List Char :=
  let ds := Nat.toDigits 16 n
  List.replicate (width - ds.length) '0' ++ ds

def quoteFor (cs : List Char) : Char :=
  if cs.contains '\'' && !cs.contains '"' then '"' else '\''

def quotedChar (quote c : Char) : List Char :=
  if c == quote || c == '\\' then ['\\', c]
  else if c == '\t' then ['\\', 't']
  else if c == '\n' then ['\\', 'n']
  else if c == '\r' then ['\\', 'r']
  else if isPrintable c then [c]
  else if c.toNat < 0x100 then '\\' :: 'x' :: hexPadded 2 c.toNat
  else if c.toNat < 0x10000 then '\\' :: 'u' :: hexPadded 4 c.toNat
  else '\\' :: 'U' :: hexPadded 8 c.toNat

def quotedChars (cs : List Char) : List Char :=
  let q := quoteFor cs
  q :: (cs.flatMap (quotedChar q) ++ [q])

def quoted (s : String) : String :=
  String.ofList (quotedChars s.toList)

def quotedBytes (b : ByteArray) : String :=
  let cs := b.toList.map fun x => Char.ofNat x.toNat
  let q := quoteFor cs
  let one (c : Char) : List Char :=
    if c.toNat < 0x80 then quotedChar q c else '\\' :: 'x' :: hexPadded 2 c.toNat
  String.ofList ('b' :: q :: (cs.flatMap one ++ [q]))

end SkillKit.Text
