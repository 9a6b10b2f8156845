import SkillKit.Fault

/-!
# A place in a YAML text

What is left of the text from a place on, with the place's line and column.  The end of the
text reads as the null character, which does not occur in YAML texts.
-/

namespace SkillKit.Yaml

structure Cursor where
  rest : List Char
  index : Nat := 0
  line : Nat := 0
  column : Nat := 0

def endMark : Char := '\x00'

def isBreakOrEnd (c : Char) : Bool :=
  c == endMark || c == '\n' || c == '\r' || c.toNat == 0x85 || c.toNat == 0x2028
    || c.toNat == 0x2029

def isBreak (c : Char) : Bool :=
  isBreakOrEnd c && c != endMark

def isBlankOrEnd (c : Char) : Bool :=
  c == ' ' || c == '\t' || isBreakOrEnd c

def isSpaceOrEnd (c : Char) : Bool :=
  c == ' ' || isBreakOrEnd c

def isNameChar (c : Char) : Bool :=
  c.isAlphanum || c == '-' || c == '_'

namespace Cursor

def peek (c : Cursor) (n : Nat) : Char :=
  c.rest[n]?.getD endMark

def here (c : Cursor) : Char :=
  c.rest.headD endMark

def step (c : Cursor) : Cursor :=
  match c.rest with
  | [] => c
  | ch :: rest =>
    let breaks := isBreak ch && !(ch == '\r' && rest.head? == some '\n')
    { rest
      index := c.index + 1
      line := if breaks then c.line + 1 else c.line
      column := if breaks then 0 else if ch.toNat == 0xfeff then c.column else c.column + 1 }

def forward (c : Cursor) : Nat → Cursor
  | 0 => c
  | n + 1 => c.step.forward n

def run (c : Cursor) (p : Char → Bool) : List Char × Cursor :=
  let cs := c.rest.takeWhile p
  (cs, c.forward cs.length)

def skip (c : Cursor) (p : Char → Bool) : Cursor :=
  (c.run p).2

def skipSpaces (c : Cursor) : Cursor :=
  c.skip (· == ' ')

def skipComment (c : Cursor) : Cursor :=
  if c.here == '#' then c.skip (!isBreakOrEnd ·) else c

/-- The line break here, with the usual ones as a line feed, and the place behind it; nothing
when there is none. -/
def lineBreak (c : Cursor) : List Char × Cursor :=
  match c.rest with
  | '\r' :: '\n' :: _ => (['\n'], c.forward 2)
  | ch :: _ =>
    if ch == '\r' || ch == '\n' || ch.toNat == 0x85 then (['\n'], c.step)
    else if ch.toNat == 0x2028 || ch.toNat == 0x2029 then ([ch], c.step)
    else ([], c)
  | [] => ([], c)

def atMarker (c : Cursor) (mark : Char) : Bool :=
  c.rest.take 3 == [mark, mark, mark] && isBlankOrEnd (c.peek 3)

def atSeparator (c : Cursor) : Bool :=
  c.atMarker '-' || c.atMarker '.'

end Cursor

def require (condition : Bool) : Except Fault Unit :=
  if condition then .ok () else .error .badYaml

end SkillKit.Yaml
