import SkillKit.Json.Reader

/-!
# Writing JSON

Texts are written in ASCII, other characters as escapes of their UTF-16 units.  Fields keep
their order.
-/

namespace SkillKit.Json

open Text

def unitEscape (n : Nat) : List Char :=
  '\\' :: 'u' :: hexPadded 4 n

def escapeChar (c : Char) : List Char :=
  if c == '"' then ['\\', '"']
  else if c == '\\' then ['\\', '\\']
  else if c == '\n' then ['\\', 'n']
  else if c == '\r' then ['\\', 'r']
  else if c == '\t' then ['\\', 't']
  else if c == '\x08' then ['\\', 'b']
  else if c == '\x0c' then ['\\', 'f']
  else if 0x20 ≤ c.toNat && c.toNat < 0x7f then [c]
  else if c.toNat < 0x10000 then unitEscape c.toNat
  else
    let n := c.toNat - 0x10000
    unitEscape (0xd800 + n / 0x400) ++ unitEscape (0xdc00 + n % 0x400)

def writeString (s : String) : String :=
  String.ofList ('"' :: (s.toList.flatMap escapeChar ++ ['"']))

def writeFloat (x : Float) : String :=
  match Decimal.parts x with
  | .nan => "NaN"
  | .infinite negative => if negative then "-Infinity" else "Infinity"
  | .finite .. => Decimal.render x

def writeInt (n : Int) : Except Fault String :=
  let s := toString n
  if maxDigits + (if n < 0 then 1 else 0) < s.length then .error .unusable else .ok s

/-- An atom as JSON; a kind that JSON has not is shown as a text when `lenient`. -/
def writeAtom (lenient : Bool) : Atom → Except Fault String
  | .null => .ok "null"
  | .bool b => .ok (if b then "true" else "false")
  | .int n => writeInt n
  | .float x => .ok (writeFloat x)
  | .text s => .ok (writeString s)
  | a => if lenient then .ok (writeString a.display) else .error .wrongKind

def writeKey : Atom → Except Fault String
  | .null => .ok "\"null\""
  | .bool b => .ok (if b then "\"true\"" else "\"false\"")
  | .int n => writeString <$> writeInt n
  | .float x => .ok (writeString (writeFloat x))
  | .text s => .ok (writeString s)
  | _ => .error .wrongKind

/-- How the parts of a list or mapping are set apart: on lines of their own with two more
spaces for every level, or with blanks on one line. -/
inductive Layout where
  | line
  | indented (depth : Nat)

def Layout.inner : Layout → Layout
  | .line => .line
  | .indented depth => .indented (depth + 1)

def Layout.newline : Layout → String
  | .line => ""
  | .indented depth => "\n" ++ repeated (2 * depth) " "

def Layout.separator : Layout → String
  | .line => ", "
  | l => "," ++ l.newline

def enclose (layout : Layout) (left right : String) (parts : List String) : String :=
  if parts.isEmpty then left ++ right
  else left ++ layout.inner.newline ++ layout.inner.separator.intercalate parts
    ++ layout.newline ++ right

mutual

def writeIn (lenient : Bool) (layout : Layout) : Value → Except Fault String
  | .atom a => writeAtom lenient a
  | .list items => do
    let parts ← writeItems lenient layout.inner items
    .ok (enclose layout "[" "]" parts)
  | .pair a b => do
    let a ← writeIn lenient layout.inner a
    let b ← writeIn lenient layout.inner b
    .ok (enclose layout "[" "]" [a, b])
  | .dict fields => do
    let parts ← writeFields lenient layout.inner fields
    .ok (enclose layout "\x7b" "\x7d" parts)

def writeItems (lenient : Bool) (layout : Layout) : List Value → Except Fault (List String)
  | [] => .ok []
  | v :: vs => do
    let s ← writeIn lenient layout v
    let ss ← writeItems lenient layout vs
    .ok (s :: ss)

def writeFields (lenient : Bool) (layout : Layout) :
    List (Atom × Value) → Except Fault (List String)
  | [] => .ok []
  | (k, v) :: fs => do
    let key ← writeKey k
    let s ← writeIn lenient layout v
    let ss ← writeFields lenient layout fs
    .ok ((key ++ ": " ++ s) :: ss)

end

def write (v : Value) : Except Fault String :=
  writeIn false .line v

def writeIndented (v : Value) : Except Fault String :=
  writeIn false (.indented 0) v

end SkillKit.Json
