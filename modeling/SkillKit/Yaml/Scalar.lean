import SkillKit.Yaml.Cursor
import SkillKit.Json.Reader

/-!
# Scalars in YAML texts

Quoted, block and plain scalars, each read from a place to the place behind it.  Line breaks
inside quoted and plain scalars are folded: one becomes a space, and of several the first is
dropped.
-/

namespace SkillKit.Yaml

/-! ## Quoted scalars -/

def escape? (c : Char) : Option Char :=
  match c with
  | '0' => some '\x00'
  | 'a' => some '\x07'
  | 'b' => some '\x08'
  | 't' => some '\t'
  | '\t' => some '\t'
  | 'n' => some '\n'
  | 'v' => some '\x0b'
  | 'f' => some '\x0c'
  | 'r' => some '\r'
  | 'e' => some '\x1b'
  | ' ' => some ' '
  | '"' => some '"'
  | '\\' => some '\\'
  | '/' => some '/'
  | 'N' => some (Char.ofNat 0x85)
  | '_' => some (Char.ofNat 0xa0)
  | 'L' => some (Char.ofNat 0x2028)
  | 'P' => some (Char.ofNat 0x2029)
  | _ => none

def escapeLength? (c : Char) : Option Nat :=
  match c with
  | 'x' => some 2
  | 'u' => some 4
  | 'U' => some 8
  | _ => none

def foldedBreaks : (fuel : Nat) → Cursor → Except Fault (List Char × Cursor)
  | 0, c => .ok ([], c)
  | fuel + 1, c => do
    require !c.atSeparator
    let c := c.skip fun ch => ch == ' ' || ch == '\t'
    if isBreak c.here then
      let (br, c) := c.lineBreak
      let (more, c) ← foldedBreaks fuel c
      return (br ++ more, c)
    else return ([], c)

def foldBreaks (c : Cursor) : Except Fault (List Char × Cursor) := do
  let (br, c) := c.lineBreak
  let (more, c) ← foldedBreaks (c.rest.length + 1) c
  if br != ['\n'] then return (br ++ more, c)
  else if more.isEmpty then return ([' '], c)
  else return (more, c)

def quotedBlanks (c : Cursor) : Except Fault (List Char × Cursor) := do
  let (blanks, c) := c.run fun ch => ch == ' ' || ch == '\t'
  require (c.here != endMark)
  if isBreak c.here then foldBreaks c else return (blanks, c)

def quotedEscape (c : Cursor) : Except Fault (List Char × Cursor) := do
  let ch := c.here
  match escape? ch, escapeLength? ch with
  | some e, _ => return ([e], c.step)
  | none, some n =>
    let digits := c.step.rest.take n
    let values := digits.filterMap Json.hexValue?
    require (digits.length == n && values.length == n)
    let code := values.foldl (fun v d => v * 16 + d) 0
    if 0x110000 ≤ code then throw .unusable
    else return ([Char.ofNat code], c.step.forward n)
  | none, none =>
    require (isBreak ch)
    foldedBreaks (c.rest.length + 1) c.lineBreak.2

def quotedRest (double : Bool) : (fuel : Nat) → Cursor → Except Fault (List Char × Cursor)
  | 0, _ => .error .badYaml
  | fuel + 1, c => do
    let ch := c.here
    if !double && ch == '\'' && c.peek 1 == '\'' then
      let (more, c) ← quotedRest double fuel (c.forward 2)
      return ('\'' :: more, c)
    else if (double && ch == '"') || (!double && ch == '\'') then return ([], c.step)
    else if double && ch == '\\' then
      let (part, c) ← quotedEscape c.step
      let (more, c) ← quotedRest double fuel c
      return (part ++ more, c)
    else if isBlankOrEnd ch then
      let (part, c) ← quotedBlanks c
      let (more, c) ← quotedRest double fuel c
      return (part ++ more, c)
    else
      let (more, c) ← quotedRest double fuel c.step
      return (ch :: more, c)

def quotedScalar (double : Bool) (c : Cursor) : Except Fault (String × Cursor) := do
  let (cs, c) ← quotedRest double (c.rest.length + 1) c.step
  return (String.ofList cs, c)

/-! ## Block scalars -/

inductive Chomping where
  | clip
  | strip
  | keep
deriving DecidableEq

def chomping? (c : Char) : Option Chomping :=
  if c == '+' then some .keep else if c == '-' then some .strip else none

def indentDigit? (c : Char) : Option Nat :=
  if c.isDigit then some (c.toNat - '0'.toNat) else none

def blockHeader (c : Cursor) : Except Fault (Chomping × Option Nat × Cursor) := do
  let (chomp, digit, c) :=
    match chomping? c.here with
    | some chomp =>
      match indentDigit? c.step.here with
      | some d => (chomp, some d, c.forward 2)
      | none => (chomp, none, c.step)
    | none =>
      match indentDigit? c.here with
      | some d =>
        match chomping? c.step.here with
        | some chomp => (chomp, some d, c.forward 2)
        | none => (.clip, some d, c.step)
      | none => (.clip, none, c)
  require (digit != some 0)
  require (isSpaceOrEnd c.here)
  let c := c.skipSpaces.skipComment
  require (isBreakOrEnd c.here)
  return (chomp, digit, c.lineBreak.2)

def blockIndentation : (fuel widest : Nat) → Cursor → List Char × Nat × Cursor
  | 0, widest, c => ([], widest, c)
  | fuel + 1, widest, c =>
    if c.here == ' ' then
      let c := c.step
      blockIndentation fuel (max widest c.column) c
    else if isBreak c.here then
      let (br, c) := c.lineBreak
      let (more, widest, c) := blockIndentation fuel widest c
      (br ++ more, widest, c)
    else ([], widest, c)

def skipIndent (indent : Nat) (c : Cursor) : Cursor :=
  let spaces := (c.rest.takeWhile (· == ' ')).length
  c.forward (min spaces (indent - c.column))

def blockBreaks (indent : Nat) : (fuel : Nat) → Cursor → List (List Char) × Cursor
  | 0, c => ([], c)
  | fuel + 1, c =>
    let c := skipIndent indent c
    if isBreak c.here then
      let (br, c) := c.lineBreak
      let (more, c) := blockBreaks indent fuel c
      (br :: more, c)
    else ([], c)

def inBlock (indent : Nat) (c : Cursor) : Bool :=
  c.column == indent && c.here != endMark

/-- What joins a row of a block scalar to the next one, which starts at a place behind empty lines, if
there is one; `leading` tells whether the row starts with no blank. -/
def blockJoint (folded leading : Bool) (indent : Nat) (br : List Char)
    (empties : List (List Char)) (c : Cursor) : List Char :=
  if inBlock indent c then
    if folded && br == ['\n'] && leading && c.here != ' ' && c.here != '\t' then
      if empties.isEmpty then [' '] else []
    else br
  else []

/-- The lines of a block scalar from one that is not empty on; `breaks` are the empty lines
before it. -/
def blockLines (folded : Bool) (chomp : Chomping) (indent : Nat) :
    (fuel : Nat) → (breaks : List (List Char)) → (lastBreak : List Char) → Cursor →
      List Char × Cursor
  | 0, _, _, c => ([], c)
  | fuel + 1, breaks, lastBreak, c =>
    if inBlock indent c then
      let leading := c.here != ' ' && c.here != '\t'
      let (line, c) := c.run (!isBreakOrEnd ·)
      let (br, c) := c.lineBreak
      let (next, c) := blockBreaks indent (c.rest.length + 1) c
      let joint := blockJoint folded leading indent br next c
      let (more, c) := blockLines folded chomp indent fuel next br c
      (breaks.flatten ++ line ++ joint ++ more, c)
    else
      ((if chomp == .strip then [] else lastBreak)
        ++ (if chomp == .keep then breaks.flatten else []), c)

def blockScalar (folded : Bool) (parent : Int) (c : Cursor) : Except Fault (String × Cursor) := do
  let (chomp, digit, c) ← blockHeader c.step
  let least := max (parent + 1).toNat 1
  let (breaks, indent, c) :=
    match digit with
    | some d =>
      let indent := least + d - 1
      let (breaks, c) := blockBreaks indent (c.rest.length + 1) c
      (breaks, indent, c)
    | none =>
      let (breaks, widest, c) := blockIndentation (c.rest.length + 1) 0 c
      ([breaks], max least widest, c)
  let (cs, c) := blockLines folded chomp indent (c.rest.length + 1) breaks [] c
  return (String.ofList cs, c)

/-! ## Plain scalars -/

def plainEndsAt (inFlow : Bool) (c : Cursor) (n : Nat) : Bool :=
  let ch := c.peek n
  let next := c.peek (n + 1)
  isBlankOrEnd ch
    || (ch == ':' && (isBlankOrEnd next || (inFlow && ",[]\x7b\x7d".toList.contains next)))
    || (inFlow && ",?[]\x7b\x7d".toList.contains ch)

def plainRun (inFlow : Bool) (c : Cursor) : (fuel n : Nat) → Nat
  | 0, n => n
  | fuel + 1, n => if plainEndsAt inFlow c n then n else plainRun inFlow c fuel (n + 1)

/-- The line breaks of the empty lines after a line break inside a plain scalar; none when a
document marker follows. -/
def plainBreaks : (fuel : Nat) → Cursor → Option (List Char) × Cursor
  | 0, c => (some [], c)
  | fuel + 1, c =>
    if c.here == ' ' then plainBreaks fuel c.step
    else if isBreak c.here then
      let (br, c) := c.lineBreak
      if c.atSeparator then (none, c)
      else
        let (more, c) := plainBreaks fuel c
        (more.map (br ++ ·), c)
    else (some [], c)

/-- What follows a run of a plain scalar: the blanks that join it to the next run, or none when
it ends here; and whether a line was broken. -/
def plainBlanks (c : Cursor) : Option (List Char) × Bool × Cursor :=
  let (blanks, c) := c.run (· == ' ')
  if isBreak c.here then
    let (br, c) := c.lineBreak
    if c.atSeparator then (none, true, c)
    else
      let (more, c) := plainBreaks (c.rest.length + 1) c
      match more with
      | none => (none, true, c)
      | some more =>
        if br != ['\n'] then (some (br ++ more), true, c)
        else if more.isEmpty then (some [' '], true, c)
        else (some more, true, c)
  else if blanks.isEmpty then (none, false, c)
  else (some blanks, false, c)

def plainEnds (inFlow : Bool) (indent : Int) (c : Cursor) : Bool :=
  c.here == '#' || (!inFlow && decide ((c.column : Int) < indent))

/-- A plain scalar whose text has been read up to blanks; `resume` reads on behind them. -/
def plainAfter (inFlow : Bool) (indent : Int)
    (resume : List Char → Bool → Cursor → List Char × Bool × Cursor) (text : List Char) :
    Option (List Char) × Bool × Cursor → List Char × Bool × Cursor
  | (none, broken, c) => (text, broken, c)
  | (some next, broken, c) =>
    if plainEnds inFlow indent c then (text, broken, c)
    else
      let (more, broken, c) := resume next broken c
      (text ++ more, broken, c)

def plainRuns (inFlow : Bool) (indent : Int) :
    (fuel : Nat) → (blanks : List Char) → (broken : Bool) → Cursor → List Char × Bool × Cursor
  | 0, _, broken, c => ([], broken, c)
  | fuel + 1, blanks, broken, c =>
    let n := plainRun inFlow c (c.rest.length + 1) 0
    if c.here == '#' || n == 0 then ([], broken, c)
    else
      plainAfter inFlow indent (plainRuns inFlow indent fuel) (blanks ++ c.rest.take n)
        (plainBlanks (c.forward n))

def plainScalar (inFlow : Bool) (parent : Int) (c : Cursor) : String × Bool × Cursor :=
  let (cs, broken, c) := plainRuns inFlow (parent + 1) (c.rest.length + 1) [] false c
  (String.ofList cs, broken, c)

end SkillKit.Yaml
