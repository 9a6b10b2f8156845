import SkillKit.Yaml.Scalar

/-!
# Tokens of YAML texts

Indentation becomes tokens: a block sequence or mapping starts where something is indented
further than what holds it, and ends where the indentation falls back.  What turns out to be a
key of a mapping, because a colon follows it on its line, gets a key token in front of it
afterwards.
-/

namespace SkillKit.Yaml

inductive Directive where
  | version (major minor : Nat)
  | tagHandle (handle start : String)
  | other

inductive Token where
  | directive (d : Directive)
  | documentStart
  | documentEnd
  | streamEnd
  | blockSequenceStart
  | blockMappingStart
  | blockEnd
  | flowSequenceStart
  | flowMappingStart
  | flowSequenceEnd
  | flowMappingEnd
  | key
  | value
  | blockEntry
  | flowEntry
  | aliasOf (name : String)
  | anchor (name : String)
  | tag (handle : Option String) (suffix : String)
  | scalar (text : String) (plain : Bool)

/-! ## Names, tags, directives -/

def anchorName (c : Cursor) : Except Fault (String × Cursor) := do
  let (name, c) := c.step.run isNameChar
  require !name.isEmpty
  require (isBlankOrEnd c.here || "?:,]\x7d%@`".toList.contains c.here)
  return (String.ofList name, c)

def uriBytes : (fuel : Nat) → Cursor → Except Fault (List UInt8 × Cursor)
  | 0, c => .ok ([], c)
  | fuel + 1, c =>
    if c.here == '%' then
      match Json.hexValue? (c.peek 1), Json.hexValue? (c.peek 2) with
      | some a, some b => do
        let (more, c) ← uriBytes fuel (c.forward 3)
        return (UInt8.ofNat (a * 16 + b) :: more, c)
      | _, _ => .error .badYaml
    else .ok ([], c)

def isUriChar (c : Char) : Bool :=
  c.isAlphanum || "-;/?:@&=+$,_.!~*'()[]%".toList.contains c

def uriChars : (fuel : Nat) → Cursor → Except Fault (List Char × Cursor)
  | 0, c => .ok ([], c)
  | fuel + 1, c =>
    if c.here == '%' then do
      let (bytes, c) ← uriBytes (c.rest.length + 1) c
      match String.fromUTF8? ⟨bytes.toArray⟩ with
      | none => throw .badYaml
      | some s =>
        let (more, c) ← uriChars fuel c
        return (s.toList ++ more, c)
    else if isUriChar c.here then do
      let (more, c') ← uriChars fuel c.step
      return (c.here :: more, c')
    else .ok ([], c)

def tagUri (c : Cursor) : Except Fault (String × Cursor) := do
  let start := c.index
  let (cs, c) ← uriChars (c.rest.length + 1) c
  require (start != c.index)
  return (String.ofList cs, c)

def tagHandle (c : Cursor) : Except Fault (String × Cursor) := do
  require (c.here == '!')
  if c.peek 1 == ' ' then return ("!", c.step)
  else
    let (name, c) := c.step.run isNameChar
    require (c.here == '!')
    return (String.ofList ('!' :: (name ++ ['!'])), c.step)

def tagToken (c : Cursor) : Except Fault (Token × Cursor) := do
  let next := c.peek 1
  let (handle, suffix, c) ←
    if next == '<' then do
      let (suffix, c) ← tagUri (c.forward 2)
      require (c.here == '>')
      pure (none, suffix, c.step)
    else if isBlankOrEnd next then pure (none, "!", c.step)
    else do
      -- a handle is in use if a second `!` stands in the word
      let word := (c.rest.drop 1).takeWhile (!isSpaceOrEnd ·)
      let (handle, c) ← if word.contains '!' then tagHandle c else pure ("!", c.step)
      let (suffix, c) ← tagUri c
      pure (some handle, suffix, c)
  require (isSpaceOrEnd c.here)
  return (.tag handle suffix, c)

def versionNumber (c : Cursor) : Except Fault (Nat × Cursor) := do
  let (digits, c) := c.run Char.isDigit
  require !digits.isEmpty
  return (Json.digitsValue digits, c)

def directive (c : Cursor) : Except Fault (Directive × Cursor) := do
  let (name, c) := c.step.run isNameChar
  require !name.isEmpty
  require (isSpaceOrEnd c.here)
  let (d, c) ←
    if name == "YAML".toList then do
      let (major, c) ← versionNumber c.skipSpaces
      require (c.here == '.')
      let (minor, c) ← versionNumber c.step
      require (isSpaceOrEnd c.here)
      pure (Directive.version major minor, c)
    else if name == "TAG".toList then do
      let (handle, c) ← tagHandle c.skipSpaces
      require (c.here == ' ')
      let (start, c) ← tagUri c.skipSpaces
      require (isSpaceOrEnd c.here)
      pure (Directive.tagHandle handle start, c)
    else pure (Directive.other, c.skip (!isBreakOrEnd ·))
  let c := c.skipSpaces.skipComment
  require (isBreakOrEnd c.here)
  return (d, c.lineBreak.2)

/-! ## Lexing -/

/-- A place where a key may have started: the number of its first token, whether it must be a
key, and where it stands. -/
structure PossibleKey where
  token : Nat
  required : Bool
  index : Nat
  line : Nat
  column : Nat

structure Lexer where
  place : Cursor
  tokens : Array Token := #[]
  indent : Int := -1
  outer : List Int := []
  flow : Nat := 0
  keyAllowed : Bool := true
  /-- At most one possible key for every number of open brackets. -/
  keys : List (Nat × PossibleKey) := []

def indicators : List Char := "-?:,[]\x7b\x7d#&*!|>'\"%@`".toList

namespace Lexer

def push (s : Lexer) (t : Token) : Lexer :=
  { s with tokens := s.tokens.push t }

def pushAt (s : Lexer) (t : Token) (place : Cursor) : Lexer :=
  { s with tokens := s.tokens.push t, place }

/-- Drops possible keys that are too far back: on another line, or more than 1024 characters. -/
def dropStale (s : Lexer) : Except Fault Lexer := do
  let stale (k : PossibleKey) : Bool :=
    k.line != s.place.line || 1024 < s.place.index - k.index
  require !(s.keys.any fun (_, k) => stale k && k.required)
  return { s with keys := s.keys.filter fun (_, k) => !stale k }

def dropKey (s : Lexer) : Except Fault Lexer := do
  require !(s.keys.any fun (level, k) => level == s.flow && k.required)
  return { s with keys := s.keys.filter fun (level, _) => level != s.flow }

def noteKey (s : Lexer) : Except Fault Lexer := do
  if s.keyAllowed then
    let required := s.flow == 0 && s.indent == s.place.column
    let s ← s.dropKey
    let key : PossibleKey :=
      ⟨s.tokens.size, required, s.place.index, s.place.line, s.place.column⟩
    return { s with keys := (s.flow, key) :: s.keys }
  else return s

def unwindTo (column : Int) (s : Lexer) : (fuel : Nat) → Lexer
  | 0 => s
  | fuel + 1 =>
    if column < s.indent then
      let s := { s with
        indent := s.outer.headD (-1), outer := s.outer.tail, tokens := s.tokens.push .blockEnd }
      unwindTo column s fuel
    else s

def unwind (s : Lexer) (column : Int) : Lexer :=
  if 0 < s.flow then s else s.unwindTo column (s.outer.length + 1)

def openBlock (s : Lexer) (column : Nat) : Bool × Lexer :=
  if s.indent < column then (true, { s with indent := column, outer := s.indent :: s.outer })
  else (false, s)

def openBlockHere (s : Lexer) (t : Token) : Lexer :=
  match s.openBlock s.place.column with
  | (true, s) => s.push t
  | (false, s) => s

/-- Moves past spaces, comments and line breaks; after a line break outside brackets a key may
start. -/
def toNextToken (s : Lexer) : (fuel : Nat) → Lexer
  | 0 => s
  | fuel + 1 =>
    let c := s.place.skipSpaces.skipComment
    let (br, c') := c.lineBreak
    if br.isEmpty then { s with place := c }
    else
      toNextToken { s with place := c', keyAllowed := s.keyAllowed || s.flow == 0 } fuel

def atEnd (s : Lexer) : Except Fault Lexer := do
  let s ← (s.unwind (-1)).dropKey
  return { s with tokens := s.tokens.push .streamEnd, keyAllowed := false, keys := [] }

def onDirective (s : Lexer) : Except Fault Lexer := do
  let s ← (s.unwind (-1)).dropKey
  let (d, c) ← directive s.place
  return { s with tokens := s.tokens.push (.directive d), place := c, keyAllowed := false }

def onMarker (s : Lexer) (t : Token) : Except Fault Lexer := do
  let s ← (s.unwind (-1)).dropKey
  return { s.pushAt t (s.place.forward 3) with keyAllowed := false }

def onFlowStart (s : Lexer) (t : Token) : Except Fault Lexer := do
  let s ← s.noteKey
  return { s.pushAt t s.place.step with flow := s.flow + 1, keyAllowed := true }

def onFlowEnd (s : Lexer) (t : Token) : Except Fault Lexer := do
  let s ← s.dropKey
  return { s.pushAt t s.place.step with flow := s.flow - 1, keyAllowed := false }

def onFlowEntry (s : Lexer) : Except Fault Lexer := do
  let s ← s.dropKey
  return { s.pushAt .flowEntry s.place.step with keyAllowed := true }

def onBlockEntry (s : Lexer) : Except Fault Lexer := do
  require (0 < s.flow || s.keyAllowed)
  let s := if s.flow == 0 then s.openBlockHere .blockSequenceStart else s
  let s ← s.dropKey
  return { s.pushAt .blockEntry s.place.step with keyAllowed := true }

def onKey (s : Lexer) : Except Fault Lexer := do
  require (0 < s.flow || s.keyAllowed)
  let s := if s.flow == 0 then s.openBlockHere .blockMappingStart else s
  let s ← s.dropKey
  return { s.pushAt .key s.place.step with keyAllowed := s.flow == 0 }

/-- A colon that starts a value.  A key that may have started on this line gets its token. -/
def onValue (s : Lexer) : Except Fault Lexer := do
  match s.keys.lookup s.flow with
  | some key =>
    let s := { s with keys := s.keys.filter fun (level, _) => level != s.flow }
    let front := s.tokens.toList.take key.token
    let back := s.tokens.toList.drop key.token
    let (opened, s) := if s.flow == 0 then s.openBlock key.column else (false, s)
    let marks := if opened then [.blockMappingStart, .key] else [.key]
    let s := { s with tokens := (front ++ marks ++ back).toArray }
    return { s.pushAt .value s.place.step with keyAllowed := false }
  | none =>
    require (0 < s.flow || s.keyAllowed)
    let s := if s.flow == 0 then s.openBlockHere .blockMappingStart else s
    let s ← s.dropKey
    return { s.pushAt .value s.place.step with keyAllowed := s.flow == 0 }

def onContent (s : Lexer) (t : Token) (c : Cursor) : Except Fault Lexer := do
  let s ← s.noteKey
  return { s.pushAt t c with keyAllowed := false }

def onBlockScalar (s : Lexer) (folded : Bool) : Except Fault Lexer := do
  let s ← s.dropKey
  let (text, c) ← blockScalar folded s.indent s.place
  return { s.pushAt (.scalar text false) c with keyAllowed := true }

def onPlain (s : Lexer) : Except Fault Lexer := do
  let s ← s.noteKey
  let (text, broken, c) := plainScalar (0 < s.flow) s.indent s.place
  return { s.pushAt (.scalar text true) c with keyAllowed := broken }

def plainStarts (s : Lexer) : Bool :=
  let ch := s.place.here
  !(isBlankOrEnd ch || indicators.contains ch)
    || (!isBlankOrEnd (s.place.peek 1) && (ch == '-' || (s.flow == 0 && (ch == '?' || ch == ':'))))

def dispatch (s : Lexer) : Except Fault (Bool × Lexer) := do
  let c := s.place
  let ch := c.here
  let more (r : Except Fault Lexer) : Except Fault (Bool × Lexer) := (false, ·) <$> r
  let inFlow := decide (0 < s.flow)
  let stands := inFlow || isBlankOrEnd (c.peek 1)
  if ch == endMark then (true, ·) <$> s.atEnd
  else if ch == '%' && c.column == 0 then more s.onDirective
  else if c.column == 0 && c.atMarker '-' then more (s.onMarker .documentStart)
  else if c.column == 0 && c.atMarker '.' then more (s.onMarker .documentEnd)
  else if ch == '[' then more (s.onFlowStart .flowSequenceStart)
  else if ch == '{' then more (s.onFlowStart .flowMappingStart)
  else if ch == ']' then more (s.onFlowEnd .flowSequenceEnd)
  else if ch == '}' then more (s.onFlowEnd .flowMappingEnd)
  else if ch == ',' then more s.onFlowEntry
  else if ch == '-' && isBlankOrEnd (c.peek 1) then more s.onBlockEntry
  else if ch == '?' && stands then more s.onKey
  else if ch == ':' && stands then more s.onValue
  else if ch == '*' then do
    let (name, c) ← anchorName c
    more (s.onContent (.aliasOf name) c)
  else if ch == '&' then do
    let (name, c) ← anchorName c
    more (s.onContent (.anchor name) c)
  else if ch == '!' then do
    let (t, c) ← tagToken c
    more (s.onContent t c)
  else if ch == '|' && !inFlow then more (s.onBlockScalar false)
  else if ch == '>' && !inFlow then more (s.onBlockScalar true)
  else if ch == '\'' || ch == '"' then do
    let (text, c) ← quotedScalar (ch == '"') c
    more (s.onContent (.scalar text false) c)
  else if s.plainStarts then more s.onPlain
  else throw .badYaml

def next (s : Lexer) : Except Fault (Bool × Lexer) := do
  let s ← (s.toNextToken (s.place.rest.length + 1)).dropStale
  (s.unwind s.place.column).dispatch

def all (s : Lexer) : (fuel : Nat) → Except Fault Lexer
  | 0 => .error .badYaml
  | fuel + 1 => do
    let (done, s) ← s.next
    if done then return s else s.all fuel

end Lexer

def isAllowed (c : Char) : Bool :=
  let n := c.toNat
  n == 0x9 || n == 0xa || n == 0xd || (0x20 ≤ n && n ≤ 0x7e) || n == 0x85
    || (0xa0 ≤ n && n ≤ 0xd7ff) || (0xe000 ≤ n && n ≤ 0xfffd) || 0x10000 ≤ n

def tokens (text : String) : Except Fault (List Token) := do
  let cs := text.toList
  require (cs.all isAllowed)
  let start : Cursor := { rest := cs }
  let start := if start.here.toNat == 0xfeff then start.step else start
  let s ← Lexer.all { place := start } (cs.length + 2)
  return s.tokens.toList

end SkillKit.Yaml
