import SkillKit.Source.Token
import SkillKit.Text.CharacterName.Basic

/-!
# String literals

Whether what stands between the quotes of a string can be read: its escapes must be complete and
name characters that exist, bytes are ASCII, and in a formatted string the braces must hold
expressions.
-/

namespace SkillKit.Source

open Text

def isBytes (marks : List Char) : Bool := marks.contains 'b'

def isRaw (marks : List Char) : Bool := marks.contains 'r'

def isFormatted (marks : List Char) : Bool := marks.contains 'f'

/-! ## Escapes -/

def hexNumber? (count : Nat) (cs : List Char) : Option (Nat × List Char) := do
  let digits := cs.take count
  if digits.length < count then none
  else
    let n ← digits.foldlM (fun n c => (Json.hexValue? c).map (n * 16 + ·)) 0
    some (n, cs.drop count)

def afterCharacterName? (cs : List Char) : Option (List Char) :=
  match cs with
  | '\x7b' :: rest =>
    let name := rest.takeWhile (· != '\x7d')
    match rest.dropWhile (· != '\x7d') with
    | _ :: after => if CharacterName.isName name then some after else none
    | [] => none
  | _ => none

/-- Whether all escapes of a text are complete; texts of bytes know fewer of them. -/
def escapesComplete (bytes : Bool) : (fuel : Nat) → List Char → Bool
  | 0, _ => true
  | _ + 1, [] => true
  | fuel + 1, '\\' :: c :: rest =>
    let go (after : Option (List Char)) : Bool :=
      match after with
      | some after => escapesComplete bytes fuel after
      | none => false
    if c == 'x' then go ((hexNumber? 2 rest).map (·.2))
    else if bytes then escapesComplete bytes fuel rest
    else if c == 'u' then go ((hexNumber? 4 rest).map (·.2))
    else if c == 'U' then
      go ((hexNumber? 8 rest).bind fun (n, after) => if n < 0x110000 then some after else none)
    else if c == 'N' then go (afterCharacterName? rest)
    else escapesComplete bytes fuel rest
  | fuel + 1, _ :: rest => escapesComplete bytes fuel rest

def isReadable (bytes raw : Bool) (cs : List Char) : Bool :=
  raw || escapesComplete bytes cs.length cs

/-! ## Formatted strings -/

/-- Literal text up to a brace that counts: the text, whether a doubled brace ended it, and what
follows.  Only outside of format specifications braces can be doubled. -/
def readLiteral? (raw outer : Bool) (taken : List Char) :
    (fuel : Nat) → List Char → Option (List Char × Bool × List Char)
  | 0, _ => none
  | _ + 1, [] => some (taken.reverse, false, [])
  | fuel + 1, c :: rest =>
    if c == '\\' && !raw then
      match rest with
      | 'N' :: more =>
        match afterCharacterName? more with
        | some after =>
          let name := (c :: rest).take (rest.length + 1 - after.length)
          readLiteral? raw outer (name.reverse ++ taken) fuel after
        | none => none
      | d :: more =>
        if d == '\x7b' || d == '\x7d' then atBrace (c :: taken) d more
        else readLiteral? raw outer (d :: c :: taken) fuel more
      | [] => some ((c :: taken).reverse, false, [])
    else if c == '\x7b' || c == '\x7d' then atBrace taken c rest
    else readLiteral? raw outer (c :: taken) fuel rest
where
  atBrace (taken : List Char) (brace : Char) (rest : List Char) :
      Option (List Char × Bool × List Char) :=
    if outer && rest.head? == some brace then some ((brace :: taken).reverse, true, rest.drop 1)
    else if outer && brace == '\x7d' then none
    else some (taken.reverse, false, brace :: rest)

/-- The text of an expression in a formatted string, up to the character that ends it; inside
quotes and brackets nothing does.  A backslash or `#` may not stand in it. -/
def readReplacement? (taken brackets : List Char) :
    (fuel : Nat) → List Char → Option (List Char × List Char)
  | 0, _ => none
  | _ + 1, [] => none
  | fuel + 1, c :: rest =>
    if c == '\\' || c == '#' then none
    else if c == '"' || c == '\'' then
      match rest with
      | a :: b :: more =>
        if a == c && b == c then quoted true c (b :: a :: c :: taken) fuel more
        else quoted false c (c :: taken) fuel rest
      | _ => quoted false c (c :: taken) fuel rest
    else if c == '(' || c == '[' || c == '\x7b' then
      if maxBrackets ≤ brackets.length then none
      else readReplacement? (c :: taken) (c :: brackets) fuel rest
    else if brackets.isEmpty && (c == '!' || c == ':' || c == '\x7d' || c == '=') then
      if (c == '!' || c == '=') && rest.head? == some '=' then
        readReplacement? ('=' :: c :: taken) brackets fuel (rest.drop 1)
      else some (taken.reverse, c :: rest)
    else if brackets.isEmpty && (c == '<' || c == '>') && rest.head? == some '=' then
      readReplacement? ('=' :: c :: taken) brackets fuel (rest.drop 1)
    else if c == ')' || c == ']' || c == '\x7d' then
      match brackets with
      | b :: up => if closingOf b == c then readReplacement? (c :: taken) up fuel rest else none
      | [] => none
    else readReplacement? (c :: taken) brackets fuel rest
where
  quoted (triple : Bool) (quote : Char) (taken : List Char) (fuel : Nat) (cs : List Char) :
      Option (List Char × List Char) :=
    match skipQuoted triple quote taken cs with
    | some (taken, rest) => readReplacement? taken brackets fuel rest
    | none => none
  skipQuoted (triple : Bool) (quote : Char) (taken : List Char) :
      List Char → Option (List Char × List Char)
    | [] => none
    | '\\' :: _ => none
    | c :: rest =>
      if c == quote then
        if triple then
          match rest with
          | a :: b :: more =>
            if a == quote && b == quote then some (b :: a :: c :: taken, more)
            else skipQuoted triple quote (c :: taken) rest
          | _ => none
        else some (c :: taken, rest)
      else skipQuoted triple quote (c :: taken) rest

def hasContent (cs : List Char) : Bool :=
  cs.any fun c => !(c == ' ' || c == '\t' || c == '\n' || c == '\x0c')

def skipDebugMark (cs : List Char) : List Char :=
  match cs with
  | '=' :: rest => rest.dropWhile fun c =>
    c == ' ' || c == '\t' || c == '\n' || c == '\r' || c == '\x0b' || c == '\x0c'
  | rest => rest

def skipConversion? (cs : List Char) : Option (List Char) :=
  match cs with
  | '!' :: c :: rest =>
    if (c == 's' || c == 'r' || c == 'a') && (rest.head? == some '\x7d' || rest.head? == some ':')
    then some rest
    else none
  | '!' :: [] => none
  | rest => some rest

/-- The texts of the expressions in a formatted string, those in format specifications
included, and what follows; none if it is malformed. -/
def readPieces? (raw : Bool) : (fuel : Nat) → (level : Nat) → List Char →
    Option (List (List Char) × List Char)
  | 0, _, _ => none
  | fuel + 1, level, cs => do
    let (literal, doubled, rest) ← readLiteral? raw (level == 0) [] (cs.length + 1) cs
    if !isReadable false raw literal then none
    else if doubled then readPieces? raw fuel level rest
    else match rest with
      | '\x7b' :: rest =>
        if 2 ≤ level then none
        else
          let (expression, rest) ← readReplacement? [] [] (rest.length + 1) rest
          if !hasContent expression then none
          else
            let rest ← skipConversion? (skipDebugMark rest)
            let (inner, rest) ← match rest with
              | ':' :: rest => readPieces? raw fuel (level + 1) rest
              | rest => some ([], rest)
            match rest with
            | '\x7d' :: rest =>
              let (more, rest) ← readPieces? raw fuel level rest
              some (expression :: inner ++ more, rest)
            | _ => none
      | rest => some ([], rest)

def expressionTexts? (raw : Bool) (body : List Char) : Option (List (List Char)) := do
  let (texts, rest) ← readPieces? raw (body.length + 1) 0 body
  if rest.isEmpty then some texts else none

end SkillKit.Source
