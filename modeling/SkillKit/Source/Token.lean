import SkillKit.Text.Identifier
import SkillKit.Json.Reader

/-!
# Tokens of Python programs

A program text is cut into names, keywords, numbers, strings, operators, line ends and changes
of indentation.  Inside brackets line ends do not count, and blank lines never do.
-/

namespace SkillKit.Source

open Text

inductive Lexeme where
  | name (text : String)
  | keyword (text : String)
  | number (imaginary : Bool)
  /-- A string as it is written, between its quotes; `marks` are the letters in front of it, in
  lower case. -/
  | string (marks : List Char) (body : List Char)
  | op (text : String)
  | newline
  | indent
  | dedent
deriving Repr, DecidableEq, Inhabited

structure Token where
  lexeme : Lexeme
  line : Nat
deriving Repr, DecidableEq, Inhabited

def keywords : List String := [
  "False", "None", "True", "and", "as", "assert", "async", "await", "break", "class", "continue",
  "def", "del", "elif", "else", "except", "finally", "for", "from", "global", "if", "import",
  "in", "is", "lambda", "nonlocal", "not", "or", "pass", "raise", "return", "try", "while",
  "with", "yield"]

/-! ## Numbers -/

def isWordChar (c : Char) : Bool :=
  c.isAlphanum || c == '_' || 128 ≤ c.toNat

def digitTail? (isDigit : Char → Bool) : List Char → Option (List Char)
  | [] => some []
  | '_' :: [] => none
  | '_' :: c :: rest => if isDigit c then digitTail? isDigit rest else none
  | c :: rest => if isDigit c then digitTail? isDigit rest else some (c :: rest)

def wordAfterNumber (cs : List Char) : Bool :=
  let whole (w : String) : Bool :=
    match dropPrefix? w.toList cs with
    | some (c :: _) => !isWordChar c
    | some [] => true
    | none => false
  let starts (w : String) : Bool := (dropPrefix? w.toList cs).isSome
  whole "and" || whole "else" || whole "for" || whole "or" || whole "not"
    || starts "if" || starts "in" || starts "is"

def endsNumber (cs : List Char) : Bool :=
  wordAfterNumber cs || !(cs.head?.any isWordChar)

def finishNumber (imaginary : Bool) (cs : List Char) : Option (Bool × List Char) :=
  if endsNumber cs then some (imaginary, cs) else none

def readBased? (isDigit : Char → Bool) (cs : List Char) : Option (Bool × List Char) := do
  let cs := match cs with
    | '_' :: r => r
    | r => r
  match cs with
  | c :: rest =>
    if isDigit c then finishNumber false (← digitTail? isDigit rest) else none
  | [] => none

def readImaginary? (cs : List Char) : Option (Bool × List Char) :=
  match cs with
  | 'j' :: rest => finishNumber true rest
  | 'J' :: rest => finishNumber true rest
  | rest => finishNumber false rest

def readExponent? (cs : List Char) : Option (Bool × List Char) := do
  match cs with
  | e :: rest =>
    if e == 'e' || e == 'E' then
      match rest with
      | s :: d :: more =>
        if (s == '+' || s == '-') && d.isDigit then
          readImaginary? (← digitTail? Char.isDigit more)
        else if s == '+' || s == '-' then none
        else if s.isDigit then readImaginary? (← digitTail? Char.isDigit (d :: more))
        else finishNumber false cs
      | [d] => if d.isDigit then readImaginary? [] else finishNumber false cs
      | [] => finishNumber false cs
    else readImaginary? cs
  | [] => readImaginary? cs

def readFraction? (cs : List Char) : Option (Bool × List Char) := do
  match cs with
  | c :: rest =>
    if c.isDigit then readExponent? (← digitTail? Char.isDigit rest) else readExponent? cs
  | [] => readExponent? cs

def maxIntegerDigits : Nat := 4300

def readNumber? (cs : List Char) : Option (Bool × List Char) := do
  match cs with
  | '0' :: 'x' :: rest => readBased? (fun c => (Json.hexValue? c).isSome) rest
  | '0' :: 'X' :: rest => readBased? (fun c => (Json.hexValue? c).isSome) rest
  | '0' :: 'o' :: rest => readBased? (fun c => '0' ≤ c && c ≤ '7') rest
  | '0' :: 'O' :: rest => readBased? (fun c => '0' ≤ c && c ≤ '7') rest
  | '0' :: 'b' :: rest => readBased? (fun c => c == '0' || c == '1') rest
  | '0' :: 'B' :: rest => readBased? (fun c => c == '0' || c == '1') rest
  | first :: rest =>
    let after ← digitTail? Char.isDigit rest
    match after with
    | '.' :: more => readFraction? more
    | c :: _ =>
      if (c == 'e' || c == 'E') && !wordAfterNumber after then readExponent? after
      else if c == 'j' || c == 'J' then readImaginary? after
      else integer first rest after
    | [] => integer first rest after
  | [] => none
where
  /-- A decimal integer: zeros in front of other digits are refused, and so are too many digits
  unless all of them are zeros. -/
  integer (first : Char) (rest after : List Char) : Option (Bool × List Char) :=
    let digits := ((first :: rest).take (rest.length + 1 - after.length)).filter (· != '_')
    if first == '0' && digits.any (· != '0') then none
    else if first != '0' && maxIntegerDigits < digits.length then none
    else finishNumber false after

/-! ## Strings -/

def stringMarks : List (List Char) :=
  [[], ['r'], ['u'], ['b'], ['f'], ['b', 'r'], ['r', 'b'], ['f', 'r'], ['r', 'f']]

def stringStart? (cs : List Char) : Option (List Char × List Char) :=
  let marks := (cs.takeWhile Char.isAlpha).map Char.toLower
  let rest := cs.dropWhile Char.isAlpha
  match rest with
  | c :: _ =>
    if (c == '"' || c == '\'') && stringMarks.contains marks then some (marks, rest) else none
  | [] => none

def readQuoted? (quote : Char) (triple : Bool) (taken : List Char) :
    List Char → Option (List Char × List Char)
  | [] => none
  | '\\' :: c :: rest => readQuoted? quote triple (c :: '\\' :: taken) rest
  | c :: rest =>
    if c == quote then
      if triple then
        match rest with
        | a :: b :: after =>
          if a == quote && b == quote then some (taken.reverse, after)
          else readQuoted? quote triple (c :: taken) rest
        | _ => none
      else some (taken.reverse, rest)
    else if c == '\n' && !triple then none
    else readQuoted? quote triple (c :: taken) rest

def readString? (cs : List Char) : Option (List Char × List Char) :=
  match cs with
  | q :: a :: b :: rest =>
    if a == q && b == q then readQuoted? q true [] rest
    else readQuoted? q false [] (a :: b :: rest)
  | q :: rest => readQuoted? q false [] rest
  | [] => none

/-! ## Operators and words -/

def operators : List String := [
  "**=", "//=", ">>=", "<<=", "...", "!=", "%=", "&=", "**", "*=", "+=", "-=", "->", "//", "/=",
  ":=", "<<", "<=", "<>", "==", ">=", ">>", "@=", "^=", "|=", "%", "&", "(", ")", "*", "+", ",",
  "-", ".", "/", ":", ";", "<", "=", ">", "@", "[", "]", "^", "\x7b", "|", "\x7d", "~"]

def readOperator? (cs : List Char) : Option (String × List Char) :=
  operators.findSome? fun o => (dropPrefix? o.toList cs).map (o, ·)

def closingOf (c : Char) : Char :=
  if c == '(' then ')' else if c == '[' then ']' else '\x7d'

def isIdentifier : List Char → Bool
  | [] => false
  | c :: cs => isIdentifierStart c && cs.all isIdentifierPart

def wordLexeme (w : String) : Lexeme :=
  if keywords.contains w then .keyword w else .name w

/-! ## The whole text -/

def maxBrackets : Nat := 200

def maxIndents : Nat := 100

/-- Where reading stands: the line, the open brackets and indentations, each of these counted with
tabs to every eighth column and with tabs as one column, and the tokens so far, last first. -/
structure Progress where
  line : Nat := 1
  brackets : List Char := []
  indents : List (Nat × Nat) := [(0, 0)]
  tokens : List Token := []

namespace Progress

def push (p : Progress) (lexeme : Lexeme) : Progress :=
  { p with tokens := ⟨lexeme, p.line⟩ :: p.tokens }

def dedentTo (column alt : Nat) : (indents : List (Nat × Nat)) → Progress → Option Progress
  | [], _ => none
  | (c, a) :: up, p =>
    if column < c then dedentTo column alt up (p.push .dedent)
    else if column == c && alt == a then some { p with indents := (c, a) :: up }
    else none

def indentTo (p : Progress) (column alt : Nat) : Option Progress :=
  match p.indents with
  | (c, a) :: _ =>
    if column == c then (if alt == a then some p else none)
    else if c < column then
      if maxIndents ≤ p.indents.length || alt ≤ a then none
      else some ({ p with indents := (column, alt) :: p.indents }.push .indent)
    else dedentTo column alt p.indents p
  | [] => none

end Progress

structure Margin where
  column : Nat := 0
  alt : Nat := 0
  continued : Nat := 0
  lines : Nat := 0

def readMargin (m : Margin) : List Char → Option (Margin × List Char)
  | ' ' :: rest => readMargin { m with column := m.column + 1, alt := m.alt + 1 } rest
  | '\t' :: rest => readMargin { m with column := (m.column / 8 + 1) * 8, alt := m.alt + 1 } rest
  | '\x0c' :: rest => readMargin { m with column := 0, alt := 0 } rest
  | '\\' :: '\n' :: rest =>
    if rest.isEmpty then none
    else
      readMargin { m with
        continued := if m.continued == 0 then m.column else m.continued
        lines := m.lines + 1 } rest
  | '\\' :: _ => none
  | rest => some (m, rest)

mutual

def readLine (p : Progress) : (fuel : Nat) → List Char → Option (List Token)
  | 0, _ => none
  | fuel + 1, cs => do
    let (m, rest) ← readMargin {} cs
    let p := { p with line := p.line + m.lines }
    match if rest.head? == some '#' then rest.dropWhile (· != '\n') else rest with
    | '\n' :: after => readLine { p with line := p.line + 1 } fuel after
    | _ =>
      if p.brackets.isEmpty then
        let column := if m.continued == 0 then m.column else m.continued
        let alt := if m.continued == 0 then m.alt else m.continued
        match rest with
        | [] => (·.tokens.reverse) <$> p.indentTo 0 0
        | _ => readTokens (← p.indentTo column alt) fuel rest
      else readTokens p fuel rest

def readTokens (p : Progress) : (fuel : Nat) → List Char → Option (List Token)
  | 0, _ => none
  | _ + 1, [] => none
  | fuel + 1, c :: rest =>
    if c == ' ' || c == '\t' || c == '\x0c' then readTokens p fuel rest
    else if c == '#' then readTokens p fuel (rest.dropWhile (· != '\n'))
    else if c == '\n' then
      let p := if p.brackets.isEmpty then p.push .newline else p
      readLine { p with line := p.line + 1 } fuel rest
    else if c == '\\' then
      match rest with
      | '\n' :: d :: after => readTokens { p with line := p.line + 1 } fuel (d :: after)
      | _ => none
    else match stringStart? (c :: rest) with
      | some (marks, quoted) =>
        match readString? quoted with
        | some (body, after) =>
          let p := p.push (.string marks body)
          readTokens { p with line := p.line + body.count '\n' } fuel after
        | none => none
      | none =>
        if c.isAlpha || c == '_' || 128 ≤ c.toNat then
          let word := c :: rest.takeWhile isWordChar
          if isIdentifier word then
            readTokens (p.push (wordLexeme (String.ofList word))) fuel (rest.dropWhile isWordChar)
          else none
        else if c.isDigit then
          match readNumber? (c :: rest) with
          | some (imaginary, after) => readTokens (p.push (.number imaginary)) fuel after
          | none => none
        else if c == '.' && rest.head?.any Char.isDigit then
          match readFraction? rest with
          | some (imaginary, after) => readTokens (p.push (.number imaginary)) fuel after
          | none => none
        else match readOperator? (c :: rest) with
          | none => none
          | some (o, after) =>
            let p := p.push (.op o)
            if c == '(' || c == '[' || c == '\x7b' then
              if maxBrackets ≤ p.brackets.length then none
              else readTokens { p with brackets := c :: p.brackets } fuel after
            else if c == ')' || c == ']' || c == '\x7d' then
              match p.brackets with
              | b :: up =>
                if closingOf b == c then readTokens { p with brackets := up } fuel after else none
              | [] => none
            else readTokens p fuel after

end

def tokens? (text : List Char) : Option (List Token) :=
  if text.contains '\x00' then none
  else
    let text := if text.getLast? == some '\n' then text else text ++ ['\n']
    readLine {} (2 * text.length + 2) text

end SkillKit.Source
