import SkillKit.Source.Pattern

/-!
# Statements of Python programs

The rules by which tokens form statements, and what the statements at the top of a program are.
-/

namespace SkillKit.Source

open Parse

inductive StatementKind where
  | imports
  | assignment
  | definition
  | constant
  | expression
  | withBlock
  | forLoop
  | whileLoop
  | tryBlock
  | other
deriving Repr, DecidableEq, Inhabited

structure Statement where
  kind : StatementKind
  line : Nat
deriving Repr, DecidableEq, Inhabited

structure Grammar where
  go : Rules
  primary : Parse Shape
  pattern : Parse Unit

/-! ## Simple statements -/

def changeOperators : List String :=
  ["+=", "-=", "*=", "@=", "/=", "%=", "&=", "|=", "^=", "<<=", ">>=", "**=", "//="]

def assignedValue (g : Grammar) : Parse Bool := do
  if ← atWord "yield" then
    discard (yieldExpression g.go)
    return true
  else
    discard (g.go .starExpressions)
    return false

def assignmentRest (g : Grammar) : Parse Unit := do
  repeated () fun _ => do
    op "="
    if ← atWord "yield" then
      discard (yieldExpression g.go)
      require (!(← atOp "="))
      return ((), false)
    else
      let s ← g.go .starExpressions
      if ← atOp "=" then
        require s.isAssignable
        return ((), true)
      else return ((), false)

def expressionStatement (g : Grammar) : Parse StatementKind := do
  let s ← g.go .starExpressions
  match ← peek? with
  | some (.op "=") =>
    require s.isAssignable
    assignmentRest g
    return .assignment
  | some (.op ":") =>
    require s.isAnnotatable
    op ":"
    discard (g.go .expression)
    if ← op? "=" then discard (assignedValue g)
    return .other
  | some (.op o) =>
    if changeOperators.contains o then
      require s.isSingleTarget
      discard next
      discard (assignedValue g)
      return .other
    else return if s.isConstant then .constant else .expression
  | _ => return if s.isConstant then .constant else .expression

def givenName : Parse Unit := do
  if ← word? "as" then discard name

def strictList (item : Parse Unit) : Parse Unit := do
  item
  repeated () fun _ => do
    if ← op? "," then
      item
      return ((), true)
    else return ((), false)

/-- Names that are imported from a module; a comma may stand behind the last only in
parentheses. -/
def importedNames : Parse Unit := do
  let item : Parse Unit := do
    discard name
    givenName
  if ← op? "*" then return ()
  else if ← op? "(" then
    discard (commaList item (atOp ")"))
    op ")"
  else strictList item

def importFrom : Parse Unit := do
  let dots ← repeated false fun dots => do
    if (← op? ".") || (← op? "...") then return (true, true) else return (dots, false)
  if !(dots && (← atWord "import")) then discard dottedName
  word "import"
  importedNames

def simpleStatement (g : Grammar) : Parse StatementKind := do
  let noneFollows : Parse Bool := do
    match ← peek? with
    | some .newline => return true
    | some (.op o) => return o == ";"
    | _ => return false
  match ← peek? with
  | some (.keyword "return") =>
    discard next
    if !(← noneFollows) then discard (g.go .starExpressions)
    return .other
  | some (.keyword "import") =>
    discard next
    strictList do
      discard dottedName
      givenName
    return .imports
  | some (.keyword "from") =>
    discard next
    importFrom
    return .imports
  | some (.keyword "raise") =>
    discard next
    if !(← noneFollows) then
      discard (g.go .expression)
      if ← word? "from" then discard (g.go .expression)
    return .other
  | some (.keyword "del") =>
    discard next
    let (items, _) ← commaList g.primary noneFollows
    require (Shape.areDeletable items)
    require (← noneFollows)
    return .other
  | some (.keyword "yield") =>
    discard (yieldExpression g.go)
    return .expression
  | some (.keyword "assert") =>
    discard next
    discard (g.go .expression)
    if ← op? "," then discard (g.go .expression)
    return .other
  | some (.keyword w) =>
    if w == "pass" || w == "break" || w == "continue" then
      discard next
      return .other
    else if w == "global" || w == "nonlocal" then
      discard next
      strictList (discard name)
      return .other
    else expressionStatement g
  | _ => expressionStatement g

def lineHere : Parse Nat := do
  return ((← get).head?.map (·.line)).getD 0

def simpleStatements (g : Grammar) : Parse (List Statement) := do
  repeated ([] : List Statement) fun done => do
    let line ← lineHere
    let kind ← simpleStatement g
    let done := done ++ [⟨kind, line⟩]
    if ← op? ";" then
      if ← skip? .newline then return (done, false) else return (done, true)
    else
      expect .newline
      return (done, false)

/-! ## Statements with bodies -/

def statementsToDedent (statement : Parse Unit) : Parse Unit := do
  repeated () fun _ => do
    statement
    return ((), !(← skip? .dedent))

def block (g : Grammar) (statement : Parse Unit) : Parse Unit := do
  op ":"
  if ← skip? .newline then
    expect .indent
    statementsToDedent statement
  else discard (simpleStatements g)

def elseBlock (body : Parse Unit) : Parse Unit := do
  if ← word? "else" then body

def ifRest (g : Grammar) (body : Parse Unit) : Parse Unit := do
  discard (g.go .named)
  body
  repeated () fun _ => do
    if ← word? "elif" then
      discard (g.go .named)
      body
      return ((), true)
    else return ((), false)
  elseBlock body

def withItem (g : Grammar) : Parse Unit := do
  discard (g.go .expression)
  if ← word? "as" then
    discard (starTarget g.primary)
    match ← peek? with
    | some (.op o) => require (o == "," || o == ")" || o == ":")
    | _ => failure

def withRest (g : Grammar) (body : Parse Unit) : Parse Unit := do
  let grouped : Parse Unit := do
    op "("
    discard (commaList (withItem g) (atOp ")"))
    op ")"
    require (← atOp ":")
  grouped <|> strictList (withItem g)
  body

def forRest (g : Grammar) (body : Parse Unit) : Parse Unit := do
  starTargets g.primary
  word "in"
  discard (g.go .starExpressions)
  body
  elseBlock body

def exceptClauses (g : Grammar) (body : Parse Unit) (star : Bool) : Parse Nat :=
  repeated 0 fun count => do
    if ← word? "except" then
      if star then op "*"
      if star || !(← atOp ":") then
        discard (g.go .expression)
        givenName
      body
      return (count + 1, true)
    else return (count, false)

def tryRest (g : Grammar) (body : Parse Unit) : Parse Bool := do
  body
  let star := (← peek?) == some (.keyword "except") && (← peekSecond?) == some (.op "*")
  let clauses ← exceptClauses g body star
  if 0 < clauses then elseBlock body
  if ← word? "finally" then body else require (0 < clauses)
  return star

def functionRest (g : Grammar) (body : Parse Unit) : Parse Unit := do
  discard name
  op "("
  parameters g.go true ")"
  op ")"
  if ← op? "->" then discard (g.go .expression)
  body

def classRest (g : Grammar) (body : Parse Unit) : Parse Unit := do
  discard name
  if ← op? "(" then arguments g.go g.primary false
  body

def matchRest (g : Grammar) (body : Parse Unit) : Parse Unit := do
  let (items, comma) ← commaList (starNamed g.go) (atOp ":")
  match items, comma with
  | [.starred _], false => failure
  | _, _ => pure ()
  op ":"
  expect .newline
  expect .indent
  statementsToDedent do
    expect (.name "case")
    patterns g.pattern
    if ← word? "if" then discard (g.go .named)
    body

def definition (g : Grammar) (body : Parse Unit) : Parse Unit := do
  repeated () fun _ => do
    if ← op? "@" then
      discard (g.go .named)
      expect .newline
      return ((), true)
    else return ((), false)
  if ← word? "class" then classRest g body
  else
    discard (word? "async")
    word "def"
    functionRest g body

def compoundStatement (g : Grammar) (body : Parse Unit) : Parse StatementKind := do
  match ← peek?, ← peekSecond? with
  | some (.keyword "if"), _ =>
    discard next
    ifRest g body
    return .other
  | some (.keyword "while"), _ =>
    discard next
    discard (g.go .named)
    body
    elseBlock body
    return .whileLoop
  | some (.keyword "for"), _ =>
    discard next
    forRest g body
    return .forLoop
  | some (.keyword "try"), _ =>
    discard next
    if ← tryRest g body then return .other else return .tryBlock
  | some (.keyword "with"), _ =>
    discard next
    withRest g body
    return .withBlock
  | some (.keyword "async"), some (.keyword "for") =>
    discard next
    discard next
    forRest g body
    return .other
  | some (.keyword "async"), some (.keyword "with") =>
    discard next
    discard next
    withRest g body
    return .other
  | some (.keyword w), _ =>
    require (w == "def" || w == "class" || w == "async")
    definition g body
    return .definition
  | some (.op "@"), _ =>
    definition g body
    return .definition
  | some (.name "match"), _ =>
    discard next
    matchRest g body
    return .other
  | _, _ => failure

def statement (g : Grammar) (inner : Parse Unit) : Parse (List Statement) := do
  let line ← lineHere
  (do
    let kind ← compoundStatement g (block g inner)
    return [⟨kind, line⟩]) <|> simpleStatements g

def readStatement (g : Grammar) : (fuel : Nat) → Parse (List Statement)
  | 0 => failure
  | fuel + 1 => statement g (discard (readStatement g fuel))

def readProgram (g : Grammar) (depth : Nat) : Parse (List Statement) := do
  repeated ([] : List Statement) fun done => do
    if (← peek?).isNone then return (done, false)
    else return (done ++ (← readStatement g depth), true)

def statements? (text : String) : Option (List Statement) := do
  let cs := text.toList
  let ts ← tokens? cs
  let depth := 4 * cs.length + 16
  let go := readRule depth
  let g : Grammar := ⟨go, readPrimary depth, readPattern go depth⟩
  let (done, _) ← (readProgram g (maxIndents + 2)).run ts
  return done

end SkillKit.Source
