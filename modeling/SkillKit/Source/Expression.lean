import SkillKit.Source.Literal
import SkillKit.Source.Parse

/-!
# Expressions of Python programs

The rules by which tokens form expressions.  Of an expression only its shape is kept: enough to
tell a constant from other expressions, and to tell what can be assigned to.
-/

namespace SkillKit.Source

open Parse

inductive Shape where
  | name
  | constant
  /-- An attribute or subscript; `led` if it starts with a target in parentheses. -/
  | place (led : Bool)
  | starred (inner : Shape)
  | group (inner : Shape)
  | tuple (items : List Shape)
  | bare (items : List Shape)
  | list (items : List Shape)
  | other

namespace Shape

def isConstant : Shape → Bool
  | .constant => true
  | .group s => s.isConstant
  | _ => false

def isSingleTarget : Shape → Bool
  | .name | .place _ => true
  | .group s => s.isSingleTarget
  | _ => false

mutual

def isTarget : Shape → Bool
  | .name | .place _ => true
  | .group s => s.isTarget
  | .tuple items => areTargets items
  | .list items => areTargets items
  | _ => false

def areTargets : List Shape → Bool
  | [] => true
  | .starred s :: rest => s.isTarget && areTargets rest
  | s :: rest => s.isTarget && areTargets rest

end

def isAssignable : Shape → Bool
  | .bare items => areTargets items
  | s => areTargets [s]

/-- Whether it can stand in front of a colon and its type: a target in parentheses only if
nothing follows it. -/
def isAnnotatable : Shape → Bool
  | .name | .place false => true
  | .group s => s.isSingleTarget
  | _ => false

mutual

def isDeletable : Shape → Bool
  | .name | .place _ => true
  | .group s => s.isDeletable
  | .tuple items => areDeletable items
  | .list items => areDeletable items
  | _ => false

def areDeletable : List Shape → Bool
  | [] => true
  | s :: rest => s.isDeletable && areDeletable rest

end

end Shape

inductive Rule where
  | expression
  | named
  | starExpressions
  | disjunction
  | bitwise
  | factor
deriving DecidableEq

abbrev Rules := Rule → Parse Shape

/-! ## Strings -/

def checkEmbedded (go : Rules) (text : List Char) : Parse Unit :=
  match tokens? ('(' :: text ++ [')']) with
  | some ts =>
    match (go .starExpressions).run ts with
    | some _ => pure ()
    | none => failure
  | none => failure

def strings (go : Rules) : Parse Shape := do
  let found ← repeated ([] : List (List Char × List Char)) fun found => do
    match ← peek? with
    | some (.string marks body) =>
      discard next
      return (found ++ [(marks, body)], true)
    | _ => return (found, false)
  require (!found.isEmpty)
  require (found.all (isBytes ·.1) || found.all (!isBytes ·.1))
  for (marks, body) in found do
    if isFormatted marks then
      match expressionTexts? (isRaw marks) body with
      | some texts => texts.forM (checkEmbedded go)
      | none => failure
    else
      require (isReadable (isBytes marks) (isRaw marks) body)
      require (!isBytes marks || body.all (·.toNat < 128))
  return if found.any (isFormatted ·.1) then .other else .constant

/-! ## Lists of expressions -/

def starExpression (go : Rules) : Parse Shape := do
  if ← op? "*" then return .starred (← go .bitwise) else go .expression

def starNamed (go : Rules) : Parse Shape := do
  if ← op? "*" then return .starred (← go .bitwise) else go .named

def atExpressionEnd : Parse Bool := do
  match ← peek? with
  | some .newline => return true
  | none => return true
  | some (.op o) => return !(["(", "[", "\x7b", "-", "+", "~", "...", "*"].contains o)
  | some (.keyword w) =>
    return !(["None", "True", "False", "lambda", "not", "await"].contains w)
  | _ => return false

def starExpressions (go : Rules) : Parse Shape := do
  let (items, comma) ← commaList (starExpression go) atExpressionEnd
  match items, comma with
  | [s], false => return s
  | items, _ => return .bare items

def yieldExpression (go : Rules) : Parse Shape := do
  word "yield"
  if ← word? "from" then discard (go .expression)
  else if !(← atExpressionEnd) then discard (go .starExpressions)
  return .other

/-! ## Targets -/

abbrev Primary := Parse Shape

def starTarget (primary : Primary) : Parse Shape := do
  if ← op? "*" then
    let s ← primary
    require s.isTarget
    return .starred s
  else
    let s ← primary
    require s.isTarget
    return s

def starTargets (primary : Primary) : Parse Unit := do
  let stop : Parse Bool := do
    match ← peek? with
    | some (.name _) => return false
    | some (.op o) => return !(["(", "[", "\x7b", "*", "..."].contains o)
    | some (.string ..) => return false
    | some (.number _) => return false
    | some (.keyword w) => return !(["None", "True", "False"].contains w)
    | _ => return true
  discard (commaList (starTarget primary) stop)

/-! ## Comprehensions -/

def atComprehension : Parse Bool := do
  match ← peek?, ← peekSecond? with
  | some (.keyword "for"), _ => return true
  | some (.keyword "async"), some (.keyword "for") => return true
  | _, _ => return false

def comprehension (go : Rules) (primary : Primary) : Parse Unit := do
  repeated () fun _ => do
    discard (word? "async")
    word "for"
    starTargets primary
    word "in"
    discard (go .disjunction)
    repeated () fun _ => do
      if ← word? "if" then
        discard (go .disjunction)
        return ((), true)
      else return ((), false)
    return ((), ← atComprehension)

/-! ## Calls and subscripts -/

/-- Arguments up to the closing parenthesis.  Behind a named argument stand no plain ones, and
behind a mapping no lists.  One comprehension may stand alone where `alone` says so. -/
def arguments (go : Rules) (primary : Primary) (alone : Bool) : Parse Unit := do
  discard <| repeated (0, true) fun (stage, first) => do
    if ← op? ")" then return ((stage, false), false)
    let stage ← do
      if ← op? "**" then
        discard (go .expression)
        pure 2
      else if ← op? "*" then
        require (stage < 2)
        discard (go .expression)
        pure stage
      else if ← atNameBefore "=" then
        discard next
        discard next
        discard (go .expression)
        pure (max 1 stage)
      else
        require (stage == 0)
        discard (go .named)
        require (!(← atOp "="))
        if alone && first && (← atComprehension) then
          comprehension go primary
          -- nothing may follow it
          require (← atOp ")")
        pure 0
    if ← op? "," then return ((stage, false), true)
    else
      op ")"
      return ((stage, false), false)

def slice (go : Rules) : Parse Unit := do
  if ← op? "*" then discard (go .expression)
  else if ← atNameBefore ":=" then discard (go .named)
  else
    if !(← atOp ":") then discard (go .named)
    if ← op? ":" then
      discard (optional (go .expression))
      if ← op? ":" then discard (optional (go .expression))

def slices (go : Rules) : Parse Unit := do
  discard (commaList (slice go) (atOp "]"))
  op "]"

/-! ## Brackets -/

def parenthesised (go : Rules) (primary : Primary) : Parse Shape := do
  if ← op? ")" then return .tuple []
  if ← atWord "yield" then
    let s ← yieldExpression go
    op ")"
    return .group s
  let (items, comma) ← commaList (starNamed go) (atOp ")")
  match items, comma with
  | [.starred _], false => failure
  | [s], false =>
    if ← atComprehension then
      comprehension go primary
      op ")"
      return .other
    op ")"
    return .group s
  | items, _ =>
    op ")"
    return .tuple items

def bracketed (go : Rules) (primary : Primary) : Parse Shape := do
  if ← op? "]" then return .list []
  let (items, comma) ← commaList (starNamed go) (atOp "]")
  match items, comma with
  | [.starred s], false =>
    op "]"
    return .list [.starred s]
  | [s], false =>
    if ← atComprehension then
      comprehension go primary
      op "]"
      return .other
    op "]"
    return .list [s]
  | items, _ =>
    op "]"
    return .list items

def mappingItem (go : Rules) : Parse Unit := do
  if ← op? "**" then discard (go .bitwise)
  else
    discard (go .expression)
    op ":"
    discard (go .expression)

def braced (go : Rules) (primary : Primary) : Parse Shape := do
  let rest (item : Parse Unit) : Parse Shape := do
    if ← op? "," then
      if !(← atOp "\x7d") then discard (commaList item (atOp "\x7d"))
    op "\x7d"
    return .other
  let element : Parse Unit := discard (starNamed go)
  let perhapsComprehension : Parse Unit := do
    if ← atComprehension then
      comprehension go primary
      require (← atOp "\x7d")
  if ← op? "\x7d" then return .other
  else if ← atOp "**" then
    mappingItem go
    rest (mappingItem go)
  else if ← atOp "*" then
    element
    rest element
  else if ← atNameBefore ":=" then
    element
    perhapsComprehension
    rest element
  else
    element
    -- what stands behind the first expression tells a mapping from a set
    if ← op? ":" then
      discard (go .expression)
      perhapsComprehension
      rest (mappingItem go)
    else
      perhapsComprehension
      rest element

/-! ## Parameters -/

/-- Parameters up to, and without, the operator that closes them.  Behind a parameter with a
default stand none without, unless a star stands between them. -/
def parameters (go : Rules) (annotated : Bool) (closing : String) : Parse Unit := do
  let annotation (star : Bool) : Parse Unit := do
    if annotated then
      if ← op? ":" then
        if star then discard (starExpression go) else discard (go .expression)
  let continues : Parse Bool := do
    if ← op? "," then return !(← atOp closing)
    else
      require (← atOp closing)
      return false
  if ← atOp closing then return ()
  discard <| repeated (0, false, false, false) fun (count, slash, star, default) => do
    if ← op? "/" then
      require (0 < count && !slash && !star)
      return ((count, true, star, default), ← continues)
    else if ← op? "**" then
      discard name
      annotation false
      discard (op? ",")
      require (← atOp closing)
      return ((count, slash, star, default), false)
    else if ← op? "*" then
      require (!star)
      if ← op? "," then
        match ← peek? with
        | some (.name _) => return ((count, slash, true, default), true)
        | _ => failure
      else
        discard name
        annotation true
        return ((count, slash, true, default), ← continues)
    else
      discard name
      annotation false
      let given ← op? "="
      if given then discard (go .expression)
      require (given || star || !default)
      return ((count + 1, slash, star, default || given), ← continues)

/-! ## From atoms to expressions -/

def atom (go : Rules) (primary : Primary) : Parse Shape := do
  match ← peek? with
  | some (.name _) =>
    discard next
    return .name
  | some (.number _) =>
    discard next
    return .constant
  | some (.string ..) => strings go
  | some (.keyword w) =>
    require (w == "True" || w == "False" || w == "None")
    discard next
    return .constant
  | some (.op "...") =>
    discard next
    return .constant
  | some (.op "(") =>
    discard next
    parenthesised go primary
  | some (.op "[") =>
    discard next
    bracketed go primary
  | some (.op "\x7b") =>
    discard next
    braced go primary
  | _ => failure

def primary (go : Rules) (inner : Primary) : Parse Shape := do
  let s ← atom go inner
  let led := match s with
    | .group t => t.isSingleTarget
    | _ => false
  repeated s fun s => do
    if ← op? "." then
      discard name
      return (.place led, true)
    else if ← op? "(" then
      arguments go inner true
      return (.other, true)
    else if ← op? "[" then
      slices go
      return (.place led, true)
    else return (s, false)

def leftChain (operators : List String) (operand : Parse Shape) : Parse Shape := do
  let s ← operand
  repeated s fun s => do
    match ← peek? with
    | some (.op o) =>
      if operators.contains o then
        discard next
        discard operand
        return (.other, true)
      else return (s, false)
    | _ => return (s, false)

def factor (go : Rules) (primary : Primary) : Parse Shape := do
  match ← peek? with
  | some (.op o) =>
    if o == "+" || o == "-" || o == "~" then
      discard next
      discard (go .factor)
      return .other
  | _ => pure ()
  let awaited ← word? "await"
  let s ← primary
  if ← op? "**" then
    discard (go .factor)
    return .other
  return if awaited then .other else s

def bitwise (go : Rules) (primary : Primary) : Parse Shape :=
  let term := leftChain ["*", "/", "//", "%", "@"] (factor go primary)
  let sum := leftChain ["+", "-"] term
  let shift := leftChain ["<<", ">>"] sum
  let conjoined := leftChain ["&"] shift
  let exclusive := leftChain ["^"] conjoined
  leftChain ["|"] exclusive

def comparisonOperator? : Parse Bool := do
  match ← peek?, ← peekSecond? with
  | some (.op o), _ =>
    if ["==", "!=", "<", ">", "<=", ">="].contains o then
      discard next
      return true
    else return false
  | some (.keyword "in"), _ =>
    discard next
    return true
  | some (.keyword "not"), some (.keyword "in") =>
    discard next
    discard next
    return true
  | some (.keyword "is"), _ =>
    discard next
    discard (word? "not")
    return true
  | _, _ => return false

def comparison (go : Rules) (primary : Primary) : Parse Shape := do
  let s ← bitwise go primary
  repeated s fun s => do
    if ← comparisonOperator? then
      discard (bitwise go primary)
      return (.other, true)
    else return (s, false)

def inversion (go : Rules) (primary : Primary) : Parse Shape := do
  let negated ← repeated false fun negated => do
    if ← word? "not" then return (true, true) else return (negated, false)
  let s ← comparison go primary
  return if negated then .other else s

def wordChain (w : String) (operand : Parse Shape) : Parse Shape := do
  let s ← operand
  repeated s fun s => do
    if ← word? w then
      discard operand
      return (.other, true)
    else return (s, false)

def disjunction (go : Rules) (primary : Primary) : Parse Shape :=
  wordChain "or" (wordChain "and" (inversion go primary))

def lambdaRest (go : Rules) : Parse Shape := do
  parameters go false ":"
  op ":"
  discard (go .expression)
  return .other

def expression (go : Rules) (primary : Primary) : Parse Shape := do
  if ← word? "lambda" then lambdaRest go
  else
    let s ← disjunction go primary
    if ← atWord "if" then
      (do
        word "if"
        discard (go .disjunction)
        word "else"
        discard (go .expression)
        return .other) <|> pure s
    else return s

def named (go : Rules) (primary : Primary) : Parse Shape := do
  if ← atNameBefore ":=" then
    discard next
    discard next
    discard (go .expression)
    return .other
  else
    let s ← expression go primary
    require (!(← atOp ":="))
    return s

mutual

def readRule : (fuel : Nat) → Rule → Parse Shape
  | 0, _ => failure
  | fuel + 1, rule =>
    let go := readRule fuel
    let inner := readPrimary fuel
    match rule with
    | .expression => expression go inner
    | .named => named go inner
    | .starExpressions => starExpressions go
    | .disjunction => disjunction go inner
    | .bitwise => bitwise go inner
    | .factor => factor go inner

def readPrimary : (fuel : Nat) → Parse Shape
  | 0 => failure
  | fuel + 1 => primary (readRule fuel) (readPrimary fuel)

end

end SkillKit.Source
