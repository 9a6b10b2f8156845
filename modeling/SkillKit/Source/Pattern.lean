import SkillKit.Source.Expression

/-!
# Patterns of Python programs

The rules for what stands behind `case`.
-/

namespace SkillKit.Source

open Parse

def captureTarget : Parse Unit := do
  let n ← name
  require (n != "_")
  match ← peek? with
  | some (.op o) => require (o != "." && o != "(" && o != "=")
  | _ => pure ()

def numberPattern : Parse Unit := do
  discard (op? "-")
  match ← next with
  | .number imaginary =>
    if (← op? "+") || (← op? "-") then
      require (!imaginary)
      require ((← next) == .number true)
  | _ => failure

def atLiteral : Parse Bool := do
  match ← peek? with
  | some (.number _) => return true
  | some (.string ..) => return true
  | some (.op o) => return o == "-"
  | some (.keyword w) => return w == "None" || w == "True" || w == "False"
  | _ => return false

def literalPattern (go : Rules) : Parse Unit := do
  match ← peek? with
  | some (.string ..) => discard (strings go)
  | some (.keyword _) => discard next
  | _ => numberPattern

def dottedName : Parse Bool := do
  discard name
  repeated false fun dotted => do
    if ← op? "." then
      discard name
      return (true, true)
    else return (dotted, false)

def maybeStarPattern (pattern : Parse Unit) : Parse Bool := do
  if ← op? "*" then
    if (← peek?) == some (.name "_") then discard next else captureTarget
    return true
  else
    pattern
    return false

def classArguments (pattern : Parse Unit) : Parse Unit := do
  discard <| repeated false fun named => do
    if ← op? ")" then return (named, false)
    let isNamed ← atNameBefore "="
    require (isNamed || !named)
    if isNamed then
      discard next
      discard next
    pattern
    if ← op? "," then return (isNamed, true)
    else
      op ")"
      return (isNamed, false)

def mappingPattern (go : Rules) (pattern : Parse Unit) : Parse Unit := do
  discard <| repeated () fun _ => do
    if ← op? "\x7d" then return ((), false)
    if ← op? "**" then
      captureTarget
      discard (op? ",")
      op "\x7d"
      return ((), false)
    if ← atLiteral then literalPattern go else require (← dottedName)
    op ":"
    pattern
    if ← op? "," then return ((), true)
    else
      op "\x7d"
      return ((), false)

def closedPattern (go : Rules) (pattern : Parse Unit) : Parse Unit := do
  if ← atLiteral then literalPattern go
  else if (← peek?) == some (.name "_") then discard next
  else if ← op? "(" then
    if ← op? ")" then return ()
    let (items, comma) ← commaList (maybeStarPattern pattern) (atOp ")")
    require (comma || items == [false])
    op ")"
  else if ← op? "[" then
    if ← op? "]" then return ()
    discard (commaList (maybeStarPattern pattern) (atOp "]"))
    op "]"
  else if ← op? "\x7b" then mappingPattern go pattern
  else
    discard dottedName
    if ← op? "(" then classArguments pattern
    else require (!(← atOp "="))

def pattern (go : Rules) (inner : Parse Unit) : Parse Unit := do
  closedPattern go inner
  repeated () fun _ => do
    if ← op? "|" then
      closedPattern go inner
      return ((), true)
    else return ((), false)
  if ← word? "as" then captureTarget

def readPattern (go : Rules) : (fuel : Nat) → Parse Unit
  | 0 => failure
  | fuel + 1 => pattern go (readPattern go fuel)

def patterns (pattern : Parse Unit) : Parse Unit := do
  let stop : Parse Bool := do
    return (← atOp ":") || (← atWord "if")
  let (items, comma) ← commaList (maybeStarPattern pattern) stop
  require (comma || items == [false])

end SkillKit.Source
