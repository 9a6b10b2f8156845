import SkillKit.Source.Token

/-!
# Reading tokens by rules

A rule reads tokens from the front or fails; of two rules the second is tried when the first
fails.
-/

namespace SkillKit.Source

abbrev Parse (α : Type) := StateT (List Token) Option α

namespace Parse

def peek? : Parse (Option Lexeme) := do
  return (← get).head?.map (·.lexeme)

def peekSecond? : Parse (Option Lexeme) := do
  return ((← get).drop 1).head?.map (·.lexeme)

def next : Parse Lexeme := do
  match ← get with
  | t :: rest =>
    set rest
    return t.lexeme
  | [] => failure

def isNext (l : Lexeme) : Parse Bool := do
  return (← peek?) == some l

def skip? (l : Lexeme) : Parse Bool := do
  if ← isNext l then
    discard next
    return true
  else return false

def expect (l : Lexeme) : Parse Unit := do
  if ← skip? l then return () else failure

def op (o : String) : Parse Unit := expect (.op o)

def op? (o : String) : Parse Bool := skip? (.op o)

def atOp (o : String) : Parse Bool := isNext (.op o)

def word (w : String) : Parse Unit := expect (.keyword w)

def word? (w : String) : Parse Bool := skip? (.keyword w)

def atWord (w : String) : Parse Bool := isNext (.keyword w)

def name : Parse String := do
  match ← next with
  | .name n => return n
  | _ => failure

def atNameBefore (o : String) : Parse Bool := do
  match ← peek?, ← peekSecond? with
  | some (.name _), some (.op p) => return p == o
  | _, _ => return false

def require (b : Bool) : Parse Unit :=
  if b then pure () else failure

def loop (step : α → Parse (α × Bool)) : (fuel : Nat) → α → Parse α
  | 0, _ => failure
  | fuel + 1, a => do
    let (b, more) ← step a
    if more then loop step fuel b else return b

def repeated (start : α) (step : α → Parse (α × Bool)) : Parse α := do
  loop step ((← get).length + 2) start

/-- One or more items with commas between them, and perhaps one behind the last, in front of a
place that `stop` knows; whether there was a comma at all. -/
def commaList (item : Parse α) (stop : Parse Bool) : Parse (List α × Bool) := do
  let first ← item
  let (items, comma) ← repeated (([first] : List α), false) fun (items, comma) => do
    if ← op? "," then
      if ← stop then return ((items, true), false)
      else return ((items ++ [← item], true), true)
    else return ((items, comma), false)
  return (items, comma)

end Parse

end SkillKit.Source
