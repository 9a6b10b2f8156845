import SkillKit.Console.Grammar
import SkillKit.Text.Similar

/-!
# Words of a command line

Words are told apart into options and arguments.  A long option may have its value behind an
equals sign, a short one right behind its letter; otherwise the value is the next word, whatever
it looks like.  Behind two hyphens all words are arguments.
-/

namespace SkillKit.Console

open Text

structure Reading where
  given : List (String × Value) := []
  arguments : List String := []
deriving Inhabited

def findWord (options : List Opt) (word : String) : Option (Opt × Bool) :=
  options.findSome? fun o =>
    if o.words.contains word then some (o, true)
    else if o.offWords.contains word then some (o, false)
    else none

def longWords (options : List Opt) : List String :=
  (options.flatMap fun o => o.words ++ o.offWords).filter Opt.isLong

def Reading.give (r : Reading) (o : Opt) (value : Value) : Reading :=
  { r with given := r.given ++ [(o.name, value)] }

def giveValue (r : Reading) (o : Opt) (word : String) (attached : Option String)
    (rest : List String) : Except Complaint (Reading × List String) :=
  match attached, rest with
  | some v, _ => .ok (r.give o (.text v), rest)
  | none, v :: rest => .ok (r.give o (.text v), rest)
  | none, [] => .error (.needsValue word)

def readLong (options : List Opt) (r : Reading) (word : String) (attached : Option String)
    (rest : List String) : Except Complaint (Reading × List String) :=
  match findWord (options.filter fun o => (o.words ++ o.offWords).any Opt.isLong) word with
  | none => .error (.noSuchOption word (closeWords word (longWords options)))
  | some (o, on) =>
    if o.kind.takesValue then giveValue r o word attached rest
    else if attached.isSome then .error (.takesNoValue word)
    else .ok (r.give o (.bool on), rest)

def readLetters (options : List Opt) (r : Reading) (rest : List String) :
    List Char → Except Complaint (Reading × List String)
  | [] => .ok (r, rest)
  | c :: cs =>
    let word := String.ofList ['-', c]
    match findWord options word with
    | none => .error (.noSuchOption word [])
    | some (o, on) =>
      if o.kind.takesValue then
        giveValue r o word (if cs.isEmpty then none else some (String.ofList cs)) rest
      else readLetters options (r.give o (.bool on)) rest cs

def readOption (options : List Opt) (r : Reading) (word : String) (rest : List String) :
    Except Complaint (Reading × List String) :=
  if Opt.isLong word then
    match cut? "=" word with
    | some (word, value) => readLong options r word (some value) rest
    | none => readLong options r word none rest
  else readLetters options r rest (word.toList.drop 1)

def isOptionWord (word : String) : Bool :=
  startsWith word "-" && 1 < word.length

/-- Reads words; `fuel` is at least their number. -/
def readWords (options : List Opt) (mixed : Bool) :
    (fuel : Nat) → Reading → List String → Except Complaint Reading
  | 0, r, words => .ok { r with arguments := r.arguments ++ words }
  | _ + 1, r, [] => .ok r
  | fuel + 1, r, word :: rest =>
    if word == "--" then .ok { r with arguments := r.arguments ++ rest }
    else if isOptionWord word then do
      let (r, rest) ← readOption options r word rest
      readWords options mixed fuel r rest
    else if mixed then
      readWords options mixed fuel { r with arguments := r.arguments ++ [word] } rest
    else .ok { r with arguments := r.arguments ++ word :: rest }

def read (options : List Opt) (mixed : Bool) (words : List String) : Except Complaint Reading :=
  readWords options mixed (words.length + 1) {} words

def assign : List Arg → List String → List (Arg × Option Value) × List String
  | [], words => ([], words)
  | a :: rest, words =>
    if a.many then ([(a, if words.isEmpty then none else some (.texts words))], [])
    else
      let (more, extra) := assign rest (words.drop 1)
      ((a, words.head?.map .text) :: more, extra)

end SkillKit.Console
