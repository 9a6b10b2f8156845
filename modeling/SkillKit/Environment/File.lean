import SkillKit.Host

/-!
# Environment files

A file of bindings `NAME=value`, one on a line, with `export` allowed in front.  A quoted value may
span lines; behind blanks, `#` starts a comment.  A line of another shape is passed over.  In every
value `$` with a name in braces stands for another variable.
-/

namespace SkillKit.Environment

open Text

structure Binding where
  name : String
  value : Option String
deriving Repr, DecidableEq, Inhabited

def isLineBlank (c : Char) : Bool :=
  isBlank c && c != '\n' && c != '\r'

def isOnLine (c : Char) : Bool :=
  c != '\n' && c != '\r'

/-! ## Values -/

/-- Text up to the quote that closes it, and what follows the quote.  A quote behind a
backslash closes nothing, unless no other does: then the last of them closes. -/
def closingQuote? (quote : Char) (fallback : Option (List Char × List Char)) (taken : List Char) :
    List Char → Option (List Char × List Char)
  | [] => fallback
  | '\\' :: c :: rest =>
    if c == quote then
      let here := (('\\' :: taken).reverse, rest)
      closingQuote? quote (some here) (c :: '\\' :: taken) rest
    else closingQuote? quote fallback ('\\' :: taken) (c :: rest)
  | c :: rest =>
    if c == quote then some (taken.reverse, rest) else closingQuote? quote fallback (c :: taken) rest
termination_by cs => cs.length

def escapes : List (Char × Char) := [
  ('\\', '\\'), ('\'', '\''), ('"', '"'), ('a', '\x07'), ('b', '\x08'), ('f', '\x0c'),
  ('n', '\n'), ('r', '\r'), ('t', '\t'), ('v', '\x0b')]

def unescape (known : Char → Bool) : List Char → List Char
  | '\\' :: c :: rest =>
    match if known c then escapes.lookup c else none with
    | some d => d :: unescape known rest
    | none => '\\' :: unescape known (c :: rest)
  | c :: rest => c :: unescape known rest
  | [] => []
termination_by cs => cs.length

def beforeComment : List Char → List Char
  | [] => []
  | c :: rest =>
    if isBlank c && ((c :: rest).dropWhile isBlank).head? == some '#' then []
    else c :: beforeComment rest

def readValue? (cs : List Char) : Option (String × List Char) :=
  match cs with
  | '\'' :: rest =>
    (closingQuote? '\'' none [] rest).map fun (v, rest) =>
      (String.ofList (unescape (fun c => c == '\\' || c == '\'') v), rest)
  | '"' :: rest =>
    (closingQuote? '"' none [] rest).map fun (v, rest) =>
      (String.ofList (unescape (fun _ => true) v), rest)
  | _ =>
    let line := cs.takeWhile isOnLine
    some (String.ofList (trimRight isBlank (beforeComment line)), cs.dropWhile isOnLine)

/-! ## Lines -/

def skipExport (cs : List Char) : List Char :=
  match dropPrefix? "export".toList cs with
  | some (c :: rest) => if isLineBlank c then rest.dropWhile isLineBlank else cs
  | _ => cs

def readName? (cs : List Char) : Option (Option String × List Char) :=
  match cs with
  | '#' :: _ => some (none, cs)
  | '\'' :: rest =>
    let name := rest.takeWhile (· != '\'')
    match rest.dropWhile (· != '\'') with
    | _ :: rest => if name.isEmpty then none else some (some (String.ofList name), rest)
    | [] => none
  | _ =>
    let inName (c : Char) : Bool := c != '=' && c != '#' && !isBlank c
    let name := cs.takeWhile inName
    if name.isEmpty then none else some (some (String.ofList name), cs.dropWhile inName)

def endLine? (cs : List Char) : Option (List Char) :=
  let cs := cs.dropWhile isLineBlank
  let cs := if cs.head? == some '#' then cs.dropWhile isOnLine else cs
  match cs with
  | [] => some []
  | '\r' :: '\n' :: rest => some rest
  | '\n' :: rest => some rest
  | '\r' :: rest => some rest
  | _ => none

def skipLine (cs : List Char) : List Char :=
  (cs.dropWhile isOnLine).drop 1

def readBinding (cs : List Char) : Option Binding × List Char :=
  let cs := skipExport cs
  match readName? cs with
  | none => (none, skipLine cs)
  | some (name, rest) =>
    let rest := rest.dropWhile isLineBlank
    let value? : Option (Option String × List Char) :=
      match rest with
      | '=' :: rest => (readValue? (rest.dropWhile isLineBlank)).map fun (v, r) => (some v, r)
      | _ => some (none, rest)
    match value? with
    | none =>
      -- an open quote spoils the line in which it stands
      (none, skipLine ((rest.drop 1).dropWhile isLineBlank))
    | some (value, rest) =>
      match endLine? rest with
      | some rest => (name.map fun n => ⟨n, value⟩, rest)
      | none =>
        (none, skipLine (rest.dropWhile isLineBlank))

def readBindings : (fuel : Nat) → List Char → List Binding
  | 0, _ => []
  | fuel + 1, cs =>
    match cs.dropWhile isBlank with
    | [] => []
    | cs =>
      let (binding, rest) := readBinding cs
      binding.toList ++ readBindings fuel rest

def bindings (text : String) : List Binding :=
  readBindings (text.length + 1) text.toList

/-! ## Variables in values -/

def readVariable? (cs : List Char) : Option (String × String × List Char) :=
  match cs with
  | '$' :: '\x7b' :: rest =>
    let name := rest.takeWhile fun c => c != '\x7d' && c != ':'
    match rest.dropWhile fun c => c != '\x7d' && c != ':' with
    | '\x7d' :: rest => some (String.ofList name, "", rest)
    | ':' :: '-' :: rest =>
      match rest.dropWhile (· != '\x7d') with
      | _ :: after =>
        some (String.ofList name, String.ofList (rest.takeWhile (· != '\x7d')), after)
      | [] => none
    | _ => none
  | _ => none

/-- Text with its variables replaced, from a text of at most `fuel` characters. -/
def fillIn (lookup : String → Option String) : (fuel : Nat) → List Char → List Char
  | 0, cs => cs
  | _ + 1, [] => []
  | fuel + 1, c :: rest =>
    match readVariable? (c :: rest) with
    | some (name, other, after) => ((lookup name).getD other).toList ++ fillIn lookup fuel after
    | none => c :: fillIn lookup fuel rest

def putBinding (name : String) (value : Option String) :
    List (String × Option String) → List (String × Option String)
  | [] => [(name, value)]
  | (n, v) :: rest =>
    if n == name then (n, value) :: rest else (n, v) :: putBinding name value rest

/-- The values that bindings give, each with its variables replaced by those set before it; with
`override` the file counts more than the environment. -/
def settle (env : Environment) (override : Bool) (bs : List Binding) :
    List (String × Option String) :=
  bs.foldl (fun done b =>
    let lookup (name : String) : Option String :=
      let inFile : Option (Option String) := done.lookup name
      let inEnv : Option (Option String) := (env.get? name).map some
      let found := if override then inFile.or inEnv else inEnv.or inFile
      found.map (·.getD "")
    let value := b.value.map fun v =>
      String.ofList (fillIn lookup (v.length + 1) v.toList)
    putBinding b.name value done) []

def isSettable (name value : String) : Bool :=
  !(contains name "=") && !(contains name "\x00") && !(contains value "\x00") && !name.isEmpty

def addText (env : Environment) (override : Bool) (text : String) : Except Fault Environment :=
  (settle env override (bindings text)).foldlM (fun env' (name, value) =>
    match value with
    | some v =>
      if (env'.get? name).isSome && !override then .ok env'
      else if isSettable name v then .ok (env'.set name v)
      else .error .unusable
    | none => .ok env') env

end SkillKit.Environment

namespace SkillKit.Act

def loadEnvironmentFile (path : Path) (override : Bool) : Act Unit := do
  if ← isFile path then
    let text ← readText path
    let host ← get
    let environment ← ofExcept (host.environment.addText override text)
    set { host with environment }

end SkillKit.Act
