import SkillKit.Console.Help
import SkillKit.Console.Words
import SkillKit.Decimal.Reader
import SkillKit.Host
import SkillKit.Text.Identifier

/-!
# Talking to a user

Text is shown without the codes that colour it.  A command line is turned into a request; on the
way a page may be shown, a question asked or a complaint made, which ends the dialog with an exit
code.
-/

namespace SkillKit.Console

open Text

/-! ## Showing text -/

def afterColour? : List Char → Option (List Char)
  | '[' :: cs =>
    match cs.dropWhile fun c => c.isDigit || c == ';' || c == '?' with
    | c :: rest => if c.isAlpha then some rest else none
    | [] => none
  | _ => none

/-- Characters without colour codes; `fuel` is at least their number. -/
def dropColours : (fuel : Nat) → List Char → List Char
  | 0, cs => cs
  | _ + 1, [] => []
  | fuel + 1, c :: cs =>
    match if c == '\x1b' then afterColour? cs else none with
    | some rest => dropColours fuel rest
    | none => c :: dropColours fuel cs

def plain (s : String) : String :=
  String.ofList (dropColours s.length s.toList)

def echo (s : String) : Act Unit :=
  Act.printLine (plain s)

def complain (s : String) : Act Unit :=
  Act.warnLine (plain s)

def echoOpen (s : String) : Act Unit :=
  if s.isEmpty then return else Act.printOn .out (plain s)

/-! ## Ending a dialog -/

abbrev Dialog (α : Type) := ExceptT Nat Act α

def showPage (page : String) : Dialog α := do
  echo (stripOf "\n" page)
  throw 0

def refuse (usage path : String) (c : Complaint) : Dialog α := do
  complain s!"{usage}\nTry '{path} --help' for help.\n"
  complain s!"Error: {c.message}"
  throw 2

/-! ## Asking -/

/-- Asks a question until it is answered by yes or no, or not at all. -/
def confirm (question : String) : (fuel : Nat) → Act Bool
  | 0 => throw .inputEnded
  | fuel + 1 => do
    Act.printOn .out s!"{plain question} [y/N]: "
    let line ← Act.readLine
    Act.printOn .out (line ++ "\n")
    let answer := strip (lower line)
    if answer == "y" || answer == "yes" then return true
    if answer == "n" || answer == "no" || answer.isEmpty then return false
    echo "Error: invalid input"
    confirm question fuel

/-! ## Values -/

def convert (kind : Kind) (word : String) : Act (Except String Value) :=
  match kind with
  | .integer =>
    match Decimal.readInt? word with
    | some n => return .ok (.int n)
    | none => return .error s!"{quoted word} is not a valid integer."
  | .number =>
    match Decimal.readFloat? word with
    | some x => return .ok (.float x)
    | none => return .error s!"{quoted word} is not a valid float."
  | .choice words =>
    if words.contains word then return .ok (.text word)
    else
      let all := ", ".intercalate (words.map quoted)
      return .error s!"{quoted word} is not one of {all}."
  | .existingPath => do
    let found ← Act.result (Act.pathExists (Path.ofString word))
    if !word.isEmpty && found.toOption == some true then return .ok (.text word)
    return .error s!"Path {quoted word} does not exist."
  | _ => return .ok (.text word)

structure Call (α : Type) where
  command : Command α
  path : String

def Call.refuse (c : Call α) (complaint : Complaint) : Dialog β :=
  Console.refuse (c.command.usage c.path) c.path complaint

def Call.valueOf (c : Call α) (o : Opt) (raw : Value) : Dialog Value :=
  match raw with
  | .text word => do
    match ← (convert o.kind word : Act _) with
    | .ok v => return v
    | .error reason => c.refuse (.invalid o.hint reason)
  | v => return v

def Call.given (c : Call α) (r : Reading) (o : Opt) : Dialog Value := do
  let raws := (r.given.filter (·.1 == o.name)).map (·.2)
  if o.many then return .list (← raws.mapM (c.valueOf o))
  match raws.getLast? with
  | some raw => c.valueOf o raw
  | none => return o.default

def Call.absent (c : Call α) (o : Opt) : Dialog Value := do
  match o.question with
  | some question =>
    let lines := (← (get : Act Host)).input.length
    if ← (confirm question (lines + 1) : Act Bool) then return .bool true
    complain "Aborted!"
    throw 1
  | none =>
    if o.required then c.refuse (.missingOption o.hint)
    return if o.many then .list [] else o.default

def givenOptions (options : List Opt) (r : Reading) : List Opt :=
  (r.given.map (·.1)).eraseDups.filterMap fun name => options.find? (·.name == name)

/-- The values of what was given, in its order, then of the arguments, then of the other options. -/
def Call.values (c : Call α) (r : Reading) : Dialog Fields := do
  let given := givenOptions c.command.allOptions r
  if given.any (·.kind == .help) then showPage (c.command.page c.path)
  let options ← given.mapM fun o => do return (Atom.text o.name, ← c.given r o)
  let (slots, extra) := assign c.command.arguments r.arguments
  let arguments ← slots.mapM fun (a, value) =>
    match value with
    | some v => return (Atom.text a.name, v)
    | none => c.refuse (.missingArgument a.placeholder)
  let others := c.command.options.filter fun o => !given.any (·.name == o.name)
  let defaults ← others.mapM fun o => do return (Atom.text o.name, ← c.absent o)
  if !extra.isEmpty then c.refuse (.unexpected extra)
  return options ++ arguments ++ defaults

def Call.read (c : Call α) (words : List String) : Dialog α := do
  match Console.read c.command.allOptions true words with
  | .error complaint => c.refuse complaint
  | .ok r => return c.command.build (← c.values r)

/-! ## Finding a command -/

/-- Whether a name that is none of a command looks like an option: it starts with neither a letter
nor a digit. -/
def looksLikeOption (name : String) : Bool :=
  match name.toList with
  | [] => false
  | c :: _ => !isAlphanumeric c

def readName (usage path page : String) (version : Option String) (words : List String) :
    Dialog (String × List String) := do
  if words.isEmpty then showPage page
  let options := (if version.isSome then [versionOption] else []) ++ [helpOption]
  match Console.read options false words with
  | .error complaint => refuse usage path complaint
  | .ok r =>
    match (givenOptions options r).head?.map (·.kind), version with
    | some Kind.version, some v => showPage s!"{path}, version {v}"
    | some _, _ => showPage page
    | none, _ =>
      match r.arguments with
      | [] => refuse usage path .missingCommand
      | name :: rest => return (name, rest)

def unknownName (usage path page name : String) : Dialog α :=
  if looksLikeOption name then showPage page else refuse usage path (.noSuchCommand name)

def Group.read (g : Group α) (path : String) (words : List String) : Dialog α := do
  let usage := groupUsage path
  let (name, rest) ← readName usage path (g.page path) none words
  match g.commands.find? (·.name == name) with
  | some c => Call.read ⟨c, s!"{path} {name}"⟩ rest
  | none => unknownName usage path (g.page path) name

def Grammar.read (g : Grammar α) (words : List String) : Dialog α := do
  let usage := groupUsage g.name
  let (name, rest) ← readName usage g.name g.page (some g.version) words
  match g.commands.find? (·.name == name), g.groups.find? (·.name == name) with
  | some c, _ => Call.read ⟨c, s!"{g.name} {name}"⟩ rest
  | none, some s => s.read s!"{g.name} {name}" rest
  | none, none => unknownName usage g.name g.page name

def Grammar.run (g : Grammar α) (perform : α → Act Nat) (words : List String) : Act Nat := do
  match ← (g.read words).run with
  | .ok request => perform request
  | .error code => return code

end SkillKit.Console
