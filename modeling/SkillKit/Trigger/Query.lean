import SkillKit.Trigger.Stream
import SkillKit.Data.Number

/-!
# Running one query

For a query a command file with the description under test is put into the project, and the
assistant is started with the query.  Whatever happens, the file is gone afterwards and the
process is not left running.
-/

namespace SkillKit.Trigger

open Text

structure Query where
  text : String
  skillName : String
  description : String
  timeout : Number
  project : Path
  model : Option String

namespace Query

def commandName (q : Query) (uniqueId : String) : String :=
  s!"{q.skillName}-skill-{takeChars 8 uniqueId}"

def commandDir (q : Query) : Path :=
  (q.project.child ".claude").child "commands"

/-- Content of the command file: the description is a block of its own, so that no character in
it ends it. -/
def commandText (q : Query) : String :=
  let indented := "\n  ".intercalate (splitOnChar '\n' q.description)
  s!"---\ndescription: |\n  {indented}\n---\n\n# {q.skillName}\n\n"
    ++ s!"This skill handles: {q.description}\n"

def command (q : Query) : List String :=
  ["claude", "-p", q.text, "--output-format", "stream-json", "--verbose",
    "--include-partial-messages"]
  ++ match q.model with
    | some m => if m.isEmpty then [] else ["--model", m]
    | none => []

end Query

def nestedEnvironment (env : Environment) : List String :=
  (env.names.filter (· != "CLAUDECODE")).mergeSort (· ≤ ·)

def textsIn (dir : Path) : Act (List (String × String)) := do
  let files := (← Act.listDir dir).filter (!·.2.isDir)
  files.mapM fun (name, _) => return (name, ← Act.readText (dir.child name))

def clockAfter (clock tick : Float) : Nat → Float
  | 0 => clock
  | n + 1 => clockAfter clock tick n + tick

def watchProcess (q : Query) (name : String) : Act Bool := do
  let host ← get
  let commands ← textsIn q.commandDir
  Act.record (.started q.command q.project.toString (nestedEnvironment host.environment) commands)
  let start := host.clock
  let elapsed (looks : Nat) : Number := .float (clockAfter start host.tick (looks + 1) - start)
  let done := follow name (fun looks => (elapsed looks).lessThan q.timeout) 0 {}
    (readTurns host.turns)
  modify fun host => { host with
    clock := clockAfter start host.tick (done.looks + 1)
    turns := done.left }
  if !hasEnded done.left then Act.record .killed
  Act.ofExcept done.verdict

/-- Whether the assistant uses the skill for a query; `starting` is what starting its process comes
to. -/
def runQueryStarting (starting : Except Fault Unit) (q : Query) : Act Bool := do
  let name := q.commandName (← get).uniqueId
  let file := q.commandDir.child (name ++ ".md")
  let result ← Act.result do
    Act.makeDirs q.commandDir
    Act.writeText file q.commandText
    Act.ofExcept starting
    watchProcess q name
  if ← Act.pathExists file then Act.removeFile file
  Act.ofExcept result

def runQuery : Query → Act Bool :=
  runQueryStarting (.ok ())

/-- The project that a directory belongs to: the nearest one above it with settings of the
assistant, else the directory itself. -/
def projectRoot (dir : Path) : Act Path := do
  let found ← (dir :: dir.parents).filterM fun p => Act.isDir (p.child ".claude")
  return found.headD dir

end SkillKit.Trigger
