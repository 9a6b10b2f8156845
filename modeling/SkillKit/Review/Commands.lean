import SkillKit.Console.Form
import SkillKit.Review.Server

/-!
# The review command

Shows the runs of a workspace in a page, which is written to a file or served.
-/

namespace SkillKit.Review

open Text
open Console (Form)

def form : Form :=
  { name := "review"
    about := "Generate and serve eval review"
    arguments := [{ name := "workspace" }]
    options := [
      { name := "port", words := ["--port", "-p"], kind := .integer, default := .int 3117
        help := "Server port (default: 3117)" },
      { name := "skill_name", words := ["--skill-name", "-n"], help := "Skill name for header" },
      { name := "previous_workspace", words := ["--previous-workspace"]
        help := "Path to previous iteration's workspace "
          ++ "(shows old outputs and feedback as context)" },
      { name := "benchmark", words := ["--benchmark"]
        help := "Path to benchmark.json to show in the Benchmark tab" },
      { name := "static", words := ["--static", "-s"]
        help := "Write standalone HTML to this path instead of starting a server" }] }

def skillNameOf (given : Option String) (workspace : Path) : String :=
  match given.filter (!·.isEmpty) with
  | some name => name
  | none => replace workspace.name "-workspace" ""

def writeStatic (site : Site) (runs : List Run) (benchmark : Value) (file : Path) : Act Unit := do
  let template := (← get).viewer
  let html ← Act.ofExcept
    (page template (.list (runs.map (·.toValue))) site.skillName site.previous benchmark)
  Act.makeDirs file.parent
  Act.writeText file html
  Act.printLine s!"\n  Static viewer written to: {file}\n"

def openServer (port : Int) : Act Int := do
  let host := "127.0.0.1"
  Act.record (.served host port)
  let spare := (← get).sparePort
  if port == 0 then return 0
  if !(← get).portsTaken then return port
  Act.record (.served host 0)
  return spare

def tellSite (site : Site) (url : String) (previous : Option Path) (count : Nat) : Act Unit := do
  Act.printLine "\n  Eval Viewer"
  Act.printLine "  ─────────────────────────────────"
  Act.printLine s!"  URL:       {url}"
  Act.printLine s!"  Workspace: {site.workspace}"
  Act.printLine s!"  Feedback:  {feedbackFile site.workspace}"
  if 0 < count then
    if let some dir := previous then Act.printLine s!"  Previous:  {dir} ({count} runs)"
  if let some file := site.benchmark then Act.printLine s!"  Benchmark: {file}"
  Act.printLine "\n  Press Ctrl+C to stop.\n"

def serve (site : Site) (port : Int) (previous : Option Path) (count : Nat) : Act Unit := do
  freePort (.int port)
  let port ← openServer port
  let url := s!"http://localhost:{port}"
  tellSite site url previous count
  Act.record (.browsed url)
  Act.printLine "\nStopped."
  Act.record .closed

def showRuns (fields : Fields) : Act Nat := do
  let workspace ← Act.resolvePath (Console.path fields "workspace")
  if !(← Act.isDir workspace) then
    Act.warnLine s!"Error: {workspace} is not a directory"
    return 1
  let runs ← loadRuns workspace
  if runs.isEmpty then
    Act.warnLine s!"No runs found in {workspace}"
    return 1
  let previousDir := Console.path? fields "previous_workspace"
  let earlier ← match previousDir with
    | some dir => do loadPrevious (← Act.resolvePath dir)
    | none => pure []
  let benchmark ← match Console.path? fields "benchmark" with
    | some file => do pure (some (← Act.resolvePath file))
    | none => pure none
  let site : Site := {
    workspace, benchmark, previous := earlierValue earlier
    skillName := skillNameOf (Console.text? fields "skill_name") workspace }
  let data ← loadBenchmark benchmark
  match Console.path? fields "static", Console.value fields "port" with
  | some file, _ => writeStatic site runs data file
  | none, .int port => serve site port previousDir earlier.length
  | none, _ => pure ()
  return 0

def command (words : List String) : Act Nat :=
  form.run showRuns words

end SkillKit.Review
