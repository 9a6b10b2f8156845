import SkillKit.Trigger.Commands

/-!
# Commands that optimise descriptions

Proposing one better description, optimising in turns, and the page of an optimisation.
-/

namespace SkillKit.Optimize

open Console (Form)
open Trigger (loadDocument skillAt? settingsOf settingOptions subjectOptions verboseOption)

/-! ## The page -/

def pageForm : Form :=
  { name := "report"
    about := "Generate HTML report from run_loop output"
    arguments := [{ name := "input" }]
    options := [
      { name := "output", words := ["-o", "--output"]
        help := "Output HTML file (default: stdout)" },
      { name := "skill_name", words := ["--skill-name"], default := .text ""
        help := "Skill name to include in the report title" }] }

def writePage (fields : Fields) : Act Nat := do
  let data ← match Console.text fields "input" with
    | "-" => do Act.ofExcept (Json.read (← Act.readInput))
    | file => loadDocument (Path.ofString file)
  let html ← Act.ofExcept (pageOf data false (Console.value fields "skill_name"))
  match (Console.text? fields "output").filter (!·.isEmpty) with
  | some output =>
    Act.writeText (Path.ofString output) html
    Act.warnLine s!"Report written to {output}"
  | none => Act.printLine html
  return 0

def pageCommand (words : List String) : Act Nat :=
  pageForm.run writePage words

/-! ## One better description -/

def improveForm : Form :=
  { name := "improve"
    about := "Improve a skill description based on eval results"
    options := [
      { name := "eval_results", words := ["--eval-results"], required := true
        help := "Path to eval results JSON (from run_eval.py)" },
      { name := "skill_path", words := ["--skill-path"], required := true
        help := "Path to skill directory" },
      { name := "history", words := ["--history"]
        help := "Path to history JSON (previous attempts)" },
      { name := "model", words := ["--model"], required := true
        help := "Model for improvement" },
      verboseOption] }

def attemptEntry (results : Value) : Except Fault Value := do
  let description ← results.entry "description"
  let summary ← results.entry "summary"
  return .object [
    ("description", description),
    ("passed", ← summary.entry "passed"),
    ("failed", ← summary.entry "failed"),
    ("total", ← summary.entry "total"),
    ("results", ← results.entry "results")]

def longerHistory (history attempt : Value) : Except Fault Value :=
  match history with
  | .list attempts => .ok (.list (attempts ++ [attempt]))
  | _ => .error .wrongKind

def tellCurrent (current results : Value) : Act Unit := do
  Act.warnLine s!"Current: {current.display}"
  let shown ← Act.ofExcept (score results)
  Act.warnLine s!"Score: {shown}"

def improveDescription (fields : Fields) : Act Nat := do
  let dir := Console.path fields "skill_path"
  if !(← Act.pathExists (Skill.mainFile dir)) then
    Act.warnLine s!"Error: No SKILL.md found at {dir}"
    return 1
  let results ← loadDocument (Console.path fields "eval_results")
  let history ← match (Console.text? fields "history").filter (!·.isEmpty) with
    | some file => loadDocument (Path.ofString file)
    | none => pure (.list [])
  let skill ← Skill.loadHeader dir
  let current ← Act.ofExcept (results.entry "description")
  let verbose := (Console.value fields "verbose").truthy
  if verbose then tellCurrent current results
  let description ← propose {
    skillName := .text skill.name, skillContent := .text skill.content, current, results, history
    model := Console.value fields "model" }
  if verbose then Act.warnLine s!"Improved: {description}"
  let attempt ← Act.ofExcept (attemptEntry results)
  let longer ← Act.ofExcept (longerHistory history attempt)
  Act.printLine (← Act.ofExcept (Json.writeIndented (.object [
    ("description", .text description), ("history", longer)])))
  return 0

def improveCommand (words : List String) : Act Nat :=
  improveForm.run improveDescription words

/-! ## Optimising in turns -/

def optimizeForm : Form :=
  { name := "optimize"
    about := "Run eval + improve loop"
    options := subjectOptions ++ settingOptions ++ [
      { name := "max_iterations", words := ["--max-iterations"], kind := .integer
        default := .int 5, help := "Max improvement iterations" },
      { name := "holdout", words := ["--holdout"], kind := .number, default := .float 0.4
        help := "Fraction of eval set to hold out for testing (0 to disable)" },
      { name := "model", words := ["--model"], required := true
        help := "Model for improvement" },
      verboseOption,
      { name := "report", words := ["--report"], default := .text "auto"
        help := "Generate HTML report at this path "
          ++ "(default: 'auto' for temp file, 'none' to disable)" },
      { name := "results_dir", words := ["--results-dir"]
        help := "Save all outputs (results.json, report.html, log.txt) "
          ++ "to a timestamped subdirectory here" }] }

def stampText (dateSep : String) (t : Time.Stamp) : String :=
  let two := Time.zeroPadded 2
  dateSep.intercalate [Time.zeroPadded 4 t.date.year, two t.date.month, two t.date.day] ++ "_"
    ++ two t.time.hour ++ two t.time.minute ++ two t.time.second

def waitingPage : String :=
  "<html><body><h1>Starting optimization loop...</h1>"
    ++ "<meta http-equiv='refresh' content='5'></body></html>"

def pagePath? (choice : String) (skillDir : Path) : Act (Option Path) := do
  match choice with
  | "none" => return none
  | "auto" =>
    let host ← get
    let stamp := stampText "" host.now
    let name := s!"skill_description_report_{skillDir.name}_{stamp}.html"
    return some (host.temporary.child name)
  | file => return some (Path.ofString file)

def openPage (file : Path) : Act Unit := do
  Act.writeText file waitingPage
  Act.record (.browsed file.toString)

def resultsDir (base : Path) : Act Path := do
  let dir := base.child (stampText "-" (← Act.now))
  Act.makeDirs dir
  return dir

def planOf (fields : Fields) (skill : Skill.Header) (reportPath results : Option Path) : Plan :=
  { settings := settingsOf fields, skill
    override := Console.text? fields "description"
    maxIterations := match Console.value fields "max_iterations" with
      | .int n => n
      | _ => 0
    holdout := Console.value fields "holdout"
    verbose := (Console.value fields "verbose").truthy
    reportPath
    logDir := results.map (·.child "logs") }

def saveResult (data : Value) (skillName : String) (reportPath results : Option Path) :
    Act Unit := do
  let text ← Act.ofExcept (Json.writeIndented data)
  let html := pageOf data false (.text skillName)
  Act.printLine text
  if let some dir := results then Act.writeText (dir.child "results.json") text
  if let some file := reportPath then
    Act.writeText file (← Act.ofExcept html)
    Act.warnLine s!"\nReport: {file}"
    if let some dir := results then
      Act.writeText (dir.child "report.html") (← Act.ofExcept html)
  if let some dir := results then Act.warnLine s!"Results saved to: {dir}"

def optimizeDescription (fields : Fields) : Act Nat := do
  let queries ← loadDocument (Console.path fields "eval_set")
  let dir := Console.path fields "skill_path"
  match ← skillAt? dir with
  | none => return 1
  | some skill =>
    let reportPath ← pagePath? (Console.text fields "report") dir
    if let some file := reportPath then openPage file
    let results ← match (Console.text? fields "results_dir").filter (!·.isEmpty) with
      | some base => do pure (some (← resultsDir (Path.ofString base)))
      | none => pure none
    let plan := planOf fields skill reportPath results
    let result ← optimize plan queries
    saveResult (result.toValue plan) skill.name reportPath results
    return 0

def optimizeCommand (words : List String) : Act Nat :=
  optimizeForm.run optimizeDescription words

end SkillKit.Optimize
