import SkillKit.Console.Form
import SkillKit.Optimize.Loop

/-!
# The evaluation command

Evaluates how well the description of a skill triggers it.
-/

namespace SkillKit.Trigger

open Console (Form Opt)

def settingOptions : List Opt := [
  { name := "num_workers", words := ["--num-workers"], kind := .integer, default := .int 10
    help := "Number of parallel workers" },
  { name := "timeout", words := ["--timeout"], kind := .integer, default := .int 30
    help := "Timeout per query in seconds" },
  { name := "runs_per_query", words := ["--runs-per-query"], kind := .integer
    default := .int 3, help := "Number of runs per query" },
  { name := "trigger_threshold", words := ["--trigger-threshold"], kind := .number
    default := .float 0.5, help := "Trigger rate threshold" }]

def subjectOptions : List Opt := [
  { name := "eval_set", words := ["--eval-set"], required := true
    help := "Path to eval set JSON file" },
  { name := "skill_path", words := ["--skill-path"], required := true
    help := "Path to skill directory" },
  { name := "description", words := ["--description"], help := "Override description to test" }]

def verboseOption : Opt :=
  { name := "verbose", words := ["--verbose"], kind := .flag, default := .bool false
    help := "Print progress to stderr" }

def form : Form :=
  { name := "evaluate"
    about := "Run trigger evaluation for a skill description"
    options := subjectOptions ++ settingOptions ++ [
      { name := "model", words := ["--model"]
        help := "Model to use for claude -p (default: user's configured model)" },
      verboseOption] }

def settingsOf (fields : Fields) : Settings :=
  { workers := Console.value fields "num_workers"
    timeout := Console.value fields "timeout"
    runsPerQuery := Console.value fields "runs_per_query"
    threshold := Console.value fields "trigger_threshold"
    model := Console.value fields "model" }

def skillAt? (dir : Path) : Act (Option Skill.Header) := do
  if ← Act.pathExists (Skill.mainFile dir) then return some (← Skill.loadHeader dir)
  Act.warnLine s!"Error: No SKILL.md found at {dir}"
  return none

def loadDocument (file : Path) : Act Value := do
  Act.ofExcept (Json.read (← Act.readText file))

def tellOutcomes (e : Evaluation) : Act Unit := do
  Act.warnLine s!"Results: {passed e.outcomes}/{e.outcomes.length} passed"
  for o in e.outcomes do
    Act.warnLine (← Act.ofExcept (Optimize.outcomeLine 70 o))

def evaluateCommand (fields : Fields) : Act Nat := do
  let queries ← loadDocument (Console.path fields "eval_set")
  match ← skillAt? (Console.path fields "skill_path") with
  | none => return 1
  | some skill =>
    let given := (Console.text? fields "description").filter (!·.isEmpty)
    let description := given.getD skill.description
    let verbose := (Console.value fields "verbose").truthy
    if verbose then Act.warnLine s!"Evaluating: {description}"
    let e ← evaluate (settingsOf fields) skill.name description queries
    if verbose then tellOutcomes e
    Act.printLine (← Act.ofExcept (Json.writeIndented e.toValue))
    return 0

def command (words : List String) : Act Nat :=
  form.run evaluateCommand words

end SkillKit.Trigger
