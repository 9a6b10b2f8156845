import SkillKit.Host
import SkillKit.Json.Reader
import SkillKit.Decimal.Reader

/-!
# Runs of a benchmark

A benchmark directory holds one directory `eval-N` for each evaluation, in it one directory for
each configuration, and in that one directory `run-N` for each run.  The evaluations may also
lie in a directory `runs`.  A run counts when it has a readable `grading.json`; its time and
tokens may stand in a `timing.json` beside it.
-/

namespace SkillKit.Benchmark

open Text

structure Measures where
  passRate : Value
  passed : Value
  failed : Value
  total : Value
  timeSeconds : Value
  tokens : Value
  toolCalls : Value
  errors : Value

structure Run where
  evalId : Value
  number : Int
  measures : Measures
  expectations : Value
  notes : List Value

abbrev Results := List (String × List Run)

namespace Measures

def fields (m : Measures) : List (String × Value) := [
  ("pass_rate", m.passRate),
  ("passed", m.passed),
  ("failed", m.failed),
  ("total", m.total),
  ("time_seconds", m.timeSeconds),
  ("tokens", m.tokens),
  ("tool_calls", m.toolCalls),
  ("errors", m.errors)]

end Measures

namespace Run

def toValue (r : Run) : Value :=
  .object ([("eval_id", r.evalId), ("run_number", .int r.number)] ++ r.measures.fields
    ++ [("expectations", r.expectations), ("notes", .list r.notes)])

end Run

namespace Results

def add (results : Results) (config : String) (runs : List Run) : Results :=
  if results.any (·.1 == config) then
    results.map fun (name, old) => if name == config then (name, old ++ runs) else (name, old)
  else results ++ [(config, runs)]

end Results

/-! ## Reading a run -/

def numberInName? (name : String) : Option Int := do
  Decimal.readInt? (← (splitOnChar '-' name)[1]?)

def entriesNamed (start : String) (dir : Path) : Act (List Path) := do
  if ← Act.isDir dir then
    let entries ← Act.listDir dir
    return (entries.filter fun e => startsWith e.1 start).map fun e => dir.child e.1
  else return []

def section? (grading : Value) (name : String) : Except Fault Value :=
  grading.lookupD name (.dict [])

/-- Time and tokens of a run: those of the grading, or where it has no time those of the timing
file. -/
def timeAndTokens (dir : Path) (grading : Value) : Act (Value × Option Value) := do
  let timing ← Act.ofExcept (section? grading "timing")
  let time ← Act.ofExcept (timing.lookupD "total_duration_seconds" (.float 0.0))
  let file := dir.child "timing.json"
  if !time.same (.float 0.0) then return (time, none)
  if !(← Act.pathExists file) then return (time, none)
  match Json.read (← Act.readText file) with
  | .ok data =>
    let time ← Act.ofExcept (data.lookupD "total_duration_seconds" (.float 0.0))
    let tokens ← Act.ofExcept (data.lookupD "total_tokens" (.int 0))
    return (time, some tokens)
  | .error (.badJson ..) => return (time, none)
  | .error f => throw f

def measures (dir : Path) (grading : Value) : Act Measures := do
  let summary ← Act.ofExcept (section? grading "summary")
  let passRate ← Act.ofExcept (summary.lookupD "pass_rate" (.float 0.0))
  let passed ← Act.ofExcept (summary.lookupD "passed" (.int 0))
  let failed ← Act.ofExcept (summary.lookupD "failed" (.int 0))
  let total ← Act.ofExcept (summary.lookupD "total" (.int 0))
  let (timeSeconds, counted) ← timeAndTokens dir grading
  let metrics ← Act.ofExcept (section? grading "execution_metrics")
  let toolCalls ← Act.ofExcept (metrics.lookupD "total_tool_calls" (.int 0))
  let written ← Act.ofExcept (metrics.lookupD "output_chars" (.int 0))
  let errors ← Act.ofExcept (metrics.lookupD "errors_encountered" (.int 0))
  -- without a count of tokens the characters written stand for it
  let tokens := match counted with
    | some n => if n.truthy then n else written
    | none => written
  return { passRate, passed, failed, total, timeSeconds, tokens, toolCalls, errors }

def isComplete (expectation : Value) : Except Fault Bool := do
  if ← expectation.holds "text" then expectation.holds "passed" else return false

def expectations (file : Path) (grading : Value) : Act Value := do
  let all ← Act.ofExcept (grading.lookupD "expectations" (.list []))
  for e in ← Act.ofExcept all.parts do
    if !(← Act.ofExcept (isComplete e)) then
      Act.printLine (s!"Warning: expectation in {file} missing required fields "
        ++ s!"(text, passed, evidence): {e.display}")
  return all

def notes (grading : Value) : Except Fault (List Value) := do
  let summary ← section? grading "user_notes_summary"
  let uncertain ← (← summary.lookupD "uncertainties" (.list [])).parts
  let review ← (← summary.lookupD "needs_review" (.list [])).parts
  let around ← (← summary.lookupD "workarounds" (.list [])).parts
  return uncertain ++ review ++ around

def loadRun? (evalId : Value) (dir : Path) : Act (Option Run) := do
  let some number := numberInName? dir.name
    | throw .unusable
  let file := dir.child "grading.json"
  if !(← Act.pathExists file) then
    Act.printLine s!"Warning: grading.json not found in {dir}"
    return none
  match Json.read (← Act.readText file) with
  | .error (.badJson problem line column position) =>
    let fault := Fault.badJson problem line column position
    Act.printLine s!"Warning: Invalid JSON in {file}: {fault.message}"
    return none
  | .error f => throw f
  | .ok grading =>
    let measured ← measures dir grading
    let expected ← expectations file grading
    let noted ← Act.ofExcept (notes grading)
    return some ⟨evalId, number, measured, expected, noted⟩

/-! ## Reading a benchmark -/

/-- The name of an evaluation: what its metadata say, else the number in its name, else its
place. -/
def evalId (place : Nat) (dir : Path) : Act Value := do
  let file := dir.child "eval_metadata.json"
  if ← Act.pathExists file then
    match ← Act.result (do Act.ofExcept (Json.read (← Act.readText file))) with
    | .ok data => Act.ofExcept (data.lookupD "eval_id" (.nat place))
    | .error f => if f.isOutside || f.isBadJson then return .nat place else throw f
  else return ((numberInName? dir.name).map Value.int).getD (.nat place)

def loadConfig (evalId : Value) (dirs : List Path) : Act (List Run) := do
  return (← dirs.mapM (loadRun? evalId)).filterMap id

def loadEval (results : Results) (place : Nat) (dir : Path) : Act Results := do
  let id ← evalId place dir
  let configs := (← Act.listDir dir).filter (·.2.isDir)
  configs.foldlM (fun results (name, _) => do
    let runDirs ← entriesNamed "run-" (dir.child name)
    if runDirs.isEmpty then return results
    return results.add name (← loadConfig id runDirs)) results

def searchDir? (dir : Path) : Act (Option Path) := do
  let runs := dir.child "runs"
  if ← Act.pathExists runs then return some runs
  if (← entriesNamed "eval-" dir).isEmpty then return none
  return some dir

def loadResults (dir : Path) : Act Results := do
  match ← searchDir? dir with
  | none =>
    let runs := dir.child "runs"
    Act.printLine s!"No eval directories found in {dir} or {runs}"
    return []
  | some search =>
    (← entriesNamed "eval-" search).zipIdx.foldlM
      (fun results (evalDir, place) => loadEval results place evalDir) []

end SkillKit.Benchmark
