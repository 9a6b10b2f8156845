import SkillKit.Benchmark.Summary

/-!
# Report of a benchmark

The report is a document with the metadata, all runs and the summary of a benchmark.  Its short
form is a Markdown page with a table of the two configurations; the page is made from any
document of that form, also from one that was edited by hand.
-/

namespace SkillKit.Benchmark

open Text

/-! ## The document -/

def timestamp (t : Time.Stamp) : String :=
  let date := t.date.iso
  let clock := ({ t.time with micro := 0 } : Time.Clock).iso
  s!"{date}T{clock}Z"

def runEntry (config : String) (r : Run) : Value :=
  .object [
    ("eval_id", r.evalId),
    ("configuration", .text config),
    ("run_number", .int r.number),
    ("result", .object r.measures.fields),
    ("expectations", r.expectations),
    ("notes", .list r.notes)]

def addDistinct (seen : List Value) (v : Value) : Except Fault (List Value) :=
  match v with
  | .atom _ => .ok (if seen.any (·.same v) then seen else seen ++ [v])
  | _ => .error .wrongKind

def evalIds (results : Results) : Except Fault (List Value) := do
  let all := results.flatMap fun (_, runs) => runs.map (·.evalId)
  Value.sortBy id (← all.foldlM addDistinct [])

def orElse (s other : String) : String :=
  if s.isEmpty then other else s

def report (dir : Path) (skillName skillPath : String) : Act Value := do
  let results ← loadResults dir
  let summary ← Act.ofExcept (overview results)
  let evals ← Act.ofExcept (evalIds results)
  let now ← Act.now
  return .object [
    ("metadata", .object [
      ("skill_name", .text (orElse skillName "<skill-name>")),
      ("skill_path", .text (orElse skillPath "<path/to/skill>")),
      ("executor_model", .text "<model-name>"),
      ("analyzer_model", .text "<model-name>"),
      ("timestamp", .text (timestamp now)),
      ("evals_run", .list evals),
      ("runs_per_configuration", .int 3)]),
    ("runs", .list (results.flatMap fun (config, runs) => runs.map (runEntry config))),
    ("run_summary", summary.toValue),
    ("notes", .list [])]

/-! ## The page -/

def fixedText (places : Nat) : Value → Except Fault String
  | .text _ => .error .unusable
  | v => do return Decimal.fixed places (← (← Number.ofValue v).toFloat)

def percentText (places : Nat) (v : Value) : Except Fault String := do
  match v with
  | .text _ => throw .unusable
  | v =>
    let n ← (← Number.ofValue v).mul (.int 100)
    return Decimal.fixed places (← n.toFloat) ++ "%"

def label (config : Value) : Except Fault String := do
  return title (replace (← config.textFor "replace") "_" " ")

def cell (write : Value → Except Fault String) (stats : Value) : Except Fault String := do
  let mean ← write (← stats.lookupD "mean" (.int 0))
  let stddev ← write (← stats.lookupD "stddev" (.int 0))
  return s!"{mean} ± {stddev}"

def row (heading measure unit : String) (write : Value → Except Fault String)
    (a b delta : Value) : Except Fault String := do
  let statsA ← a.lookupD measure (.dict [])
  let statsB ← b.lookupD measure (.dict [])
  let cellA ← cell write statsA
  let cellB ← cell write statsB
  let change ← delta.lookupD measure (.text "—")
  let change := change.display
  return s!"| {heading} | {cellA} | {cellB} | {change}{unit} |"

def secondsText (v : Value) : Except Fault String := do
  return (← fixedText 1 v) ++ "s"

def headLines (metadata : Value) (labelA labelB : String) : Except Fault (List String) := do
  let skill := (← metadata.entry "skill_name").display
  let model := (← metadata.entry "executor_model").display
  let date := (← metadata.entry "timestamp").display
  let evals := ", ".intercalate ((← (← metadata.entry "evals_run").parts).map Value.display)
  let runs := (← metadata.entry "runs_per_configuration").display
  return [
    s!"# Skill Benchmark: {skill}",
    "",
    s!"**Model**: {model}",
    s!"**Date**: {date}",
    s!"**Evals**: {evals} ({runs} runs each per configuration)",
    "",
    "## Summary",
    "",
    s!"| Metric | {labelA} | {labelB} | Delta |",
    "|--------|------------|---------------|-------|"]

def noteLines (report : Value) : Except Fault (List String) := do
  let notes ← report.lookupD "notes" .null
  if !notes.truthy then return []
  return ["", "## Notes", ""] ++ (← notes.parts).map fun n => "- " ++ n.display

def configNames (summary : Value) : Except Fault (List Value) := do
  return (← summary.parts).filter fun k => !k.isText Overview.deltaName

def page (report : Value) : Except Fault String := do
  let metadata ← report.entry "metadata"
  let summary ← report.entry "run_summary"
  let configs ← configNames summary
  let configA := configs[0]?.getD (.text "config_a")
  let configB := configs[1]?.getD (.text "config_b")
  let head ← headLines metadata (← label configA) (← label configB)
  let a ← summary.lookupD configA.display (.dict [])
  let b ← summary.lookupD configB.display (.dict [])
  let delta ← summary.lookupD Overview.deltaName (.dict [])
  let passRate ← row "Pass Rate" "pass_rate" "" (percentText 0) a b delta
  let time ← row "Time" "time_seconds" "s" secondsText a b delta
  let tokens ← row "Tokens" "tokens" "" (fixedText 0) a b delta
  return "\n".intercalate (head ++ [passRate, time, tokens] ++ (← noteLines report))

end SkillKit.Benchmark
