import SkillKit.Benchmark.Commands
import SkillKit.Random.Twister
import SkillKit.Workload.Basic

/-!
# Workload: summing up benchmarks

A benchmark with random measures is loaded, reported and written once.  Measured is the
summary of twelve runs for each evaluation that are held in memory, the pages that show it, and
the statistics of random samples.
-/

namespace SkillKit.Workload

namespace Grading

open SkillKit.Random

structure Measured where
  passRate : Float
  seconds : Float
  tokens : Nat

def Measured.toValue (m : Measured) : Value :=
  .object [("pass_rate", .float m.passRate), ("time_seconds", .float m.seconds),
    ("tokens", .nat m.tokens)]

def drawRun : StateM Twister Measured := do
  let passRate ← modifyGet Twister.unit
  let seconds ← modifyGet (Twister.uniform 1.0 10.0)
  let tokens ← modifyGet (Twister.between 100 500)
  return { passRate, seconds, tokens }

def drawMany (draw : StateM Twister α) (count : Nat) : StateM Twister (List α) :=
  (List.range count).mapM fun _ => draw

def seed : Nat := 1234

def configs : List String := ["with_skill", "without_skill"]

def runNumbers : List Nat := [1, 2, 3]

def grading (number : Nat) (m : Measured) : Value :=
  .object [
    ("summary", .object [("pass_rate", .float m.passRate), ("passed", .nat number),
      ("failed", .nat (3 - number)), ("total", .int 3)]),
    ("timing", .object [("total_duration_seconds", .float 0.0)]),
    ("execution_metrics", .object [("total_tool_calls", .nat (2 * number)),
      ("output_chars", .nat (1000 * number)), ("errors_encountered", .int 0)]),
    ("expectations", .list [
      .object [("text", .text "e1"), ("passed", .bool true), ("evidence", .text "ev")],
      .object [("bad", .text "missing fields")]]),
    ("user_notes_summary", .object [("uncertainties", .texts ["u1"]),
      ("needs_review", .texts ["nr"]), ("workarounds", .texts ["w"])])]

def bareGrading : Value :=
  .object [("summary", .object [("pass_rate", .float 0.5), ("passed", .int 1),
    ("failed", .int 1), ("total", .int 2)])]

def noDocument : String := "not json"

def isSpoilt (config : String) (number : Nat) : Bool :=
  config == "with_skill" && number == 3

def placeRun (dir : Path) (config : String) (number : Nat) (m : Measured) : Act Unit := do
  let dir := dir / config / s!"run-{number}"
  if isSpoilt config number then place (dir / "grading.json") noDocument
  else placeDocument (dir / "grading.json") (grading number m)
  placeDocument (dir / "timing.json")
    (.object [("total_duration_seconds", .float m.seconds), ("total_tokens", .nat m.tokens)])

def runPlaces : List (String × Nat) :=
  configs.flatMap fun config => runNumbers.map fun number => (config, number)

def placeEval (bench : Path) (number : Nat) (measured : List Measured) : Act Unit := do
  let dir := bench / s!"eval-{number}"
  placeDocument (dir / "eval_metadata.json")
    (.object [("eval_id", .nat number), ("prompt", .text s!"prompt {number}")])
  for ((config, run), m) in runPlaces.zip measured do
    placeRun dir config run m

def placeAll (base : Path) (evals : List (List Measured)) : Act Unit := do
  let bench := base / "bench"
  for (measured, number) in evals.zipIdx do
    placeEval bench number measured
  Act.makeDirs (bench / "eval-0" / "without_skill" / "run-9")
  placeDocument (bench / "eval-x" / "with_skill" / "run-1" / "grading.json") bareGrading
  Act.makeDirs (base / "empty")
  let old := base / "legacy" / "runs" / "eval-0"
  place (old / "eval_metadata.json") noDocument
  placeDocument (old / "with_skill" / "run-1" / "grading.json") bareGrading

structure Material where
  evals : Nat
  results : Value
  samples : List Value
  report : Value

def reportOf (evals : Nat) (summary : Value) : Value :=
  .object [
    ("metadata", .object [("skill_name", .text "s"), ("executor_model", .text "m"),
      ("timestamp", .text "2026-01-01T00:00:00Z"),
      ("evals_run", .list ((List.range evals).map .nat)), ("runs_per_configuration", .int 3)]),
    ("run_summary", summary),
    ("notes", .texts ["note1", "note2"])]

def deltaOf (results : Value) : Except Fault Value := do
  return (← Benchmark.overviewOfValue results).delta.toValue

def work (m : Material) : Except Fault Value := do
  let summary := (← Benchmark.overviewOfValue m.results).toValue
  let delta ← summary.entry Benchmark.Overview.deltaName
  let first ← summary.entry "with_skill"
  let whole ← Benchmark.page (reportOf m.evals summary)
  let single ← Benchmark.page (reportOf m.evals
    (.object [("only", first), (Benchmark.Overview.deltaName, delta)]))
  let deviations ← m.samples.mapM fun sample => do
    return (← Benchmark.stats sample).stddev.toValue
  let oneRun := Measured.toValue { passRate := 0.5, seconds := 1.0, tokens := 0 }
  return .list ([
      ← delta.entry "pass_rate", ← (← first.entry "pass_rate").entry "mean",
      .nat whole.length, .text single,
      (← Benchmark.stats (.list [])).toValue, (← Benchmark.stats (.list [.float 1.0])).toValue]
    ++ deviations
    ++ [← (← m.report.entry "run_summary").entry Benchmark.Overview.deltaName,
      ← deltaOf (.object []), ← deltaOf (.object [("with_skill", .list [oneRun])])])

def drawAll (evals : Nat) : StateM Twister (List (List Measured) × Value × List Value) := do
  let onFile ← drawMany (drawMany drawRun runPlaces.length) evals
  let first ← drawMany drawRun (6 * evals)
  let second ← drawMany drawRun (6 * evals)
  let samples ← (List.range evals).mapM fun i => drawMany (modifyGet Twister.unit) (2 + i)
  let runs (measured : List Measured) : Value := .list (measured.map (·.toValue))
  return (onFile, .object [("with_skill", runs first), ("without_skill", runs second)],
    samples.map fun sample => .list (sample.map .float))

def prepare (base : Path) (evals : Nat) : Act (Act Value) := do
  let ((onFile, results, samples), _) := (drawAll evals).run (Twister.ofSeed seed)
  placeAll base onFile
  let bench := base / "bench"
  discard (Benchmark.loadResults bench)
  discard (Benchmark.loadResults (base / "empty"))
  discard (Benchmark.loadResults (base / "legacy"))
  let report ← Benchmark.report bench "s" ""
  let target := (base / "out.json").toString
  discard (Benchmark.command [bench.toString, "--skill-name", "s", "--output", target])
  discard (Benchmark.command [(base / "missing").toString])
  return Act.ofExcept (work { evals, results, samples, report })

end Grading

def grading : Workload where
  name := "aggregate_benchmark"
  parameter := "n_evals"
  sizes := [30, 120, 400]
  prepare := Grading.prepare

end SkillKit.Workload
