import SkillKit.Gauge.Bench
import SkillKit.Json.Writer

/-!
# Coverage of a project by its benches

The benches are called while a recorder notes which lines run.  Its report gets a note on the
benches that failed, and one line sums it up.
-/

namespace SkillKit.Gauge

inductive RecorderStep where
  | make (root : Path) (omitted : List Value)
  | start
  | stop
  | report (file : Path)

structure CoverageRun where
  steps : List RecorderStep
  written : String
  summary : String

def failures (benches : List Bench) : List (String × String) :=
  benches.filterMap fun bench =>
    match bench.call 1 [] with
    | .value _ => none
    | .failed kind message => some (bench.name, kind ++ ": " ++ message)
    | .timedOut => some (bench.name, "timeout")

def annotate (report : Value) (errors : List (String × String)) (count : Nat) :
    Except Fault Value := do
  let notes ← report.lookupD "meta" (.dict [])
  let told := .object (errors.map fun (name, text) => (name, .text text))
  let notes ← notes.store "_pti_bench_errors" told
  let notes ← notes.store "_pti_n_benches" (.nat count)
  report.store "meta" notes

def coverageLine (report : Value) (errors count : Nat) : Except Fault String := do
  let totals ← report.entry "totals"
  let percent ← (← Number.ofValue (← totals.entry "percent_covered")).toFloat
  let covered ← totals.entry "covered_lines"
  let statements ← totals.entry "num_statements"
  let percent := Decimal.fixed 1 percent
  let covered := covered.display
  let statements := statements.display
  return s!"coverage: {percent}% ({covered}/{statements} stmts, {count} benches, {errors} errors)"

def runCoverage (root file : Path) (omitted : List Value) (report : Value) (suite : Suite) :
    Except Fault CoverageRun := do
  let (errors, count) := match suite with
    | .error (kind, message) => ([("<import>", kind ++ ": " ++ message)], 0)
    | .ok benches => (failures benches, benches.length)
  let report ← annotate report errors count
  return {
    steps := [.make root omitted, .start, .stop, .report file]
    written := ← Json.write report
    summary := (← coverageLine report errors.length count) ++ "\n" }

end SkillKit.Gauge
