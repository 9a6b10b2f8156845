import SkillKit.Benchmark.Report
import SkillKit.Console.Form
import SkillKit.Json.Writer

/-!
# The benchmark command

Writes the report on a benchmark and its page, and tells the pass rates.
-/

namespace SkillKit.Benchmark

open Console (Form)

def form : Form :=
  { name := "benchmark"
    about := "Aggregate benchmark run results into summary statistics"
    arguments := [{ name := "benchmark_dir" }]
    options := [
      { name := "skill_name", words := ["--skill-name"], default := .text ""
        help := "Name of the skill being benchmarked" },
      { name := "skill_path", words := ["--skill-path"], default := .text ""
        help := "Path to the skill being benchmarked" },
      { name := "output", words := ["--output", "-o"]
        help := "Output path for benchmark.json (default: <benchmark_dir>/benchmark.json)" }] }

def passRateLine (summary config : Value) : Except Fault String := do
  let stats ← (← summary.entry config.display).entry "pass_rate"
  let rate ← percentText 1 (← stats.entry "mean")
  let name ← label config
  return s!"  {name}: {rate} pass rate"

def tellSummary (report : Value) : Act Unit := do
  let summary ← Act.ofExcept (report.entry "run_summary")
  Act.printLine "\nSummary:"
  for config in ← Act.ofExcept (configNames summary) do
    Act.printLine (← Act.ofExcept (passRateLine summary config))
  let delta ← Act.ofExcept (summary.lookupD Overview.deltaName (.dict []))
  let rate ← Act.ofExcept (delta.lookupD "pass_rate" (.text "—"))
  Act.printLine s!"  Delta:         {rate.display}"

def writeReport (fields : Fields) : Act Nat := do
  let dir := Console.path fields "benchmark_dir"
  if !(← Act.pathExists dir) then
    Act.printLine s!"Directory not found: {dir}"
    return 1
  let data ← report dir (Console.text fields "skill_name") (Console.text fields "skill_path")
  let target := (Console.path? fields "output").getD (dir.child "benchmark.json")
  let some pageTarget := target.withSuffix? ".md" | throw .unusable
  Act.writeText target (← Act.ofExcept (Json.writeIndented data))
  Act.printLine s!"Generated: {target}"
  Act.writeText pageTarget (← Act.ofExcept (page data))
  Act.printLine s!"Generated: {pageTarget}"
  tellSummary data
  return 0

def command (words : List String) : Act Nat :=
  form.run writeReport words

end SkillKit.Benchmark
