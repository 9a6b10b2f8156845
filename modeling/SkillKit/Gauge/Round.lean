import SkillKit.Gauge.Verdict
import SkillKit.Decimal.Reader
import SkillKit.Host
import SkillKit.Json.Writer
import SkillKit.Text.Identifier

/-!
# A round of measuring

A round runs the coverage of a project, looks where the time of its benches goes and whether the
benches check themselves, prints what it found, and adds a line to the record of rounds.
-/

namespace SkillKit.Gauge

open Text

structure Site where
  interpreter : String
  root : Path

namespace Site

def file (site : Site) (name : String) : Path :=
  site.root.child name

def coverageFile (site : Site) : Path :=
  site.file "_pti_coverage.json"

def recordFile (site : Site) : Path :=
  site.file ".pti_checkpoint.jsonl"

def omittedFiles : List String :=
  ["*/microbench.py", "*/_pti_*.py", "*/setup.py", "*/conftest.py", "*/test_*.py", "*/*_test.py",
    "*/tests/*", "*/test/*", "*/__tests__/*", "*/__fixtures__/*", "*/_version.py"]

def coverageCommand (site : Site) : Except Fault (List String) := do
  let omitted ← Json.write (.texts omittedFiles)
  return [site.interpreter, (site.file "_pti_cov_runner.py").toString, site.root.toString,
    "microbench", site.coverageFile.toString, omitted]

def editsCommand (site : Site) : List String :=
  ["git", "-C", site.root.toString, "status", "--porcelain", "--", ".", ":!microbench.py",
    ":!_pti_*", ":!.pti_*", ":!.coverage"]

end Site

/-! ## The table of coverage -/

structure Row where
  name : String
  statements : String
  missed : String
  percent : Float
  missing : String

def nameLimit : Nat := 60

def missingLimit : Nat := 12

def missingText (lines : List Value) : String :=
  let shown := ",".intercalate ((lines.take missingLimit).map Value.display)
  if missingLimit < lines.length then shown ++ "…" else shown

def figure (v : Value) (key : String) : Except Fault Float := do
  (← Number.ofValue (← v.lookupD key (.int 0))).toFloat

def rowOf (site : Site) (path : String) (entry : Value) : Except Fault Row := do
  let summary ← entry.lookupD "summary" (.dict [])
  let below := site.root.toString ++ "/"
  let name := if Text.startsWith path below then dropChars below.length path else path
  return {
    name := takeChars nameLimit name
    statements := (← summary.lookupD "num_statements" (.int 0)).display
    missed := (← summary.lookupD "missing_lines" (.int 0)).display
    percent := ← figure summary "percent_covered"
    missing := missingText (← (← entry.lookupD "missing_lines" (.list [])).parts) }

def Row.isBefore (a b : Row) : Bool :=
  if a.percent == b.percent then a.name ≤ b.name else a.percent ≤ b.percent

def columns (statements missed cover : String) : String :=
  "  " ++ padLeft ' ' 5 statements ++ "  " ++ padLeft ' ' 4 missed ++ "  "
    ++ padLeft ' ' 5 cover

def Row.line (width : Nat) (r : Row) : String :=
  padRight width r.name ++ columns r.statements r.missed (Decimal.fixed 0 r.percent ++ "%")
    ++ "  " ++ r.missing

def tableLines (rows : List Row) (statements covered : Value) (percent : Float) :
    Except Fault (List String) := do
  let width := rows.foldl (fun w r => max w r.name.length) 4
  let rule := repeated (width + 42) "-"
  let missed ← (← Number.ofValue statements).sub (← Number.ofValue covered)
  return [padRight width "Name" ++ columns "Stmts" "Miss" "Cover" ++ "  Missing", rule]
    ++ (rows.mergeSort Row.isBefore).map (Row.line width)
    ++ [rule, padRight width "TOTAL"
      ++ columns statements.display missed.toValue.display (Decimal.fixed 0 percent ++ "%")]

/-! ## Time spent in the project -/

def shareFloor : Float := 45.0

def isBelow (percentage : Float) : Bool :=
  0.0 ≤ percentage && percentage < shareFloor

def hotText (hot : Value) (name : String) : Except Fault String := do
  let modules ← (← hot.lookupD name (.list [])).parts
  if modules.isEmpty then return ""
  let told ← modules.mapM fun pair => do
    match ← pair.parts with
    | [share, module] =>
      let share := Decimal.fixed 0 (← (← Number.ofValue share).toFloat)
      return module.display ++ " " ++ share ++ "%"
    | _ => throw .unusable
  return " (hot: " ++ " ".intercalate told ++ ")"

def shareLine (hot : Value) (name : String) (percentage : Float) : Except Fault String := do
  let mark := if isBelow percentage then "*" else " "
  let shown := Decimal.fixed 1 (if percentage < 0.0 then 0.0 else percentage)
  let note ← if percentage < 0.0 then pure "  <error>"
    else if isBelow percentage then hotText hot name else pure ""
  return "  " ++ mark ++ " " ++ padRight 32 name ++ " " ++ padLeft ' ' 5 shown ++ "%" ++ note

def readShares (told : Value) : Except Fault (List (String × Float) × Value) := do
  let fields ← (← told.lookupD "repo_time_pct" (.dict [])).fieldsFor "items"
  let shares ← fields.mapM fun (name, v) => do
    let x ← match v with
      | .text s => match Decimal.readFloat? s with
        | some x => pure x
        | none => throw .unusable
      | v => (← Number.ofValue v).toFloat
    return (name.display, x)
  return (shares, ← told.lookupD "hot_ext" (.dict []))

def shareLines (shares : List (String × Float)) (hot : Value) : Except Fault (List String) := do
  if shares.isEmpty then return []
  let sorted := shares.mergeSort fun a b => a.2 ≤ b.2
  let rows ← sorted.mapM fun (name, x) => shareLine hot name x
  return ["", "repo_time (target 50%; * = below 45%):"] ++ rows

/-! ## Verdicts -/

def remedies : List String :=
  ["  returns-none: run() has no return — collect and return the call results",
    "  unstable: seed RNG in setup; avoid time/uuid/id in the return",
    "  returns-input: return repo output, not the parameter value",
    "  low-repo-time: <50% of run() time is in repo code — move glue to setup",
    "  param-invariant: return something derived from run()'s work, not setup",
    "  repo-modified: revert edits to repo files (git checkout -- <path>)"]

def Judged.line (j : Judged) : String :=
  let mark := if j.verdict.isFine then " " else "*"
  let share := Decimal.fixed 0 (j.share * 100.0)
  let millis := Decimal.fixed 1 j.millis
  "  " ++ mark ++ " " ++ padRight 32 j.name ++ " " ++ padRight 16 j.verdict.text
    ++ s!" ({j.returned}, repo {share}%) {millis}ms"

def readVerdicts (edited : Bool) (told : Value) : Except Fault (List Judged) := do
  let fields ← (← told.lookupD "semcheck" (.dict [])).fieldsFor "items"
  let known := fields.filter fun (_, v) => match v with
    | .dict _ => true
    | _ => false
  known.mapM fun (name, facts) => judged edited name.display facts

def verdictLines (all : List Judged) : List String :=
  if all.isEmpty then []
  else
    let (fine, troubled) := all.partition (·.verdict.isFine)
    ["", "self-check (* = fix needed):"] ++ remedies ++ (troubled ++ fine).map Judged.line

/-! ## Actions -/

def lastDocument (printed : String) : Except Fault Value :=
  match (Text.lines (strip printed)).getLast? with
  | some line => if (strip printed).isEmpty then .ok (.dict []) else Json.read line
  | none => .ok (.dict [])

def runStep (site : Site) (program title : String) (other : α) (step : Act α) : Act α := do
  if !(← Act.pathExists (site.file program)) then return other
  match ← Act.result step with
  | .ok a => return a
  | .error fault =>
    Act.warnLine s!"[{title} runner: {fault.label}: {fault.message}]"
    return other

def findShares (site : Site) : Act (List (String × Float) × Value) := do
  let command := [site.interpreter, (site.file "_pti_repotime.py").toString]
  let done ← Act.runCommand command none none
  Act.ofExcept do readShares (← lastDocument done.out)

def findEdits (site : Site) : Act Bool := do
  match ← Act.result (Act.runCommand site.editsCommand none none) with
  | .ok done => return !(strip done.out).isEmpty
  | .error _ => return false

def findVerdicts (site : Site) : Act (List Judged) := do
  let edited ← findEdits site
  let names := ((← get).environment.set "PYTHONHASHSEED" "0").names.mergeSort (· ≤ ·)
  let command := [site.interpreter, (site.file "_pti_semcheck.py").toString]
  let done ← Act.runCommand command none (some names)
  Act.ofExcept do readVerdicts edited (← lastDocument done.out)

def definesBench (line : String) : Bool :=
  match dropPrefix? "def bench_".toList line.toList with
  | none => false
  | some rest =>
    let name := rest.takeWhile fun c => isAlphanumeric c || c == '_'
    let behind := (rest.drop name.length).dropWhile isBlank
    !name.isEmpty && behind.head? == some '('

def countBenches (site : Site) : Act Nat := do
  let file := site.file "microbench.py"
  if !(← Act.pathExists file) then return 0
  return ((splitOnChar '\n' (← Act.readText file)).filter definesBench).length

structure Measured where
  percent : Float
  covered : Value
  statements : Value
  benches : Nat
  errors : Nat
  seconds : Float
  shares : List (String × Float)
  verdicts : List Judged

def Measured.below (m : Measured) : Nat :=
  (m.shares.filter fun s => isBelow s.2).length

def Measured.troubled (m : Measured) : Nat :=
  (m.verdicts.filter fun j => !j.verdict.isFine).length

def Measured.entry (m : Measured) (round : Nat) (time sincePrevious : Float) : Value :=
  .object [
    ("round", .nat round),
    ("ts", .float time),
    ("wall_since_prev_s", .float (Decimal.roundTo 2 sincePrevious)),
    ("coverage_pct", .float m.percent),
    ("covered_lines", m.covered),
    ("num_statements", m.statements),
    ("n_bench_fns", .nat m.benches),
    ("n_bench_errors", .nat m.errors),
    ("cov_measure_s", .float (Decimal.roundTo 3 m.seconds)),
    ("repo_time_pct", .object (m.shares.map fun (name, x) => (name, .float x))),
    ("n_below_repo_time", if m.shares.isEmpty then .null else .nat m.below),
    ("semcheck", .object (m.verdicts.map fun j => (j.name, .text j.verdict.text))),
    ("n_not_self_checking", .nat m.troubled)]

def recordLines (site : Site) : Act (List String) := do
  if !(← Act.pathExists site.recordFile) then return []
  return (Text.lines (← Act.readText site.recordFile)).filter fun line => !(strip line).isEmpty

def addToRecord (site : Site) (m : Measured) (earlier : List String) : Act Unit := do
  let time ← Act.readClock
  let before ← match earlier.getLast? with
    | none => pure time
    | some line => Act.ofExcept do (← Number.ofValue (← (← Json.read line).entry "ts")).toFloat
  let line ← Act.ofExcept (Json.write (m.entry (earlier.length + 1) time (time - before)))
  let old ← if ← Act.pathExists site.recordFile then Act.readText site.recordFile else pure ""
  Act.writeText site.recordFile (old ++ line ++ "\n")

def Measured.summary (m : Measured) (round : Nat) : String :=
  let percent := Decimal.fixed 1 m.percent
  let seconds := Decimal.fixed 1 m.seconds
  let valid := (m.shares.filter fun s => 0.0 ≤ s.2).length
  let shares := if m.shares.isEmpty then ""
    else s!", {m.below}/{valid} below repo_time 45%"
  let checks := if m.verdicts.isEmpty then ""
    else s!", {m.troubled}/{m.verdicts.length} not self-checking"
  s!"[round {round}: {m.benches} benches, {percent}% covered{shares}{checks}, measured in {seconds}s]"

def coverageGoal : Float := 60.0

def Measured.isDone (m : Measured) : Bool :=
  !m.shares.isEmpty && m.below == 0 && m.troubled == 0 && coverageGoal ≤ m.percent

def errorLimit : Nat := 8

def round (site : Site) : Act Nat := do
  let began ← Act.readClock
  let done ← Act.runCommand (← Act.ofExcept site.coverageCommand) none none
  let ended ← Act.readClock
  if done.code != 0 || !(← Act.pathExists site.coverageFile) then
    Act.printLine s!"coverage measurement failed (exit {done.code})"
    Act.printLine (dropChars (done.err.length - 2000) done.err)
    return 1
  let report ← Act.ofExcept (Json.read (← Act.readText site.coverageFile))
  let totals ← Act.ofExcept (report.lookupD "totals" (.dict []))
  let percent ← Act.ofExcept (figure totals "percent_covered")
  let statements ← Act.ofExcept (totals.lookupD "num_statements" (.int 0))
  let covered ← Act.ofExcept (totals.lookupD "covered_lines" (.int 0))
  let errors ← Act.ofExcept do
    let notes ← report.lookupD "meta" (.dict [])
    (← notes.lookupD "_pti_bench_errors" (.dict [])).fieldsFor "items"
  let rows ← Act.ofExcept do
    let files ← (← report.lookupD "files" (.dict [])).fieldsFor "items"
    files.mapM fun (path, entry) => rowOf site path.display entry
  (← Act.ofExcept (tableLines rows statements covered percent)).forM Act.printLine
  if !errors.isEmpty then
    Act.printLine s!"\n{errors.length} bench error(s):"
    (errors.take errorLimit).forM fun (name, text) =>
      Act.printLine s!"  {name.display}: {text.display}"
  let (shares, hot) ← runStep site "_pti_repotime.py" "repotime" ([], .dict [])
    (findShares site)
  (← Act.ofExcept (shareLines shares hot)).forM Act.printLine
  let verdicts ← runStep site "_pti_semcheck.py" "semcheck" [] (findVerdicts site)
  (verdictLines verdicts).forM Act.printLine
  let m : Measured :=
    { percent, covered, statements, benches := ← countBenches site, errors := errors.length
      seconds := ended - began, shares, verdicts }
  let earlier ← recordLines site
  let _ ← Act.result (addToRecord site m earlier)
  Act.printLine ("\n" ++ m.summary (earlier.length + 1))
  if m.isDone then
    Act.printLine
      "\n>>> STOP: repo_time converged (0 below). Finalize microbench.py now. <<<"
  return 0

end SkillKit.Gauge
