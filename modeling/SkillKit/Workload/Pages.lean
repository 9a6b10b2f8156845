import SkillKit.Optimize.Commands
import SkillKit.Workload.Basic

/-!
# Workload: pages about optimisations

An optimisation with random outcomes is written down and shown once by the command.  Measured
is the making of its page, with and without outcomes of the queries that were held out.
-/

namespace SkillKit.Workload

namespace Pages

open SkillKit.Random

def drawOutcome (query : Nat → String) (i : Nat) : StateM Twister Value := do
  let triggers ← modifyGet (Twister.between 0 3)
  let luck ← modifyGet Twister.unit
  return .object [("query", .text (query i)), ("should_trigger", .bool (i % 2 == 0)),
    ("triggers", .nat triggers), ("runs", .int 3), ("pass", .bool (luck > 0.3))]

def trainQuery (i : Nat) : String :=
  s!"train q {i} <esc>"

def testQuery (i : Nat) : String :=
  s!"test q {i}"

def trainSize : Nat := 8

def testSize : Nat := 6

def partFields (start : String) (passed failed : Nat) (results : Value) :
    List (String × Value) := [
  (start ++ "passed", .nat passed),
  (start ++ "failed", .nat failed),
  (start ++ "total", .nat (passed + failed)),
  (start ++ "results", results)]

def attempt (hasTest : Bool) (iteration : Nat) : Value :=
  let draws : StateM Twister (List Value × List Value) := do
    let train ← (List.range trainSize).mapM (drawOutcome trainQuery)
    let test ← (List.range testSize).mapM (drawOutcome testQuery)
    return (train, test)
  let ((train, test), _) := draws.run (Twister.ofSeed iteration)
  .object ([
      ("iteration", .nat iteration),
      ("description", .text (Text.repeated 5 s!"desc iteration {iteration} "))]
    ++ partFields "train_" 6 2 (.list train)
    ++ (if hasTest then partFields "test_" 4 2 (.list test) else [])
    ++ partFields "" 6 2 (.list train))

def optimisation (hasTest : Bool) (iterations : Nat) : Value :=
  .object [
    ("original_description", .text "orig"),
    ("best_description", .text "best <esc>"),
    ("best_score", .text s!"{iterations}/?"),
    ("best_test_score", if hasTest then .text "5/6" else .null),
    ("best_train_score", .text "7/8"),
    ("iterations_run", .nat iterations),
    ("holdout", .float 0.4),
    ("train_size", .nat trainSize),
    ("test_size", .nat testSize),
    ("history", .list ((List.range iterations).map fun i => attempt hasTest (i + 1)))]

def work (withTest withoutTest : Value) : Except Fault Value := do
  let watched ← Optimize.pageOf withTest true (.text "sk")
  let plain ← Optimize.pageOf withoutTest false (.text "")
  return .list [.nat watched.length, .nat plain.length]

def prepare (base : Path) (iterations : Nat) : Act (Act Value) := do
  let withoutTest := optimisation false iterations
  let file := (base / "loop.json").toString
  let text ← Act.ofExcept (Json.write withoutTest)
  place (base / "loop.json") text
  discard (Optimize.pageCommand [file, "-o", (base / "r.html").toString])
  discard (Optimize.pageCommand [file])
  modify fun host => { host with input := text }
  discard (Optimize.pageCommand ["-"])
  return Act.ofExcept (work (optimisation true iterations) withoutTest)

end Pages

def pages : Workload where
  name := "generate_report"
  parameter := "n_iters"
  sizes := [10, 40, 150]
  prepare := Pages.prepare

end SkillKit.Workload
