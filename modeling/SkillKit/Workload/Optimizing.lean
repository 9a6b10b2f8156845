import SkillKit.Optimize.Loop
import SkillKit.Workload.Basic

/-!
# Workload: optimising a description

Measured is the division of many queries, and an optimisation of two iterations during which an
assistant that is always asked the same thing gives the same answer.
-/

namespace SkillKit.Workload

namespace Optimizing

def queries (count : Nat) : Value :=
  .list ((List.range count).map fun i => .object [
    ("query", .text s!"query {i}"), ("should_trigger", .bool (i % 2 == 0))])

def skill : Skill.Header where
  name := "s"
  description := "d"
  content := "# Skill"

def plan : Optimize.Plan where
  settings := {
    workers := .int 2, timeout := .int 30, runsPerQuery := .int 1, threshold := .float 0.5
    model := .text "m" }
  skill := skill
  override := none
  maxIterations := 2
  holdout := .float 0.4
  verbose := false
  reportPath := none
  logDir := none

def answer : Reply :=
  .ended 0 "<new_description>better</new_description>" ""

def work (queries : Value) : Act Value := quietly do
  modify fun host => { host with replies := [answer], verdicts := [] }
  let parts ← Act.ofExcept (Optimize.split queries plan.holdout Optimize.defaultSeed)
  let result ← Optimize.optimize plan queries
  return .list [.nat parts.train.length, .nat parts.test.length, .text result.exitReason,
    .text result.bestScore]

def prepare (_base : Path) (count : Nat) : Act (Act Value) :=
  return work (queries count)

end Optimizing

def optimizing : Workload where
  name := "improve_and_loop"
  parameter := "n_queries"
  sizes := [40, 120, 300]
  prepare := Optimizing.prepare

end SkillKit.Workload
