import SkillKit.Host
import SkillKit.Json.Writer

/-!
# Workloads

A workload is a piece of work of a chosen size, by which the speed of a part of the library can
be measured.  It is prepared once: its files are made and what need not be measured is done.
What is left is an action that can be run again and again and gives the same value each time.
-/

namespace SkillKit

structure Workload where
  name : String
  parameter : String
  sizes : List Nat
  prepare : (base : Path) → (size : Nat) → Act (Act Value)

namespace Workload

def benchName (w : Workload) : String :=
  "bench_" ++ w.name

def params (w : Workload) : Value :=
  .list (w.sizes.map fun size => .object [(w.parameter, .nat size)])

structure Performance where
  result : Value
  sameAgain : Bool

def perform (w : Workload) (base : Path) (size : Nat) : Act Performance := do
  Act.makeDirs base
  let work ← w.prepare base size
  let result ← work
  let again ← work
  return { result, sameAgain := result.same again }

/-! ## Preparing -/

def place (file : Path) (content : String) : Act Unit := do
  Act.makeDirs file.parent
  Act.writeText file content

def placeDocument (file : Path) (document : Value) : Act Unit := do
  place file (← Act.ofExcept (Json.write document))

def quietly (act : Act α) : Act α := do
  let before := (← get).events
  let result ← act
  modify fun host => { host with events := before }
  return result

def orElse (act : Act α) (other : Fault → α) : Act α := do
  match ← act.result with
  | .ok a => return a
  | .error fault => return other fault

end Workload

end SkillKit
