import SkillKit.Dag.Commands
import SkillKit.Workload.Basic

/-!
# Workload: checking workflow files

The command checks nothing, a missing path, an empty directory, a directory and a file once.
Measured is the check of all files.
-/

namespace SkillKit.Workload

namespace Workflows

def content : String :=
  Text.repeated 20 "import os\n" ++ Text.repeated 30 "X = 1\n"
    ++ Text.repeated 10 "def f():\n    return 1\n" ++ Text.repeated 10 "class C: pass\n"
    ++ Text.repeated 10 "with open('x'):\n    pass\n" ++ Text.repeated 20 "'''doc'''\n"

def files (dir : Path) (count : Nat) : List Path :=
  (List.range count).map fun i =>
    let number := Text.padLeft '0' 3 (toString i)
    dir / s!"dag_{number}.py"

def work (files : List Path) : Act Value := do
  return .list (← files.mapM fun file => Value.bool <$> Dag.checkFile file)

def prepare (base : Path) (count : Nat) : Act (Act Value) := do
  let dir := base / "dags"
  let files := files dir count
  for file in files do
    place file content
  Act.makeDirs (base / "empty")
  discard (Dag.checkCommand [])
  for word in [base / "missing", base / "empty", dir] ++ files.take 1 do
    discard (Dag.checkCommand [word.toString])
  return work files

end Workflows

def workflows : Workload where
  name := "validate_dags"
  parameter := "n_files"
  sizes := [10, 40, 120]
  prepare := Workflows.prepare

end SkillKit.Workload
