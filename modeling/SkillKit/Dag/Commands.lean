import SkillKit.Dag.Check

/-!
# Checking workflow files

A file is checked by itself; of a directory, every program in it and below it is.
-/

namespace SkillKit.Dag

def isProgramName (name : String) : Bool :=
  Text.endsWith name ".py"

mutual

def programsIn (dir : Path) : Tree → List Path
  | .file _ => []
  | .dir entries =>
    (entries.filter fun e => isProgramName e.1).map (fun e => dir.child e.1)
      ++ programsBelow dir entries

def programsBelow (dir : Path) : List (String × Tree) → List Path
  | [] => []
  | (name, t) :: rest => programsIn (dir.child name) t ++ programsBelow dir rest

end

def checkFiles (files : List Path) : Act Bool :=
  files.foldlM (fun fine file => do return (← checkFile file) && fine) true

def checkCommand (words : List String) : Act Nat := do
  match words with
  | [] =>
    Act.log .error "Usage: validate_dag_integrity.py <path_to_python_file_or_directory>"
    return 1
  | word :: _ =>
    let target := Path.ofString word
    if ← Act.isFile target then return if ← checkFile target then 0 else 1
    if ← Act.isDir target then
      let files := programsIn target (((← get).at? target).getD (.dir []))
      if files.isEmpty then
        Act.log .warning s!"No Python files found in {target}"
        return 0
      return if ← checkFiles files then 0 else 1
    Act.log .error s!"Path not found: {target}"
    return 1

end SkillKit.Dag
