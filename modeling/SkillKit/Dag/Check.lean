import SkillKit.Source.Statement
import SkillKit.Host

/-!
# Checking workflow files

A file that defines workflows is read again and again by a scheduler, so its top level should
only import, assign and define.  Expressions that stand alone, loops and `try` blocks there are
told as issues.
-/

namespace SkillKit.Dag

open Source

def issue? (s : Statement) : Option String :=
  let blockIssue (kind : String) : String :=
    s!"Line {s.line}: Top-level {kind} found. Verify this is safe for the Scheduler."
  match s.kind with
  | .expression =>
    some s!"Line {s.line}: Top-level expression found. Ensure this doesn't perform I/O."
  | .forLoop => some (blockIssue "For")
  | .whileLoop => some (blockIssue "While")
  | .tryBlock => some (blockIssue "Try")
  | _ => none

def issues? (text : String) : Option (List String) :=
  (statements? text).map fun ss => ss.filterMap issue?

def checkFile (path : Path) : Act Bool := do
  match issues? (← Act.readText path) with
  | none =>
    Act.log .error s!"Syntax error in {path}"
    return false
  | some [] =>
    Act.log .success s!"{path.name} - no obvious top-level side effects"
    return true
  | some issues =>
    Act.log .warning s!"Potential issues in {path.name}:"
    for issue in issues do
      Act.log .warning s!"  - {issue}"
    Act.log .info "Airflow best practice: Avoid top-level code that connects to DBs or APIs"
    return false

end SkillKit.Dag
