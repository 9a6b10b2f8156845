import SkillKit.Proofs.Trigger.Exit
import SkillKit.Proofs.Files.Named

/-!
# What a query leaves behind

However a query ends, the file of its command is gone and no other file has changed, and a process
that was started has ended or was killed (`Attended`).  The command goes to a place where nothing
stands (`Unused`), so what is removed at the end is what was written before.
-/

namespace SkillKit.Trigger

open Act

variable {host : Host} {files : Tree}

def Query.commandFile (q : Query) (uniqueId : String) : Path :=
  q.commandDir.child (q.commandName uniqueId ++ ".md")

/-- The part of a query that is cleaned up after. -/
def attempt (starting : Except Fault Unit) (q : Query) (uniqueId : String) : Act Bool := do
  Act.makeDirs q.commandDir
  Act.writeText (q.commandFile uniqueId) q.commandText
  Act.ofExcept starting
  watchProcess q (q.commandName uniqueId)

end SkillKit.Trigger
