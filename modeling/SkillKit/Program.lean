import SkillKit.Analysis.Commands
import SkillKit.Benchmark.Commands
import SkillKit.Dag.Commands
import SkillKit.Optimize.Commands
import SkillKit.Review.Commands
import SkillKit.Skill.Commands

/-!
# The program

The first word of a command line names a command, and the others are for that command.
-/

namespace SkillKit.Program

def commands : List (String × (List String → Act Nat)) := [
  ("analyze", Analysis.run),
  ("benchmark", Benchmark.command),
  ("check-skill", Skill.checkCommand),
  ("check-workflows", Dag.checkCommand),
  ("evaluate", Trigger.command),
  ("improve", Optimize.improveCommand),
  ("optimize", Optimize.optimizeCommand),
  ("package", Skill.packageCommand),
  ("report", Optimize.pageCommand),
  ("review", Review.command)]

def usage : String :=
  "usage: skillkit COMMAND [WORD]...\ncommands: " ++ ", ".intercalate (commands.map (·.1))

def run (words : List String) : Act Nat := do
  match words with
  | [] =>
    Act.warnLine usage
    return 2
  | name :: rest =>
    match commands.lookup name with
    | some command => command rest
    | none =>
      Act.warnLine usage
      return 2

end SkillKit.Program
