import SkillKit.Skill.Package
import SkillKit.Workload.Basic

/-!
# Workload: checking skills

Many skills are written and one of them is packed once.  Measured is the reading of all headers
and the check of all skills.
-/

namespace SkillKit.Workload

namespace Skills

def content (i : Nat) : String :=
  let description := if i % 5 == 4 then "" else s!"description: Does the work of number {i}\n"
  s!"---\nname: skill-{i}\n" ++ description ++ "---\n\n# Skill\n"

def work (dirs : List Path) : Act Value := do
  let found ← dirs.mapM fun dir => do
    let header ← Skill.loadHeader dir
    return .list [.text header.name, .text (Skill.verdict (← Skill.problem? dir))]
  return .list found

def prepare (base : Path) (count : Nat) : Act (Act Value) := do
  let dirs := (List.range count).map fun i => base / "skills" / s!"skill-{i}"
  for (dir, i) in dirs.zipIdx do
    place (Skill.mainFile dir) (content i)
  for dir in dirs.take 1 do
    discard (Skill.package dir (some (base / "out")))
  return work dirs

end Skills

def skills : Workload where
  name := "skill_validate"
  parameter := "n_skills"
  sizes := [100, 250, 500]
  prepare := Skills.prepare

end SkillKit.Workload
