import SkillKit.Skill.Package

/-!
# Commands for skills

Packing a skill into an archive, and checking it.
-/

namespace SkillKit.Skill

def packageUsage : List String := [
  "Usage: python utils/package_skill.py <path/to/skill-folder> [output-directory]",
  "\nExample:",
  "  python utils/package_skill.py skills/public/my-skill",
  "  python utils/package_skill.py skills/public/my-skill ./dist"]

def packageCommand (words : List String) : Act Nat := do
  match words with
  | [] =>
    packageUsage.forM Act.printLine
    return 1
  | dir :: rest =>
    let output := rest.head?.filter (!·.isEmpty)
    Act.printLine s!"📦 Packaging skill: {dir}"
    if let some output := output then Act.printLine s!"   Output directory: {output}"
    Act.printLine ""
    let packed ← package (Path.ofString dir) (output.map Path.ofString)
    return if packed.isSome then 0 else 1

def checkCommand (words : List String) : Act Nat := do
  match words with
  | [dir] =>
    let found ← problem? (Path.ofString dir)
    Act.printLine (verdict found)
    return if found.isNone then 0 else 1
  | _ =>
    Act.printLine "Usage: python quick_validate.py <skill_directory>"
    return 1

end SkillKit.Skill
