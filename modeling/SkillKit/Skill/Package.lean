import SkillKit.Skill.Check
import SkillKit.Archive.Basic

/-!
# Packaging skills

A skill that has no problem is packed into one archive: all files of its directory, except
caches, installed packages, compiled code and the tests that stand in its `evals` directory.
-/

namespace SkillKit.Skill

open Text

def isExcluded (p : Path) : Bool :=
  p.allParts.any (fun n => n == "__pycache__" || n == "node_modules")
    || p.allParts[1]? == some "evals"
    || p.name == ".DS_Store"
    || endsWith p.name ".pyc"

def packageFiles (name : String) (t : Tree) : List (Path × ByteArray) :=
  t.files.map fun (parts, content) => (⟨"", name :: parts⟩, content)

def members (name : String) (t : Tree) : List Archive.Member :=
  (packageFiles name t).filterMap fun (p, content) =>
    if isExcluded p then none else some ⟨p.toString, content.toList⟩

def isPackable (dir : Path) : Act Bool := do
  if !(← Act.pathExists dir) then
    Act.printLine s!"❌ Error: Skill folder not found: {dir}"
    return false
  if !(← Act.isDir dir) then
    Act.printLine s!"❌ Error: Path is not a directory: {dir}"
    return false
  if !(← Act.pathExists (mainFile dir)) then
    Act.printLine s!"❌ Error: SKILL.md not found in {dir}"
    return false
  Act.printLine "🔍 Validating skill..."
  let found ← problem? dir
  if found.isSome then
    Act.printLine s!"❌ Validation failed: {verdict found}"
    Act.printLine "   Please fix the validation errors before packaging."
    return false
  Act.printLine s!"✅ {verdict found}\n"
  return true

def outputPlace (output : Option Path) : Act Path := do
  match output with
  | some o =>
    let o ← Act.resolvePath o
    Act.makeDirs o
    return o
  | none => return (← get).directory

def archivePath (dir place : Path) : Path :=
  place.child s!"{dir.name}.skill"

def writeArchive (dir target : Path) : Act (Option Path) := do
  -- the archive is there, still empty, while the files are gathered
  match ← (Act.writeBytes target ByteArray.empty).result with
  | .error fault =>
    Act.printLine s!"❌ Error creating .skill file: {fault.about target.toString}"
    return none
  | .ok () =>
    let host ← get
    let tree := (host.at? dir).getD (.dir [])
    for (p, _) in packageFiles dir.name tree do
      Act.printLine (if isExcluded p then s!"  Skipped: {p}" else s!"  Added: {p}")
    Act.writeBytes target ⟨(Archive.encode host.now (members dir.name tree)).toArray⟩
    Act.printLine s!"\n✅ Successfully packaged skill to: {target}"
    return some target

/-- Packs the skill in a directory; the path of the archive, or nothing if the skill has a problem.
-/
def package (dir : Path) (output : Option Path) : Act (Option Path) := do
  let dir ← Act.resolvePath dir
  if !(← isPackable dir) then return none
  writeArchive dir (archivePath dir (← outputPlace output))

/-! ## Order of the lines that are printed -/

def isMemberLine (line : String) : Bool :=
  Text.startsWith line "  Added: " || Text.startsWith line "  Skipped: "

def fillMemberLines : (lines members : List String) → List String
  | [], _ => []
  | line :: lines, members =>
    if isMemberLine line then members.head?.getD line :: fillMemberLines lines members.tail
    else line :: fillMemberLines lines members

/-- The text with its lines about files sorted among their own places, so that it does not
depend on the order in which a directory is listed. -/
def sortMemberLines (printed : String) : String :=
  let lines := printed.splitOn "\n"
  "\n".intercalate (fillMemberLines lines ((lines.filter isMemberLine).mergeSort (· ≤ ·)))

end SkillKit.Skill
