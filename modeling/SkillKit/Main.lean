import SkillKit.Program
import Std.Time.DateTime.Timestamp

/-!
# The command line

The outer layer: it loads the files that a command may need, runs the command on them, writes
back the files that it changed and prints what it printed.  Other programs are out of its
reach, so a step that needs one fails.
-/

namespace SkillKit.Main

def maxDepth : Nat := 16

def loadTree? : (depth : Nat) → (path : String) → IO (Option Tree)
  | 0, _ => return none
  | depth + 1, path => do
    let place := (← IO.currentDir).join path
    if ← place.isDir then
      let mut entries := []
      for entry in ← place.readDir do
        if let some t ← loadTree? depth entry.path.toString then
          entries := (entry.fileName, t) :: entries
      return some (.dir (entries.mergeSort fun a b => a.1 ≤ b.1))
    else if ← place.pathExists then
      return some (.file (← IO.FS.readBinFile place))
    else return none

def loadInto (t : Tree) (path : Path) : IO Tree := do
  match ← loadTree? maxDepth path.toString with
  | some found => return found.put path.parts t
  | none => return t

def presentMoment : IO Time.Stamp := do
  let now ← Std.Time.Timestamp.now
  let micros := now.toSecondsSinceUnixEpoch.val * 1000000
  let epoch : Time.Stamp := ⟨⟨1970, 1, 1⟩, ⟨0, 0, 0, 0⟩, none⟩
  return (Time.Stamp.ofWall? (epoch.wall + micros)).getD epoch

def plainViewer : String :=
  "<!DOCTYPE html><script>" ++ Review.dataMark ++ "</script>"

def manySteps : Nat := 10000

def loadHost (words : List String) : IO Host := do
  let directory := Path.ofString (← IO.currentDir).toString
  let home := Path.ofString ((← IO.getEnv "HOME").getD "/")
  let named := (words.map fun word => directory.resolve (Path.ofString word)).filter (·.parts != [])
  let wanted := named ++ [home / ".astro", home / ".claude" / "skills", directory]
  let mut files : Tree := .dir []
  for path in wanted do
    files ← loadInto files path
  return {
    files, directory, home
    environment := Environment.set {} "HOME" home.toString
    now := ← presentMoment
    clock := Float.ofNat (← IO.monoMsNow) / 1000.0
    tick := 0.01
    replies := List.replicate manySteps (.failed (.noCommand "no other program can be run"))
    verdicts := List.replicate manySteps (.failed "no other program can be run")
    peers := List.replicate manySteps { loadFault := some "no kernel can be reached" }
    viewer := plainViewer
    hasUv := false }

def saveChanges (before after : Tree) : IO Unit := do
  let old := before.files
  let new := after.files
  let pathOf (names : List String) : Path := ⟨"/", names⟩
  for (names, content) in new do
    if !old.any fun (other, was) => names == other && content == was then
      IO.FS.createDirAll (pathOf names).parent.toString
      IO.FS.writeBinFile (pathOf names).toString content
  for (names, _) in old do
    if !new.any (·.1 == names) then IO.FS.removeFile (pathOf names).toString

def tellAll (host : Host) : IO Unit := do
  for (channel, s) in host.printed do
    match channel with
    | .out => IO.print s
    | .err => IO.eprint s
  for (level, s) in host.logs do
    IO.eprintln s!"{level.word}: {s}"

end SkillKit.Main

def main (words : List String) : IO UInt32 := do
  let host ← SkillKit.Main.loadHost words
  let (result, after) := (SkillKit.Program.run words).run.run host
  SkillKit.Main.saveChanges host.files after.files
  SkillKit.Main.tellAll after
  match result with
  | .ok code => return code.toUInt32
  | .error fault =>
    IO.eprintln s!"{fault.label}: {fault.message}"
    return 1
