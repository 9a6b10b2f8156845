import SkillKit.Host

/-!
# Where settings live

Settings of warehouses and of the kernel lie in one directory of the home directory.  An older
directory is still used while the new one does not exist, with one warning.
-/

namespace SkillKit.Warehouse

def oldDir (home : Path) : Path :=
  home.join (Path.ofString ".astro/ai/config")

def newDir (home : Path) : Path :=
  home.join (Path.ofString ".astro/agents")

def oldDirWarning (home : Path) : String :=
  s!"Deprecated config path: {oldDir home}\n"
    ++ s!"  Please move your config to: {newDir home}\n"
    ++ "  Run: mv ~/.astro/ai/config ~/.astro/agents"

def oldDirNotice : String :=
  "WARNING: Using deprecated config path ~/.astro/ai/config/\n"
    ++ "  Please migrate: mv ~/.astro/ai/config ~/.astro/agents"

/-- Whether the old directory is the one in use; the first time, this is warned about. -/
def usesOldDir : Act Bool := do
  let home := (← get).home
  if (← Act.pathExists (oldDir home)) then
    if ← Act.pathExists (newDir home) then return false
    else
      if (← get).warnings.isEmpty then
        modify fun host => { host with warnings := [oldDirWarning home] }
        Act.warnLine oldDirNotice
      return true
  else return false

def settingsDir : Act Path := do
  let old ← usesOldDir
  let home := (← get).home
  return if old then oldDir home else newDir home

def kernelPlace (name : String) : Act Path := do
  let old ← usesOldDir
  let home := (← get).home
  return if old then (oldDir home).parent.child name else (newDir home).child name

def kernelEnvironmentDir : Act Path :=
  kernelPlace "kernel_venv"

def kernelConnectionFile : Act Path :=
  kernelPlace "kernel.json"

end SkillKit.Warehouse
