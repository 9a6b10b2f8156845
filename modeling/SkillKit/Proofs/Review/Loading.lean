import SkillKit.Review.Runs
import SkillKit.Proofs.Run
import SkillKit.Proofs.Text.Utf8

/-!
# Loading the runs of a workspace

Loading a run reads files and changes nothing (`keeps_loadRun`), so each run of a workspace is loaded
from the same files.  `Finds host workspace found` says which runs these are, in the order of their
paths; the runs of the workspace are those, sorted by their ranks (`exec_loadRuns`).
-/

namespace SkillKit.Review

open Act Text

variable {host : Host} {workspace : Path}

/-! ## Loading changes nothing -/

section Keeps

variable {γ : Type} {part : Host → γ}

theorem keeps_loadJson? (file : Path) : Keeps part (loadJson? file) := by
  unfold loadJson?
  refine .bind (.pathExists file) fun there => .ite (.pure _) ?_
  refine .bind (.result (.bind (.readText file) fun s => .ofExcept _)) fun r => ?_
  cases r with
  | ok v => exact .pure _
  | error f => exact .ite (.pure _) (.throw f)

theorem keeps_loadText? (file : Path) : Keeps part (loadText? file) := by
  unfold loadText?
  refine .bind (.pathExists file) fun there => .ite (.pure _) ?_
  refine .bind (.result (.readText file)) fun r => ?_
  cases r with
  | ok s => exact .pure _
  | error f => exact .ite (.pure _) (.throw f)

theorem keeps_promptAndEval (files : List Path) (prompt evalId : Value) :
    Keeps part (promptAndEval files prompt evalId) := by
  induction files generalizing prompt evalId with
  | nil => exact .pure _
  | cons file rest ih =>
    unfold promptAndEval
    refine .bind (keeps_loadJson? file) fun metadata => ?_
    cases metadata with
    | none => exact .bind (.pure _) fun _ => .ite (.pure _) (ih _ _)
    | some metadata =>
      exact .bind (.ofExcept _) fun _ => .bind (.ofExcept _) fun _ =>
        .bind (.pure _) fun _ => .ite (.pure _) (ih _ _)

theorem keeps_promptFrom (files : List Path) (prompt : Value) :
    Keeps part (promptFrom files prompt) := by
  induction files generalizing prompt with
  | nil => exact .pure _
  | cons file rest ih =>
    unfold promptFrom
    exact .bind (keeps_loadText? file) fun _ => .ite (.pure _) (ih _)

theorem keeps_gradingFrom (files : List Path) (grading : Value) :
    Keeps part (gradingFrom files grading) := by
  induction files generalizing grading with
  | nil => exact .pure _
  | cons file rest ih =>
    unfold gradingFrom
    exact .bind (keeps_loadJson? file) fun _ => .ite (.pure _) (ih _)

theorem keeps_loadOutput (file : Path) : Keeps part (loadOutput file) := by
  unfold loadOutput
  refine .bind (.result (.readBytes file)) fun r => ?_
  cases r with
  | ok b => exact .pure _
  | error f => exact .ite (.pure _) (.throw f)

theorem keeps_loadOutputs (dir : Path) : Keeps part (loadOutputs dir) :=
  .bind (.listDir dir) fun _ => .mapM fun _ _ => keeps_loadOutput _

theorem keeps_loadRun (workspace : Path) (path : List String) :
    Keeps part (loadRun workspace path) := by
  refine .bind (keeps_promptAndEval _ _ _) fun found => ?_
  have hrest : ∀ prompt : Value, Keeps part (do
      let outputs ← loadOutputs ((workspace.join ⟨"", path⟩).child "outputs")
      let grading ← gradingFrom [(workspace.join ⟨"", path⟩).child "grading.json",
        (workspace.join ⟨"", path⟩).parent.child "grading.json"] .null
      return ({ id := runId path, prompt, evalId := found.2, outputs, grading } : Run)) :=
    fun prompt => .bind (keeps_loadOutputs _) fun _ =>
      .bind (keeps_gradingFrom _ _) fun _ => .pure _
  exact .ite (.bind (.pure _) fun _ => hrest _) (.bind (keeps_promptFrom _ _) fun _ => hrest _)

theorem keeps_loadRuns (workspace : Path) : Keeps part (loadRuns workspace) :=
  .bind (fun _ => rfl) fun _ => .bind (.mapM fun _ _ => keeps_loadRun _ _) fun _ => .ofExcept _

end Keeps

/-! ## Single files and runs -/

theorem exec_loadJson? {file : Path} {s : String} {v : Value}
    (hfile : host.files.find (host.locate file) = .ok (.file s.toUTF8))
    (hread : Json.read (unifyLines s) = .ok v) :
    exec (loadJson? file) host = (.ok (some v), host) := by
  have hexists : exec (pathExists file) host = (.ok true, host) := by
    rw [exec_pathExists, Tree.exists?, hfile]
  have htext : exec (readText file) host = (.ok (unifyLines s), host) := by
    rw [exec_readText, Tree.readText, Tree.readBytes, hfile]
    simp only [Result.ok_bind, decode?_toUTF8]
  have hresult : exec (result (do Act.ofExcept (Json.read (← readText file)))) host =
      (.ok (.ok v), host) := by
    rw [exec_result, exec_bind_ok htext, exec_ofExcept, hread]
  rw [loadJson?, exec_bind_ok hexists]
  simp only [Bool.not_true, Bool.false_eq_true, if_false]
  rw [exec_bind_ok hresult]
  rfl

theorem exec_loadJson?_none {file : Path}
    (hfile : host.files.exists? (host.locate file) = .ok false) :
    exec (loadJson? file) host = (.ok none, host) := by
  rw [loadJson?, exec_bind_ok (by rw [exec_pathExists, hfile])]
  rfl

theorem exec_loadRun {path : List String} {metadata prompt evalId : Value} {outputs : List Output} (hmetadata : exec (loadJson? ((workspace.join ⟨"", path⟩).child "eval_metadata.json")) host =
      (.ok (some metadata), host))
    (hprompt : metadata.lookupD "prompt" (.text "") = .ok prompt) (htruthy : prompt.truthy = true)
    (heval : metadata.lookupD "eval_id" .null = .ok evalId) (houtputs : exec (loadOutputs ((workspace.join ⟨"", path⟩).child "outputs")) host =
      (.ok outputs, host)) (hgrading : ∀ file ∈ [(workspace.join ⟨"", path⟩).child "grading.json",
      (workspace.join ⟨"", path⟩).parent.child "grading.json"],
      exec (loadJson? file) host = (.ok none, host)) :
    exec (loadRun workspace path) host =
      (.ok ⟨runId path, prompt, evalId, outputs, .null⟩, host) := by
  have hfound : exec (promptAndEval [(workspace.join ⟨"", path⟩).child "eval_metadata.json",
      (workspace.join ⟨"", path⟩).parent.child "eval_metadata.json"] (.text "") .null) host =
      (.ok (prompt, evalId), host) := by
    rw [promptAndEval, exec_bind_ok hmetadata]
    simp only [hprompt, heval]
    rw [exec_bind_ok (exec_ofExcept _ _), exec_bind_ok (exec_ofExcept _ _),
      exec_bind_ok (exec_pure _ _)]
    simp only [htruthy, if_true, exec_pure]
  have hgraded : exec (gradingFrom [(workspace.join ⟨"", path⟩).child "grading.json",
      (workspace.join ⟨"", path⟩).parent.child "grading.json"] .null) host = (.ok .null, host) := by
    rw [gradingFrom, exec_bind_ok (hgrading _ (by simp))]
    simp only [Option.getD_none]
    rw [if_neg (by decide), gradingFrom, exec_bind_ok (hgrading _ (by simp))]
    rfl
  rw [loadRun, exec_bind_ok hfound]
  simp only [htruthy, if_true]
  rw [exec_bind_ok (exec_pure _ _), exec_bind_ok houtputs, exec_bind_ok hgraded]
  simp only [htruthy, if_true, exec_pure]

theorem exec_loadOutputs_nil {dir : Path} (h : host.files.find (host.locate dir) = .ok (.dir [])) :
    exec (loadOutputs dir) host = (.ok [], host) := by
  have hlist : exec (listDir dir) host = (.ok [], host) := by
    rw [exec_listDir, Tree.entriesAt, h]
    simp
  rw [loadOutputs, exec_bind_ok hlist]
  rfl

/-! ## The runs that are found -/

/-- The runs in the directories of a workspace that hold outputs, in the order of their paths. -/
def Finds (host : Host) (workspace : Path) (found : List Run) : Prop :=
  List.Forall₂ (fun path r => (exec (loadRun workspace path) host).1 = .ok r)
    (runPaths ((host.at? workspace).getD (.dir []))) found

/-- The tree of a workspace; where there is none, it has no entries. -/
def spaceOf (host : Host) (workspace : Path) : Tree :=
  (host.at? workspace).getD (.dir [])

/-- The runs of a workspace in the order in which the search comes across them. -/
def collectRuns (workspace : Path) : Act (List Run) := do
  (runPaths (spaceOf (← get) workspace)).mapM (loadRun workspace)

theorem loadRuns_eq (workspace : Path) : loadRuns workspace = (do
    Act.ofExcept (Value.sortBy Run.rank (← collectRuns workspace))) := by
  unfold loadRuns collectRuns spaceOf
  simp only [bind_assoc]

theorem exec_collectRuns {found : List Run} (h : Finds host workspace found) :
    exec (collectRuns workspace) host = (.ok found, host) := by
  rw [collectRuns, exec_bind_ok (exec_get host)]
  refine exec_mapM_ok (h.imp fun path r hr => ?_)
  have hkeeps : Keeps id (loadRun workspace path) := keeps_loadRun workspace path
  exact Prod.ext hr (hkeeps host)

theorem exec_loadRuns {found : List Run} (h : Finds host workspace found) :
    exec (loadRuns workspace) host = (Value.sortBy Run.rank found, host) := by
  rw [loadRuns_eq, exec_bind_ok (exec_collectRuns h), exec_ofExcept]

end SkillKit.Review
