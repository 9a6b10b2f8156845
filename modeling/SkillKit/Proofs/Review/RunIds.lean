import SkillKit.Proofs.Review.Discovery
import SkillKit.Proofs.Review.Previous

/-!
# Names of runs

The name of a run is its path with hyphens in place of slashes.  A hyphen may also stand in the name
of a directory, so the name only tells the words of the path (`runId_eq_iff`).  Of several runs of one
name, the next iteration knows the outputs of the last one.
-/

namespace SkillKit

open List

variable {path : List String}

theorem Text.intercalate_splitWhen (sep : Char) (cs : List Char) :
    [sep].intercalate (splitWhen (· == sep) cs) = cs := by
  rw [splitWhen_eq, ← splitOn_eq_splitOnP, intercalate_splitOn]

namespace Review

open Act Text

/-! ## Words of a path -/

/-- Whether a character sets words apart. -/
def isBreak (c : Char) : Bool :=
  c == '-' || c == '/' || c == '\\'

/-- The words of a path, in order. -/
def words (path : List String) : List (List Char) :=
  path.flatMap fun name => splitWhen isBreak name.toList

/-- The character that stands in a name for one of a path. -/
def hyphened (c : Char) : Char :=
  if c == '/' || c == '\\' then '-' else c

theorem splitWhen_map_hyphened (cs : List Char) :
    splitWhen (· == '-') (cs.map hyphened) = splitWhen isBreak cs := by
  induction cs with
  | nil => rfl
  | cons c rest ih =>
    rw [map_cons]
    by_cases hc : isBreak c = true
    · have hhyphen : (hyphened c == '-') = true := by
        simp only [isBreak, Bool.or_eq_true, beq_iff_eq] at hc
        rcases hc with (rfl | rfl) | rfl <;> rfl
      rw [splitWhen_cons_of_splits (p := (· == '-')) hhyphen, splitWhen_cons_of_splits hc, ih]
    · have hsame : hyphened c = c := by
        unfold hyphened
        rw [if_neg]
        simp_all [isBreak]
      have hother : (c == '-') = false := by simp_all [isBreak]
      obtain ⟨piece, pieces, hpieces⟩ := exists_cons_of_ne_nil (splitWhen_ne_nil isBreak rest)
      rw [hsame, splitWhen_cons_of_not (p := (· == '-')) hother (ih.trans hpieces),
        splitWhen_cons_of_not (by simpa using hc) hpieces]

theorem splitWhen_intercalate (h : path ≠ []) :
    splitWhen isBreak ("/".intercalate path).toList = words path := by
  induction path with
  | nil => exact absurd rfl h
  | cons name rest ih =>
    cases rest with
    | nil => simp [words]
    | cons next rest =>
      rw [String.intercalate_cons_cons, String.toList_append, String.toList_append,
        append_assoc]
      show splitWhen isBreak (name.toList ++ '/' :: ("/".intercalate (next :: rest)).toList) = _
      rw [splitWhen_append_splits rfl, ih (cons_ne_nil _ _)]
      rfl

theorem splitWhen_runId (h : path ≠ []) :
    splitWhen (· == '-') (runId path).toList = words path := by
  have hpath : (⟨"", path⟩ : Path).toString = "/".intercalate path := by
    have hparts : path.isEmpty = false := by simpa using h
    simp [Path.toString, hparts]
  have hname : (runId path).toList = (⟨"", path⟩ : Path).toString.toList.map hyphened := by
    rw [runId, String.toList_ofList]
    rfl
  rw [hname, hpath, splitWhen_map_hyphened, splitWhen_intercalate h]

theorem runId_eq_iff {p q : List String} (hp : p ≠ []) (hq : q ≠ []) :
    runId p = runId q ↔ words p = words q := by
  rw [← splitWhen_runId hp, ← splitWhen_runId hq]
  constructor
  · intro h
    rw [h]
  · intro h
    have hjoin := congrArg (['-'].intercalate ·) h
    simp only [intercalate_splitWhen] at hjoin
    exact String.toList_inj.mp hjoin

/-! ## Names of the runs of a workspace -/

theorem perm_ids {host : Host} {workspace : Path} {runs : List Run}
    (h : (exec (loadRuns workspace) host).1 = .ok runs) :
    (runs.map (·.id)).Perm ((runPaths (spaceOf host workspace)).map runId) := by
  obtain ⟨final, hrun⟩ : ∃ final, exec (loadRuns workspace) host = (.ok runs, final) :=
    ⟨_, Prod.ext h rfl⟩
  rw [loadRuns_eq] at hrun
  obtain ⟨found, host₁, hfound, hsort⟩ := of_exec_bind_ok hrun
  rw [exec_ofExcept, Prod.mk.injEq] at hsort
  -- Each run is loaded from the host as it was.
  have hkeeps : ∀ path ∈ runPaths (spaceOf host workspace), Keeps id (loadRun workspace path) :=
    fun path _ => keeps_loadRun workspace path
  have hloaded := Keeps.forall₂_mapM hkeeps hfound
  have hids : found.map (·.id) = (runPaths (spaceOf host workspace)).map runId := by
    rw [← forall₂_eq_eq_eq, forall₂_map_left_iff, forall₂_map_right_iff]
    refine hloaded.flip.imp ?_
    rintro r path ⟨host₁, host₂, -, hpath⟩
    exact (of_loadRun (congrArg Prod.fst hpath)).1
  rw [← hids]
  exact (Value.sortBy_perm hsort.1).map _

theorem told_apart_iff {t : Tree} {p q : List String} (hp : IsRunPath t p) (hq : IsRunPath t q) :
    (runId p = runId q → p = q) ↔ (words p = words q → p = q) := by
  by_cases hroot : HasOutputs t []
  · -- The workspace itself is the only run.
    have hsame : p = q :=
      ((isRunPath_of_hasOutputs hroot p).mp hp).trans ((isRunPath_of_hasOutputs hroot q).mp hq).symm
    exact ⟨fun _ _ => hsame, fun _ _ => hsame⟩
  · have hne {path : List String} (hpath : IsRunPath t path) : path ≠ [] := by
      intro hnil
      exact hroot (hnil ▸ hpath.outputs)
    rw [runId_eq_iff (hne hp) (hne hq)]

/-- The runs of a workspace have different names exactly if no two of their paths have the same
words.  Under its name stand the outputs of a run in the next iteration, unless another one of that
name is listed behind it. -/
theorem runs_told_apart {host : Host} {workspace : Path} {runs : List Run}
    (hnamed : (spaceOf host workspace).wellNamed = true)
    (h : (exec (loadRuns workspace) host).1 = .ok runs) :
    ((runs.map (·.id)).Nodup ↔ ∀ p q, IsRunPath (spaceOf host workspace) p →
      IsRunPath (spaceOf host workspace) q → words p = words q → p = q) ∧
    ∀ earlier, (exec (loadPrevious workspace) host).1 = .ok earlier →
      ∀ before r after, runs = before ++ r :: after →
        ∃ e s, about? earlier r.id = some e ∧ e.outputs = s.outputs ∧ s ∈ r :: after ∧
          s.id = r.id ∧ ((∀ s ∈ after, s.id ≠ r.id) → s = r) := by
  constructor
  · rw [(perm_ids h).nodup_iff, nodup_map_iff_inj_on (nodup_runPaths hnamed)]
    simp only [mem_runPaths hnamed]
    constructor
    · intro hinj p q hp hq
      exact (told_apart_iff hp hq).mp (hinj p hp q hq)
    · intro hinj p hp q hq
      exact (told_apart_iff hp hq).mpr (hinj p q hp hq)
  · intro earlier hearlier before r after hruns
    obtain ⟨feedback, rfl⟩ := earlierOf_of_loadPrevious h hearlier
    obtain ⟨s, hlast, hmem, hfirst⟩ := lastRun?_of_mem before r after
    have hid : s.id = r.id := by simpa using find?_some hlast
    refine ⟨⟨(Fields.get? feedback r.id).getD (.text ""), s.outputs⟩, s, ?_, rfl, hmem, hid, hfirst⟩
    rw [about?_earlierOf, hruns, hlast]

/-! ### Two runs -/

def bareRun : Tree := .dir [("outputs", .dir [])]

def apartHost : Host :=
  { files := .dir [("ws", .dir [("a", bareRun), ("b-c", bareRun)])] }

def clashHost : Host :=
  { files := .dir [("ws", .dir [("a", .dir [("b", bareRun)]), ("a-b", bareRun)])] }

theorem runPaths_apartHost : runPaths (spaceOf apartHost sampleSpace) = [["a"], ["b-c"]] :=
  mergeSort_of_pairwise (by decide +kernel)

theorem runPaths_clashHost : runPaths (spaceOf clashHost sampleSpace) = [["a", "b"], ["a-b"]] :=
  mergeSort_of_pairwise (by decide +kernel)

def emptyRun (path : List String) : Run :=
  ⟨runId path, .text noPrompt, .null, [], .null⟩

theorem loadRun_empty {host : Host} (hprompt : exec (promptAndEval [(sampleSpace.join ⟨"", path⟩).child "eval_metadata.json",
      (sampleSpace.join ⟨"", path⟩).parent.child "eval_metadata.json"] (.text "") .null) host =
        (.ok (.text "", .null), host)) (htranscript : exec (promptFrom [(sampleSpace.join ⟨"", path⟩).child "transcript.md",
      ((sampleSpace.join ⟨"", path⟩).child "outputs").child "transcript.md"] (.text "")) host =
        (.ok (.text ""), host)) (houtputs : host.files.find (host.locate ((sampleSpace.join ⟨"", path⟩).child "outputs")) =
      .ok (.dir [])) (hgrading : exec (gradingFrom [(sampleSpace.join ⟨"", path⟩).child "grading.json",
      (sampleSpace.join ⟨"", path⟩).parent.child "grading.json"] .null) host =
        (.ok .null, host)) : (exec (loadRun sampleSpace path) host).1 = .ok (emptyRun path) := by
  rw [loadRun, exec_bind_ok hprompt]
  dsimp only
  rw [if_neg (by decide), exec_bind_ok htranscript, exec_bind_ok (exec_loadOutputs_nil houtputs),
    exec_bind_ok hgrading]
  rfl

theorem finds_apartHost : Finds apartHost sampleSpace [emptyRun ["a"], emptyRun ["b-c"]] := by
  show Forall₂ _ (runPaths (spaceOf apartHost sampleSpace)) _
  rw [runPaths_apartHost]
  exact .cons (loadRun_empty rfl rfl rfl rfl) (.cons (loadRun_empty rfl rfl rfl rfl) .nil)

theorem finds_clashHost :
    Finds clashHost sampleSpace [emptyRun ["a", "b"], emptyRun ["a-b"]] := by
  show Forall₂ _ (runPaths (spaceOf clashHost sampleSpace)) _
  rw [runPaths_clashHost]
  exact .cons (loadRun_empty rfl rfl rfl rfl) (.cons (loadRun_empty rfl rfl rfl rfl) .nil)

theorem runs_told_apart_hyphen :
    ∃ runs, (exec (loadRuns sampleSpace) apartHost).1 = .ok runs ∧ (runs.map (·.id)).Nodup := by
  obtain ⟨runs, hruns⟩ : ∃ runs, (exec (loadRuns sampleSpace) apartHost).1 = .ok runs := by
    rw [exec_loadRuns finds_apartHost]
    exact Result.exists_of_isSome (by decide +kernel)
  have hnamed : (spaceOf apartHost sampleSpace).wellNamed = true := by decide +kernel
  refine ⟨runs, hruns, (runs_told_apart hnamed hruns).1.mpr ?_⟩
  intro p q hp hq hwords
  rw [← mem_runPaths hnamed, runPaths_apartHost] at hp hq
  simp only [mem_cons, not_mem_nil, or_false] at hp hq
  rcases hp with rfl | rfl <;> rcases hq with rfl | rfl
  · rfl
  · exact absurd hwords (by decide +kernel)
  · exact absurd hwords (by decide +kernel)
  · rfl

/-- Two runs of one name. -/
theorem loadRuns_clash :
    (exec (loadRuns sampleSpace) clashHost).1.toOption.map (·.map (·.id)) =
      some ["a-b", "a-b"] := by
  rw [exec_loadRuns finds_clashHost]
  decide +kernel

end Review

end SkillKit
