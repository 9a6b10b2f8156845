import SkillKit.Benchmark.Runs
import SkillKit.Proofs.Files.Named

/-!
# Layout of a benchmark

Which runs of a benchmark are looked at, and in which order, is settled by the names in its tree.
`layoutOf` lists them, and loading a benchmark is loading what its layout names (`exec_loadResults`).
-/

namespace SkillKit.Benchmark

open Act Text List

/-! ## Names in a tree -/

/-- Entries whose names start in a given way, in order. -/
def named (start : String) (t : Tree) : List (String × Tree) :=
  t.listing.filter fun e => startsWith e.1 start

def runNames (t : Tree) : List String :=
  (named "run-" t).map (·.1)

/-- The configurations of an evaluation, with their runs; a directory without runs is none. -/
def configsOf (t : Tree) : List (String × List String) :=
  (t.listing.map fun e => (e.1, runNames e.2)).filter fun c => !c.2.isEmpty

/-- Evaluations with their configurations and these with their runs.  What is named as an
evaluation but is a file has no list of configurations. -/
abbrev Layout := List (String × Option (List (String × List String)))

def layoutOf (t : Tree) : Layout :=
  (named "eval-" t).map fun e => (e.1, if e.2.isDir then some (configsOf e.2) else none)

def runsIn? : Tree → Option Tree
  | .dir entries => entries.lookup "runs"
  | .file _ => none

/-- What is searched for evaluations: the directory of all runs, or else the benchmark itself. -/
def searched (t : Tree) : Tree :=
  (runsIn? t).getD t

def searchPath? (dir : Path) (t : Tree) : Option Path :=
  if (runsIn? t).isSome then some (dir.child "runs")
  else if (named "eval-" t).isEmpty then none
  else some dir

/-! ## Loading what is named -/

def loadConfigs (id : Value) (dir : Path) (results : Results)
    (configs : List (String × List String)) : Act Results :=
  configs.foldlM (fun results c => do
    return results.add c.1 (← loadConfig id (c.2.map ((dir.child c.1).child ·)))) results

def loadNamed (results : Results) (place : Nat) (dir : Path)
    (configs? : Option (List (String × List String))) : Act Results := do
  let id ← evalId place dir
  match configs? with
  | some configs => loadConfigs id dir results configs
  | none => throw .notDirectory

def loadLayout (search : Path) (layout : Layout) : Act Results :=
  layout.zipIdx.foldlM (fun results e => loadNamed results e.2 (search.child e.1.1) e.1.2) []

/-! ## What loading leaves as it is -/

theorem keeps_printLine (s : String) : Keeps Host.ground (printLine s) :=
  Keeps.printLine (fun _ _ => rfl) s

theorem keeps_timeAndTokens (dir : Path) (grading : Value) :
    Keeps Host.ground (timeAndTokens dir grading) := by
  refine (Keeps.ofExcept _).bind fun timing => (Keeps.ofExcept _).bind fun time => ?_
  split
  · exact Keeps.pure _
  · refine (Keeps.pathExists _).bind fun found => ?_
    split
    · exact Keeps.pure _
    · refine (Keeps.readText _).bind fun text => ?_
      split
      · exact (Keeps.ofExcept _).bind fun _ => (Keeps.ofExcept _).bind fun _ => Keeps.pure _
      · exact Keeps.pure _
      · exact Keeps.throw _

theorem keeps_measures (dir : Path) (grading : Value) :
    Keeps Host.ground (measures dir grading) := by
  refine (Keeps.ofExcept _).bind fun _ => (Keeps.ofExcept _).bind fun _ =>
    (Keeps.ofExcept _).bind fun _ => (Keeps.ofExcept _).bind fun _ =>
    (Keeps.ofExcept _).bind fun _ => (keeps_timeAndTokens dir grading).bind fun _ => ?_
  exact (Keeps.ofExcept _).bind fun _ => (Keeps.ofExcept _).bind fun _ =>
    (Keeps.ofExcept _).bind fun _ => (Keeps.ofExcept _).bind fun _ => Keeps.pure _

theorem keeps_expectations (file : Path) (grading : Value) :
    Keeps Host.ground (expectations file grading) := by
  refine (Keeps.ofExcept _).bind fun all => (Keeps.ofExcept _).bind fun parts => ?_
  refine (Keeps.forIn (fun e _ => ?_) _).bind fun _ => Keeps.pure _
  refine (Keeps.ofExcept _).bind fun complete => ?_
  split
  · exact (keeps_printLine _).bind fun _ => Keeps.pure _
  · exact Keeps.pure _

theorem keeps_loadRun (id : Value) (dir : Path) : Keeps Host.ground (loadRun? id dir) := by
  unfold loadRun?
  split
  · refine (Keeps.pathExists _).bind fun found => ?_
    split
    · exact (keeps_printLine _).bind fun _ => Keeps.pure _
    · refine (Keeps.readText _).bind fun text => ?_
      split
      · exact (keeps_printLine _).bind fun _ => Keeps.pure _
      · exact Keeps.throw _
      · exact (keeps_measures _ _).bind fun _ => (keeps_expectations _ _).bind fun _ =>
          (Keeps.ofExcept _).bind fun _ => Keeps.pure _
  · exact Keeps.throw _

theorem keeps_loadConfig (id : Value) (dirs : List Path) :
    Keeps Host.ground (loadConfig id dirs) :=
  (Keeps.mapM fun dir _ => keeps_loadRun id dir).bind fun _ => Keeps.pure _

theorem keeps_evalId (place : Nat) (dir : Path) : Keeps Host.ground (evalId place dir) := by
  unfold evalId
  refine (Keeps.pathExists _).bind fun found => ?_
  split
  · refine ((Keeps.readText _).bind fun _ => Keeps.ofExcept _).result.bind fun data => ?_
    split
    · exact Keeps.ofExcept _
    · split
      · exact Keeps.pure _
      · exact Keeps.throw _
  · exact Keeps.pure _

theorem keeps_loadConfigs (id : Value) (dir : Path) (results : Results)
    (configs : List (String × List String)) :
    Keeps Host.ground (loadConfigs id dir results configs) := by
  unfold loadConfigs
  induction configs generalizing results with
  | nil => exact Keeps.pure results
  | cons c rest ih =>
    exact ((keeps_loadConfig _ _).bind fun _ => Keeps.pure _).bind fun results' => ih results'

theorem keeps_loadNamed (results : Results) (place : Nat) (dir : Path)
    (configs? : Option (List (String × List String))) :
    Keeps Host.ground (loadNamed results place dir configs?) := by
  refine (keeps_evalId place dir).bind fun id => ?_
  cases configs? with
  | none => exact Keeps.throw _
  | some configs => exact keeps_loadConfigs id dir results configs

/-! ## Listings -/

section Loading

variable {host : Host} {dir : Path} {t : Tree}

theorem exec_entriesNamed (h : host.at? dir = some t) (start : String) :
    exec (entriesNamed start dir) host =
      (.ok ((named start t).map fun e => dir.child e.1), host) := by
  have hfind := Host.find_of_at? h
  have hdir : exec (isDir dir) host = (.ok t.isDir, host) := by
    rw [exec_isDir, Tree.isDirAt, hfind]
  rw [entriesNamed, exec_bind_ok hdir]
  cases t with
  | file content => rfl
  | dir entries =>
    have hlist : exec (listDir dir) host = (.ok (Tree.dir entries).listing, host) := by
      rw [exec_listDir, Tree.entriesAt, hfind]
      rfl
    exact exec_bind_ok hlist

theorem runNames_of_not_isDir {u : Tree} (h : u.isDir = false) : runNames u = [] := by
  cases u with
  | file content => rfl
  | dir entries => cases h

theorem exec_foldlM_entries (ht : t.wellNamed = true) (id : Value) (entries : List (String × Tree))
    (hsub : ∀ e ∈ entries, e ∈ t.listing) (h : host.at? dir = some t) (results : Results) :
    exec ((entries.filter (·.2.isDir)).foldlM (fun results (name, _) => do
        let runDirs ← entriesNamed "run-" (dir.child name)
        if runDirs.isEmpty then return results
        return results.add name (← loadConfig id runDirs)) results) host =
      exec (loadConfigs id dir results
        ((entries.map fun e => (e.1, runNames e.2)).filter fun c => !c.2.isEmpty)) host := by
  induction entries generalizing results host with
  | nil => rfl
  | cons e rest ih =>
    have hrest : ∀ e ∈ rest, e ∈ t.listing := fun e he => hsub e (mem_cons_of_mem _ he)
    rw [map_cons]
    cases hdir : e.2.isDir with
    | false =>
      rw [filter_cons_of_neg (by simp [hdir]),
        filter_cons_of_neg (by simp [runNames_of_not_isDir hdir])]
      exact ih hrest h results
    | true =>
      have hdirs : (named "run-" e.2).map (fun r => (dir.child e.1).child r.1) =
          (runNames e.2).map ((dir.child e.1).child ·) := by
        rw [runNames, map_map]
        rfl
      have hruns := exec_entriesNamed (Host.at?_child h ht (hsub e mem_cons_self)) "run-"
      rw [hdirs] at hruns
      rw [filter_cons_of_pos (by simp [hdir])]
      by_cases hnone : runNames e.2 = []
      · rw [filter_cons_of_neg (by simp [hnone])]
        refine (exec_bind_ok ?_).trans (ih hrest h results)
        rw [exec_bind_ok hruns, hnone]
        rfl
      · rw [filter_cons_of_pos (by simp [hnone]), loadConfigs]
        apply exec_bind_congr
        · rw [exec_bind_ok hruns, if_neg (by simp [hnone])]
        · -- Loading the runs has left the files alone, so the other entries are as listed.
          intro results' host' hrun
          have hkeeps := ((keeps_loadConfig _ _).bind fun _ => Keeps.pure _).of_ok hrun
          exact ih hrest ((Host.at?_of_ground hkeeps dir).trans h) results'

theorem exec_loadEval (ht : t.wellNamed = true) (h : host.at? dir = some t) (results : Results)
    (place : Nat) :
    exec (loadEval results place dir) host =
      exec (loadNamed results place dir (if t.isDir then some (configsOf t) else none)) host := by
  apply exec_bind_congr rfl
  intro id host' hrun
  have h' : host'.at? dir = some t :=
    (Host.at?_of_ground ((keeps_evalId place dir).of_ok hrun) dir).trans h
  cases t with
  | file content =>
    have hlist : exec (listDir dir) host' = (.error .notDirectory, host') := by
      rw [exec_listDir, Tree.entriesAt, Host.find_of_at? h']
    exact exec_bind_error hlist
  | dir entries =>
    have hlist : exec (listDir dir) host' = (.ok (Tree.dir entries).listing, host') := by
      rw [exec_listDir, Tree.entriesAt, Host.find_of_at? h']
      rfl
    rw [exec_bind_ok hlist]
    exact exec_foldlM_entries ht id _ (fun _ he => he) h' results

theorem exec_foldlM_evals (ht : t.wellNamed = true) (entries : List (String × Tree))
    (hsub : ∀ e ∈ entries, e ∈ t.listing) (h : host.at? dir = some t) (results : Results)
    (place : Nat) :
    exec (((entries.map fun e => dir.child e.1).zipIdx place).foldlM
        (fun results (evalDir, place) => loadEval results place evalDir) results) host =
      exec (((entries.map fun e =>
          (e.1, if e.2.isDir then some (configsOf e.2) else none)).zipIdx place).foldlM
        (fun results e => loadNamed results e.2 (dir.child e.1.1) e.1.2) results) host := by
  induction entries generalizing results host place with
  | nil => rfl
  | cons e rest ih =>
    have he := hsub e mem_cons_self
    have heval := exec_loadEval (Tree.isName_of_mem_listing ht he).2 (Host.at?_child h ht he)
      results place
    apply exec_bind_congr heval
    intro results' host' hrun
    have hkeeps := (keeps_loadNamed _ _ _ _).of_ok hrun
    exact ih (fun e he => hsub e (mem_cons_of_mem _ he))
      ((Host.at?_of_ground hkeeps dir).trans h) results' (place + 1)

/-! ## The directory that is searched -/

theorem exec_searchDir (h : host.at? dir = some t) :
    exec (searchDir? dir) host = (.ok (searchPath? dir t), host) := by
  -- Whether the path exists is whether there is an entry of that name; below a file there is none.
  have hexists : exec (pathExists (dir.child "runs")) host = (.ok (runsIn? t).isSome, host) := by
    rw [Host.exec_pathExists_child h (by decide)]
    cases t with
    | file content => rfl
    | dir entries =>
      rw [Tree.get?, runsIn?]
      cases entries.lookup "runs" <;> rfl
  rw [searchDir?, exec_bind_ok hexists]
  unfold searchPath?
  by_cases hruns : (runsIn? t).isSome = true
  · rw [if_pos hruns, if_pos hruns]
    rfl
  · rw [if_neg hruns, if_neg hruns, exec_bind_ok (exec_entriesNamed h "eval-"), isEmpty_map]
    cases (named "eval-" t).isEmpty <;> rfl

theorem at?_searchPath (ht : t.wellNamed = true) (h : host.at? dir = some t) {search : Path}
    (hsearch : searchPath? dir t = some search) : host.at? search = some (searched t) := by
  unfold searchPath? at hsearch
  cases hruns : runsIn? t with
  | some runs =>
    rw [hruns] at hsearch
    cases hsearch
    cases t with
    | file content => cases hruns
    | dir entries =>
      have hmem : ("runs", runs) ∈ (Tree.dir entries).listing :=
        Tree.mem_listing_dir.mpr (Tree.mem_of_lookup hruns)
      rw [Host.at?_child h ht hmem, searched, hruns]
      rfl
  | none =>
    rw [hruns] at hsearch
    split at hsearch
    · rename_i hsome
      cases hsome
    · split at hsearch
      · cases hsearch
      · cases hsearch
        rw [h, searched, hruns]
        rfl

theorem wellNamed_searched (ht : t.wellNamed = true) : (searched t).wellNamed = true := by
  unfold searched
  cases hruns : runsIn? t with
  | none => exact ht
  | some runs =>
    cases t with
    | file content => cases hruns
    | dir entries => exact ((Tree.wellNamed_dir.mp ht).2 _ (Tree.mem_of_lookup hruns)).2

theorem layoutOf_of_searchPath (h : searchPath? dir t = none) : layoutOf (searched t) = [] := by
  unfold searchPath? at h
  split at h
  · cases h
  · rename_i hruns
    split at h
    · rename_i hnone
      rw [searched, Option.not_isSome_iff_eq_none.mp hruns]
      exact map_eq_nil_iff.mpr (isEmpty_iff.mp hnone)
    · cases h

theorem exec_loadResults (ht : t.wellNamed = true) (h : host.at? dir = some t) {search : Path}
    (hsearch : searchPath? dir t = some search) :
    exec (loadResults dir) host = exec (loadLayout search (layoutOf (searched t))) host := by
  have hat := at?_searchPath ht h hsearch
  have hdirs := exec_searchDir h
  rw [hsearch] at hdirs
  rw [loadResults, exec_bind_ok hdirs]
  refine (exec_bind_ok (exec_entriesNamed hat "eval-")).trans ?_
  exact exec_foldlM_evals (wellNamed_searched ht) _ (fun e he => mem_of_mem_filter he) hat [] 0

theorem exec_loadResults_none (h : host.at? dir = some t) (hsearch : searchPath? dir t = none) :
    (exec (loadResults dir) host).1 = .ok [] := by
  have hdirs := exec_searchDir h
  rw [hsearch] at hdirs
  rw [loadResults, exec_bind_ok hdirs]
  rfl

end Loading

end SkillKit.Benchmark
