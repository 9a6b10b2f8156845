import SkillKit.Proofs.Files.Named
import SkillKit.Proofs.Review.Order

/-!
# Which runs are found

A run is a directory that holds outputs, below no other one that does, and reached through names that
are not skipped (`IsRunPath`).  The search finds these directories, each of them once (`mem_runPaths`,
`nodup_runPaths`), and loads the files that lie in their directories for outputs, less those that tell
about the run itself (`outputsFrom_of_loadRun`).
-/

namespace SkillKit.Review

open Act List

variable {t : Tree} {host : Host} {content : ByteArray} {entries : List (String × Tree)}
  {workspace : Path} {path : List String} {r : Run}

/-! ## Directories of runs -/

/-- A directory for outputs stands in the directory at a path. -/
def HasOutputs (t : Tree) (path : List String) : Prop :=
  ∃ inner, t.get? (path ++ ["outputs"]) = some (.dir inner)

/-- The path of a run: its directory holds outputs, no directory above it does, and nothing on the
way is skipped. -/
structure IsRunPath (t : Tree) (path : List String) : Prop where
  outputs : HasOutputs t path
  first : ∀ above, above <+: path → above ≠ path → ¬ HasOutputs t above
  searched : ∀ name ∈ path, name ∉ skippedNames

theorem hasOutputs_file (content : ByteArray) (path : List String) :
    ¬ HasOutputs (.file content) path := by
  rintro ⟨inner, h⟩
  cases path <;> cases h

theorem hasOutputs_iff (hnamed : (Tree.dir entries).wellNamed = true) :
    hasOutputs entries = true ↔ HasOutputs (.dir entries) [] := by
  have hnodup := (Tree.wellNamed_dir.mp hnamed).1
  rw [hasOutputs, any_eq_true]
  constructor
  · rintro ⟨⟨name, u⟩, hmem, htest⟩
    obtain ⟨hname, hdir⟩ := Bool.and_eq_true_iff.mp htest
    obtain rfl : name = "outputs" := beq_iff_eq.mp hname
    have hlookup := Tree.lookup_of_mem hnodup hmem
    cases u with
    | file content => cases hdir
    | dir inner => exact ⟨inner, by rw [nil_append, Tree.get?, hlookup]; rfl⟩
  · rintro ⟨inner, h⟩
    rw [nil_append, Tree.get?] at h
    obtain ⟨u, hu, hrest⟩ := Option.bind_eq_some_iff.mp h
    cases hrest
    exact ⟨("outputs", .dir inner), Tree.mem_of_lookup hu, rfl⟩

theorem hasOutputs_cons {name : String} {u : Tree} (hlookup : entries.lookup name = some u)
    (path : List String) : HasOutputs (.dir entries) (name :: path) ↔ HasOutputs u path := by
  unfold HasOutputs
  rw [cons_append, Tree.get?, hlookup]
  rfl

theorem isRunPath_of_hasOutputs (h : HasOutputs t []) (path : List String) :
    IsRunPath t path ↔ path = [] := by
  constructor
  · intro hrun
    by_contra hne
    exact hrun.first [] nil_prefix (Ne.symm hne) h
  · rintro rfl
    refine ⟨h, ?_, by simp⟩
    intro above habove hne
    exact absurd (prefix_nil.mp habove) hne

theorem isRunPath_of_not_hasOutputs (hnamed : (Tree.dir entries).wellNamed = true)
    (h : ¬ HasOutputs (.dir entries) []) (path : List String) :
    IsRunPath (.dir entries) path ↔ ∃ name u below, (name, u) ∈ entries ∧ name ∉ skippedNames ∧
      path = name :: below ∧ IsRunPath u below := by
  have hnodup := (Tree.wellNamed_dir.mp hnamed).1
  constructor
  · intro hrun
    cases path with
    | nil => exact absurd hrun.outputs h
    | cons name below =>
      obtain ⟨inner, hinner⟩ := hrun.outputs
      rw [cons_append, Tree.get?] at hinner
      obtain ⟨u, hu, -⟩ := Option.bind_eq_some_iff.mp hinner
      refine ⟨name, u, below, Tree.mem_of_lookup hu, hrun.searched name mem_cons_self, rfl, ?_⟩
      refine ⟨(hasOutputs_cons hu below).mp hrun.outputs, ?_,
        fun n hn => hrun.searched n (mem_cons_of_mem _ hn)⟩
      intro above habove hne hout
      apply hrun.first (name :: above) (cons_prefix_cons.mpr ⟨rfl, habove⟩)
      · intro heq
        exact hne (cons.inj heq).2
      · exact (hasOutputs_cons hu above).mpr hout
  · rintro ⟨name, u, below, hmem, hname, rfl, hrun⟩
    have hu : entries.lookup name = some u := Tree.lookup_of_mem hnodup hmem
    refine ⟨(hasOutputs_cons hu below).mpr hrun.outputs, ?_, ?_⟩
    · intro above habove hne hout
      cases above with
      | nil => exact h hout
      | cons n above =>
        obtain ⟨rfl, hbelow⟩ := cons_prefix_cons.mp habove
        refine hrun.first above hbelow ?_ ((hasOutputs_cons hu above).mp hout)
        rintro rfl
        exact hne rfl
    · intro n hn
      rcases mem_cons.mp hn with rfl | hn
      · exact hname
      · exact hrun.searched n hn

/-! ## The search -/

mutual

theorem mem_runPathsBelow (revPath : List String) (t : Tree) (hnamed : t.wellNamed = true)
    (path : List String) : path ∈ runPathsBelow revPath t ↔
      ∃ below, path = revPath.reverse ++ below ∧ IsRunPath t below := by
  match t with
  | .file content =>
    rw [runPathsBelow]
    constructor
    · intro h
      cases h
    · rintro ⟨below, -, hrun⟩
      exact absurd hrun.outputs (hasOutputs_file content below)
  | .dir entries =>
    rw [runPathsBelow]
    by_cases h : HasOutputs (.dir entries) []
    · -- The directory itself is a run, and nothing below it is searched.
      rw [if_pos ((hasOutputs_iff hnamed).mpr h), mem_singleton]
      simp only [isRunPath_of_hasOutputs h, exists_eq_right, append_nil]
    · rw [if_neg (fun hout => h ((hasOutputs_iff hnamed).mp hout)),
        mem_runPathsOfEntries revPath entries (Tree.wellNamed_dir.mp hnamed).2]
      simp only [isRunPath_of_not_hasOutputs hnamed h]
      constructor
      · rintro ⟨name, u, below, hmem, hname, rfl, hrun⟩
        exact ⟨name :: below, rfl, name, u, below, hmem, hname, rfl, hrun⟩
      · rintro ⟨_, rfl, name, u, below, hmem, hname, rfl, hrun⟩
        exact ⟨name, u, below, hmem, hname, rfl, hrun⟩

theorem mem_runPathsOfEntries (revPath : List String) (entries : List (String × Tree))
    (hnamed : ∀ e ∈ entries, Tree.isName e.1 = true ∧ e.2.wellNamed = true) (path : List String) :
    path ∈ runPathsOfEntries revPath entries ↔ ∃ name u below, (name, u) ∈ entries ∧
      name ∉ skippedNames ∧ path = revPath.reverse ++ name :: below ∧ IsRunPath u below := by
  match entries with
  | [] => simp [runPathsOfEntries]
  | (name, u) :: rest =>
    rw [runPathsOfEntries, mem_append,
      mem_runPathsOfEntries revPath rest fun e he => hnamed e (mem_cons_of_mem _ he)]
    have hfirst := mem_runPathsBelow (name :: revPath) u (hnamed _ mem_cons_self).2 path
    rw [reverse_cons] at hfirst
    constructor
    · rintro (hpath | ⟨name', u', below, hmem, hrest⟩)
      · by_cases hskip : skippedNames.contains name = true
        · rw [if_pos hskip] at hpath
          cases hpath
        · rw [if_neg hskip] at hpath
          obtain ⟨below, rfl, hrun⟩ := hfirst.mp hpath
          refine ⟨name, u, below, mem_cons_self, ?_, by simp, hrun⟩
          simpa using hskip
      · exact ⟨name', u', below, mem_cons_of_mem _ hmem, hrest⟩
    · rintro ⟨name', u', below, hmem, hname, rfl, hrun⟩
      rcases mem_cons.mp hmem with heq | hmem
      · cases heq
        left
        rw [if_neg (by simpa using hname)]
        exact hfirst.mpr ⟨below, by simp, hrun⟩
      · exact .inr ⟨name', u', below, hmem, hname, rfl, hrun⟩

end

mutual

theorem nodup_runPathsBelow (revPath : List String) (t : Tree) (hnamed : t.wellNamed = true) :
    (runPathsBelow revPath t).Nodup := by
  match t with
  | .file content => exact nodup_nil
  | .dir entries =>
    rw [runPathsBelow]
    split
    · exact pairwise_singleton _ _
    · exact nodup_runPathsOfEntries revPath entries (Tree.wellNamed_dir.mp hnamed).1
        (Tree.wellNamed_dir.mp hnamed).2

theorem nodup_runPathsOfEntries (revPath : List String) (entries : List (String × Tree))
    (hnodup : (entries.map (·.1)).Nodup)
    (hnamed : ∀ e ∈ entries, Tree.isName e.1 = true ∧ e.2.wellNamed = true) :
    (runPathsOfEntries revPath entries).Nodup := by
  match entries with
  | [] => exact nodup_nil
  | (name, u) :: rest =>
    rw [map_cons, nodup_cons] at hnodup
    have hrest : ∀ e ∈ rest, Tree.isName e.1 = true ∧ e.2.wellNamed = true :=
      fun e he => hnamed e (mem_cons_of_mem _ he)
    have hwell := (hnamed _ mem_cons_self).2
    rw [runPathsOfEntries, nodup_append]
    refine ⟨?_, nodup_runPathsOfEntries revPath rest hnodup.2 hrest, ?_⟩
    · split
      · exact nodup_nil
      · exact nodup_runPathsBelow (name :: revPath) u hwell
    · intro path hpath other hother heq
      split at hpath
      · cases hpath
      · obtain ⟨below, rfl, -⟩ := (mem_runPathsBelow (name :: revPath) u hwell path).mp hpath
        obtain ⟨name', u', below', hmem, -, rfl, -⟩ :=
          (mem_runPathsOfEntries revPath rest hrest other).mp hother
        rw [reverse_cons, append_assoc, singleton_append] at heq
        obtain ⟨rfl, -⟩ := cons.inj (append_cancel_left heq)
        exact hnodup.1 (mem_map.mpr ⟨_, hmem, rfl⟩)

end

theorem mem_runPaths (hnamed : t.wellNamed = true) (path : List String) :
    path ∈ runPaths t ↔ IsRunPath t path := by
  rw [runPaths, mem_mergeSort, mem_runPathsBelow [] t hnamed]
  simp

theorem nodup_runPaths (hnamed : t.wellNamed = true) : (runPaths t).Nodup :=
  (mergeSort_perm _ _).nodup_iff.mpr (nodup_runPathsBelow [] t hnamed)

/-! ## Outputs of a run -/

def Output.name : Output → String
  | .text name _ => name
  | .image name _ _ => name
  | .document name _ _ => name
  | .sheet name _ => name
  | .binary name _ _ => name
  | .unreadable name => name

theorem name_outputOf (path : Path) (content : Option ByteArray) :
    (outputOf path content).name = path.name := by
  unfold outputOf
  cases content with
  | none => dsimp only; split <;> rfl
  | some b => dsimp only; split_ifs <;> rfl

theorem exec_loadOutput {file : Path} (h : host.at? file = some (.file content)) :
    exec (loadOutput file) host = (.ok (outputOf file (some content)), host) := by
  have hread : exec (readBytes file) host = (.ok content, host) := by
    rw [exec_readBytes, Tree.readBytes, Host.find_of_at? h]
  have hresult : exec (result (readBytes file)) host = (.ok (.ok content), host) := by
    rw [exec_result, hread]
  rw [loadOutput, exec_bind_ok hresult]
  rfl

/-- The entries that are outputs, with their contents. -/
def outputFiles : List (String × Tree) → List (String × ByteArray)
  | [] => []
  | (name, .file content) :: rest =>
    if runFiles.contains name then outputFiles rest else (name, content) :: outputFiles rest
  | (_, .dir _) :: rest => outputFiles rest

theorem mem_outputFiles {name : String} :
    (name, content) ∈ outputFiles entries ↔ (name, .file content) ∈ entries ∧ name ∉ runFiles := by
  fun_induction outputFiles entries with
  | case1 => simp
  | case2 n c rest hskip ih =>
    rw [ih, mem_cons, Prod.mk.injEq, Tree.file.injEq]
    constructor
    · rintro ⟨hmem, hname⟩
      exact ⟨.inr hmem, hname⟩
    · rintro ⟨⟨rfl, -⟩ | hmem, hname⟩
      · exact absurd (contains_iff_mem.mp hskip) hname
      · exact ⟨hmem, hname⟩
  | case3 n c rest hkeep ih =>
    rw [mem_cons, ih, mem_cons, Prod.mk.injEq, Prod.mk.injEq, Tree.file.injEq]
    constructor
    · rintro (⟨rfl, rfl⟩ | ⟨hmem, hname⟩)
      · exact ⟨.inl ⟨rfl, rfl⟩, fun hmem => hkeep (contains_iff_mem.mpr hmem)⟩
      · exact ⟨.inr hmem, hname⟩
    · rintro ⟨⟨rfl, rfl⟩ | hmem, hname⟩
      · exact .inl ⟨rfl, rfl⟩
      · exact .inr ⟨hmem, hname⟩
  | case4 n inner rest ih => simp [ih]

theorem sublist_outputFiles (entries : List (String × Tree)) :
    ((outputFiles entries).map (·.1)).Sublist (entries.map (·.1)) := by
  fun_induction outputFiles entries with
  | case1 => exact Sublist.slnil
  | case2 n c rest hskip ih => exact ih.cons n
  | case3 n c rest hkeep ih => exact ih.cons_cons n
  | case4 n inner rest ih => exact ih.cons n

theorem exec_loadOutputs {dir : Path} (h : host.at? dir = some (.dir entries))
    (hnamed : (Tree.dir entries).wellNamed = true) :
    exec (loadOutputs dir) host = (.ok ((outputFiles (Tree.dir entries).listing).map
      fun f => outputOf (dir.child f.1) (some f.2)), host) := by
  have hlist : exec (listDir dir) host = (.ok (Tree.dir entries).listing, host) := by
    rw [exec_listDir, Tree.entriesAt, Host.find_of_at? h]
    rfl
  rw [loadOutputs, exec_bind_ok hlist]
  apply exec_mapM_ok
  -- Each entry of the listing is found by its name, so each that is a file is loaded.
  have hfound : ∀ e ∈ (Tree.dir entries).listing, host.at? (dir.child e.1) = some e.2 :=
    fun e he => Host.at?_child h hnamed he
  generalize (Tree.dir entries).listing = listed at hfound
  fun_induction outputFiles listed with
  | case1 => exact .nil
  | case2 n c rest hskip ih =>
    rw [filter_cons_of_neg]
    · exact ih fun e he => hfound e (mem_cons_of_mem _ he)
    · show ¬ (!(Tree.file c).isDir && !runFiles.contains n) = true
      rw [hskip]
      exact Bool.false_ne_true
  | case3 n c rest hkeep ih =>
    have hload := exec_loadOutput (hfound (n, .file c) mem_cons_self)
    rw [filter_cons_of_pos, map_cons]
    · refine .cons hload ?_
      exact ih fun e he => hfound e (mem_cons_of_mem _ he)
    · show (!(Tree.file c).isDir && !runFiles.contains n) = true
      rw [Bool.not_eq_true _ |>.mp hkeep]
      rfl
  | case4 n inner rest ih =>
    rw [filter_cons_of_neg]
    · exact ih fun e he => hfound e (mem_cons_of_mem _ he)
    · exact Bool.false_ne_true

theorem of_loadRun (h : (exec (loadRun workspace path) host).1 = .ok r) :
    r.id = runId path ∧
      (exec (loadOutputs ((workspace.join ⟨"", path⟩).child "outputs")) host).1 = .ok r.outputs := by
  obtain ⟨final, hrun⟩ : ∃ final, exec (loadRun workspace path) host = (.ok r, final) :=
    ⟨_, Prod.ext h rfl⟩
  rw [loadRun] at hrun
  obtain ⟨⟨prompt, evalId⟩, host₁, hfound, hloaded⟩ := of_exec_bind_ok hrun
  have hfirst : Keeps id (promptAndEval [(workspace.join ⟨"", path⟩).child "eval_metadata.json",
      (workspace.join ⟨"", path⟩).parent.child "eval_metadata.json"] (.text "") .null) :=
    keeps_promptAndEval _ _ _
  obtain rfl : host₁ = host := hfirst.of_ok hfound
  -- Whichever way the prompt was found, the outputs are loaded next, from the same host.
  have hrest : ∀ prompt : Value, exec (do
      let outputs ← loadOutputs ((workspace.join ⟨"", path⟩).child "outputs")
      let grading ← gradingFrom [(workspace.join ⟨"", path⟩).child "grading.json",
        (workspace.join ⟨"", path⟩).parent.child "grading.json"] .null
      return ({ id := runId path, prompt, evalId, outputs, grading } : Run)) host₁ =
        (.ok r, final) →
      r.id = runId path ∧
        (exec (loadOutputs ((workspace.join ⟨"", path⟩).child "outputs")) host₁).1 =
          .ok r.outputs := by
    intro prompt hprompt
    obtain ⟨outputs, host₂, houtputs, hprompt⟩ := of_exec_bind_ok hprompt
    obtain ⟨grading, host₃, -, hprompt⟩ := of_exec_bind_ok hprompt
    cases hprompt
    exact ⟨rfl, by rw [houtputs]⟩
  dsimp only at hloaded
  split at hloaded
  · obtain ⟨told, host₂, htold, hrest'⟩ := of_exec_bind_ok hloaded
    cases htold
    exact hrest _ hrest'
  · obtain ⟨told, host₂, htold, hrest'⟩ := of_exec_bind_ok hloaded
    have hsecond : Keeps id (promptFrom [(workspace.join ⟨"", path⟩).child "transcript.md",
        ((workspace.join ⟨"", path⟩).child "outputs").child "transcript.md"] prompt) :=
      keeps_promptFrom _ _
    obtain rfl : host₂ = host₁ := hsecond.of_ok htold
    exact hrest _ hrest'

/-! ## The runs of a workspace -/

/-- The outputs of a run are the files in its directory for outputs that do not tell about the run
itself, each once, in the order of their names. -/
def OutputsFrom (t : Tree) (dir : Path) (path : List String) (outputs : List Output) : Prop :=
  ∃ files : List (String × ByteArray), files.Pairwise (fun a b => a.1 < b.1) ∧
    (∀ name content, (name, content) ∈ files ↔
      t.get? (path ++ ["outputs", name]) = some (.file content) ∧ name ∉ runFiles) ∧
    outputs = files.map (fun f => outputOf (dir.child f.1) (some f.2)) ∧
    outputs.map Output.name = files.map (·.1)

theorem outputsFrom_of_loadRun (hnamed : (spaceOf host workspace).wellNamed = true)
    (hout : HasOutputs (spaceOf host workspace) path)
    (h : (exec (loadRun workspace path) host).1 = .ok r) :
    OutputsFrom (spaceOf host workspace) ((workspace.join ⟨"", path⟩).child "outputs") path
      r.outputs := by
  obtain ⟨inner, hinner⟩ := hout
  have hwell : (Tree.dir inner).wellNamed = true := Tree.wellNamed_of_get? hnamed hinner
  have hspace : host.at? workspace = some (spaceOf host workspace) := by
    unfold spaceOf at hinner ⊢
    cases hat : host.at? workspace with
    | some t => rfl
    | none =>
      rw [hat] at hinner
      cases path <;> cases hinner
  have hdir : host.at? ((workspace.join ⟨"", path⟩).child "outputs") = some (.dir inner) := by
    rw [Host.at?, Tree.at?_eq_some, Host.locate_child host _ (by decide), Host.locate_join,
      append_assoc]
    exact Tree.find_of_get? (Host.find_of_at? hspace) hnamed hinner
  have hloaded := (of_loadRun h).2
  rw [exec_loadOutputs hdir hwell] at hloaded
  have hnames : ∀ f ∈ outputFiles (Tree.dir inner).listing, Tree.isName f.1 = true := by
    intro f hf
    have hmem := (mem_outputFiles.mp hf).1
    exact (Tree.isName_of_mem_listing hwell hmem).1
  refine ⟨outputFiles (Tree.dir inner).listing, ?_, ?_, (Except.ok.inj hloaded).symm, ?_⟩
  · have hsorted := pairwise_map.mpr (Tree.pairwise_listing hwell)
    exact pairwise_map.mp (hsorted.sublist (sublist_outputFiles _))
  · intro name content
    have hsplit : path ++ ["outputs", name] = (path ++ ["outputs"]) ++ [name] := by simp
    rw [mem_outputFiles, hsplit, Tree.get?_append, hinner, Option.bind_some,
      Tree.get?_cons_eq_some hwell]
    simp [Tree.get?]
  · rw [← Except.ok.inj hloaded, map_map]
    apply map_congr_left
    intro f hf
    show (outputOf _ _).name = f.1
    rw [name_outputOf, Path.name_child _ (hnames f hf)]

/-- The search comes across each run once and across nothing else, and the outputs of each run are
loaded from the files in its directory for outputs. -/
theorem collectRuns_exact (host : Host) (workspace : Path)
    (hnamed : (spaceOf host workspace).wellNamed = true)
    (hloads : ∀ path, IsRunPath (spaceOf host workspace) path →
      ∃ r, (exec (loadRun workspace path) host).1 = .ok r) :
    ∃ found : List (List String × Run),
      exec (collectRuns workspace) host = (.ok (found.map (·.2)), host) ∧
      (found.map (·.1)).Nodup ∧
      (∀ path, path ∈ found.map (·.1) ↔ IsRunPath (spaceOf host workspace) path) ∧
      ∀ f ∈ found, f.2.id = runId f.1 ∧ OutputsFrom (spaceOf host workspace)
        ((workspace.join ⟨"", f.1⟩).child "outputs") f.1 f.2.outputs := by
  have hpaths := mem_runPaths hnamed
  obtain ⟨runs, hruns⟩ := Result.exists_mapM (f := fun path => (exec (loadRun workspace path) host).1)
    fun path hpath => hloads path ((hpaths path).mp hpath)
  have hfinds : Finds host workspace runs := Result.mapM_eq_ok.mp hruns
  obtain ⟨hlength, hpairs⟩ := forall₂_iff_zip.mp hfinds
  have hfst : ((runPaths (spaceOf host workspace)).zip runs).map (·.1) =
      runPaths (spaceOf host workspace) := map_fst_zip (Nat.le_of_eq hlength)
  have hsnd : ((runPaths (spaceOf host workspace)).zip runs).map (·.2) = runs :=
    map_snd_zip (Nat.le_of_eq hlength.symm)
  refine ⟨(runPaths (spaceOf host workspace)).zip runs, ?_, ?_, ?_, ?_⟩
  · rw [hsnd]
    exact exec_collectRuns hfinds
  · rw [hfst]
    exact nodup_runPaths hnamed
  · rw [hfst]
    exact hpaths
  · intro f hf
    have hmem : f.1 ∈ runPaths (spaceOf host workspace) := hfst ▸ mem_map_of_mem hf
    exact ⟨(of_loadRun (hpairs hf)).1,
      outputsFrom_of_loadRun hnamed ((hpaths f.1).mp hmem).outputs (hpairs hf)⟩

/-! ### A workspace in which most is passed over -/

def prunedHost : Host :=
  { files := .dir [("ws", .dir [
      ("a", .dir [("eval_metadata.json", .file "\x7b\"prompt\": \"do it\"\x7d".toUTF8),
        ("old", .dir [("outputs", .dir [])]),
        ("outputs", .dir [("metrics.json", .file "\x7b\x7d".toUTF8),
          ("notes.txt", .file "done".toUTF8), ("raw", .dir [])])]),
      ("skill", .dir [("outputs", .dir [])])])] }

theorem wellNamed_prunedHost : (spaceOf prunedHost sampleSpace).wellNamed = true := by
  decide +kernel

theorem runPaths_prunedHost : runPaths (spaceOf prunedHost sampleSpace) = [["a"]] :=
  mergeSort_of_pairwise (pairwise_singleton _ _)

theorem loads_prunedHost (path : List String)
    (h : IsRunPath (spaceOf prunedHost sampleSpace) path) :
    path = ["a"] ∧ ∃ r, (exec (loadRun sampleSpace path) prunedHost).1 = .ok r := by
  have hmem := (mem_runPaths wellNamed_prunedHost path).mpr h
  rw [runPaths_prunedHost, mem_singleton] at hmem
  subst hmem
  have hreads : Json.ReadsBack (.dict unnumbered) "\x7b\"prompt\": \"do it\"\x7d" :=
    Json.readsBack_of_write rfl (by decide +kernel)
  have hread : Json.read (Text.unifyLines "\x7b\"prompt\": \"do it\"\x7d") =
      .ok (.dict unnumbered) := by
    rw [hreads.unifyLines, hreads.read]
  have hnone : ∀ file ∈ [(sampleSpace.join ⟨"", ["a"]⟩).child "grading.json",
      (sampleSpace.join ⟨"", ["a"]⟩).parent.child "grading.json"],
      exec (loadJson? file) prunedHost = (.ok none, prunedHost) := by
    simp only [forall_mem_cons]
    exact ⟨exec_loadJson?_none rfl, exec_loadJson?_none rfl, forall_mem_nil _⟩
  refine ⟨rfl, _, congrArg Prod.fst (exec_loadRun (exec_loadJson? rfl hread) rfl rfl rfl
    (exec_loadOutputs rfl ?_) hnone)⟩
  decide +kernel

/-- The one run is found, with the outputs that lie in its directory for them. -/
theorem collectRuns_exact_pruned :
    (spaceOf prunedHost sampleSpace).wellNamed = true ∧
    (∀ path, IsRunPath (spaceOf prunedHost sampleSpace) path →
      ∃ r, (exec (loadRun sampleSpace path) prunedHost).1 = .ok r) ∧
    ∃ r : Run, exec (collectRuns sampleSpace) prunedHost = (.ok [r], prunedHost) ∧ r.id = "a" ∧
      OutputsFrom (spaceOf prunedHost sampleSpace) ⟨"/", ["ws", "a", "outputs"]⟩ ["a"] r.outputs := by
  have hloads := fun path h => (loads_prunedHost path h).2
  refine ⟨wellNamed_prunedHost, hloads, ?_⟩
  obtain ⟨found, hfound, hnodup, hpaths, houtputs⟩ :=
    collectRuns_exact prunedHost sampleSpace wellNamed_prunedHost hloads
  have hrun : IsRunPath (spaceOf prunedHost sampleSpace) ["a"] := by
    rw [← mem_runPaths wellNamed_prunedHost, runPaths_prunedHost]
    exact mem_singleton_self _
  have hone : found.map (·.1) = [["a"]] := by
    refine perm_singleton.mp ((perm_ext_iff_of_nodup hnodup (by simp)).mpr ?_)
    intro path
    rw [hpaths, mem_singleton]
    exact ⟨fun h => (loads_prunedHost path h).1, fun h => h ▸ hrun⟩
  obtain ⟨⟨path, r⟩, rfl, hpath⟩ := map_eq_singleton_iff.mp hone
  obtain rfl : path = ["a"] := hpath
  obtain ⟨hid, hfrom⟩ := houtputs (["a"], r) mem_cons_self
  have hname : runId ["a"] = "a" := by decide
  exact ⟨r, hfound, hid.trans hname, hfrom⟩

end SkillKit.Review
