import SkillKit.Proofs.Benchmark.Layout

/-!
# Where runs are found

Going through a layout finds the places whose runs were graded and leaves the others out
(`Collected`); the results are what was found, grouped by configuration (`Grouped`).  What a place
loads to is settled by the tree (`of_loadsAs`).
-/

namespace SkillKit.Benchmark

open Act Text List

variable {eval config : String} {done found : Found} {results results' : Results}
  {host host' : Host} {p : Place} {t : Tree} {seen : List String} {search : Path}
  {e : (String × Option (List (String × List String))) × Nat}

/-! ## Places of runs -/

/-- The names on the way to a run: of its evaluation, of its configuration and its own. -/
structure Place where
  eval : String
  config : String
  run : String
deriving DecidableEq

namespace Place

def dir (search : Path) (p : Place) : Path :=
  ((search.child p.eval).child p.config).child p.run

/-- Evaluations come in the order of their names, in each the configurations, and in each the
runs. -/
def Before (p q : Place) : Prop :=
  p.eval < q.eval ∨ p.eval = q.eval ∧ (p.config < q.config ∨ p.config = q.config ∧ p.run < q.run)

theorem Before.ne {q : Place} (h : p.Before q) : p ≠ q := by
  rintro rfl
  rcases h with h | ⟨-, h | ⟨-, h⟩⟩ <;> exact String.lt_irrefl _ h

end Place

/-- There is a file whose text is a document. -/
def HasDocument (t : Tree) (names : List String) : Prop :=
  ∃ file v, t.get? names = some file ∧ (file.readText [] >>= Json.read) = .ok v

/-- A run was graded: it lies in an evaluation that is searched, and it has a readable grading. -/
structure IsGraded (bench : Tree) (p : Place) : Prop where
  eval : startsWith p.eval "eval-" = true
  run : startsWith p.run "run-" = true
  document : HasDocument (searched bench) [p.eval, p.config, p.run, "grading.json"]

def placesIn (eval : String) (configs : List (String × List String)) : List Place :=
  configs.flatMap fun c => c.2.map fun run => ⟨eval, c.1, run⟩

def placesOf (layout : Layout) : List Place :=
  layout.flatMap fun e => placesIn e.1 (e.2.getD [])

/-- Names of the configurations in a layout, evaluation after evaluation. -/
def foundNames (layout : Layout) : List String :=
  layout.flatMap fun e => (e.2.getD []).map (·.1)

theorem mem_named {start : String} {e : String × Tree} :
    e ∈ named start t ↔ e ∈ t.listing ∧ startsWith e.1 start = true :=
  mem_filter

theorem placesOf_layoutOf (t : Tree) :
    placesOf (layoutOf t) = (named "eval-" t).flatMap fun e => placesIn e.1 (configsOf e.2) := by
  rw [placesOf, layoutOf, flatMap_map]
  refine flatMap_congr fun e _ => ?_
  obtain ⟨name, u⟩ := e
  cases u <;> rfl

theorem mem_placesIn_configsOf :
    p ∈ placesIn eval (configsOf t) ↔
      p.eval = eval ∧ ∃ v w, (p.config, v) ∈ t.listing ∧ (p.run, w) ∈ named "run-" v := by
  constructor
  · intro h
    obtain ⟨c, hc, h⟩ := mem_flatMap.mp h
    obtain ⟨run, hrun, rfl⟩ := mem_map.mp h
    obtain ⟨e, he, rfl⟩ := mem_map.mp (mem_filter.mp hc).1
    obtain ⟨r, hr, rfl⟩ := mem_map.mp hrun
    exact ⟨rfl, e.2, r.2, he, hr⟩
  · rintro ⟨rfl, v, w, hv, hw⟩
    have hrun : p.run ∈ runNames v := mem_map_of_mem hw
    have hc : (p.config, runNames v) ∈ configsOf t :=
      mem_filter.mpr ⟨mem_map.mpr ⟨_, hv, rfl⟩, by simp [ne_nil_of_mem hrun]⟩
    exact mem_flatMap.mpr ⟨_, hc, mem_map.mpr ⟨_, hrun, rfl⟩⟩

theorem mem_placesOf_layoutOf :
    p ∈ placesOf (layoutOf t) ↔ ∃ u v w, (p.eval, u) ∈ named "eval-" t ∧
      (p.config, v) ∈ u.listing ∧ (p.run, w) ∈ named "run-" v := by
  rw [placesOf_layoutOf, mem_flatMap]
  constructor
  · rintro ⟨e, he, hp⟩
    obtain ⟨heval, v, w, hv, hw⟩ := mem_placesIn_configsOf.mp hp
    exact ⟨e.2, v, w, by rwa [heval], hv, hw⟩
  · rintro ⟨u, v, w, hu, hv, hw⟩
    exact ⟨_, hu, mem_placesIn_configsOf.mpr ⟨rfl, v, w, hv, hw⟩⟩

theorem pairwise_configsOf (ht : t.wellNamed = true) :
    ((configsOf t).map (·.1)).Pairwise (· < ·) := by
  rw [pairwise_map]
  refine Pairwise.filter _ ?_
  rw [pairwise_map]
  exact Tree.pairwise_listing ht

theorem pairwise_placesOf (ht : t.wellNamed = true) :
    (placesOf (layoutOf t)).Pairwise Place.Before := by
  have hsorted : ∀ {start : String} {u : Tree}, u.wellNamed = true →
      (named start u).Pairwise fun a b => a.1 < b.1 :=
    fun hu => (Tree.pairwise_listing hu).filter _
  rw [placesOf_layoutOf, pairwise_flatMap]
  constructor
  · intro e he
    have he' := (Tree.isName_of_mem_listing ht (mem_named.mp he).1).2
    rw [placesIn, pairwise_flatMap]
    constructor
    · intro c hc
      obtain ⟨f, hf, rfl⟩ := mem_map.mp (mem_filter.mp hc).1
      rw [pairwise_map, runNames, pairwise_map]
      exact (hsorted (Tree.isName_of_mem_listing he' hf).2).imp fun h => .inr ⟨rfl, .inr ⟨rfl, h⟩⟩
    · have hconfigs := pairwise_configsOf he'
      rw [pairwise_map] at hconfigs
      refine hconfigs.imp ?_
      rintro c d h p hp q hq
      obtain ⟨_, -, rfl⟩ := mem_map.mp hp
      obtain ⟨_, -, rfl⟩ := mem_map.mp hq
      exact .inr ⟨rfl, .inl h⟩
  · refine (hsorted ht).imp ?_
    rintro e f h p hp q hq
    refine .inl ?_
    rw [(mem_placesIn_configsOf.mp hp).1, (mem_placesIn_configsOf.mp hq).1]
    exact h

/-! ## Loading place by place -/

abbrev Found := List (Place × Run)

/-- What was found of the places that were gone through: some of them, in their order, with the runs
that they load to; the others load to nothing. -/
structure Collected (loads : Place → Option Run → Prop) (places : List Place) (found : Found) :
    Prop where
  sublist : (found.map (·.1)).Sublist places
  loaded : ∀ e ∈ found, loads e.1 (some e.2)
  left : ∀ p ∈ places, p ∈ found.map (·.1) ∨ loads p none

namespace Collected

variable {loads loads' : Place → Option Run → Prop} {places more : List Place} {others : Found}

theorem imp (h : Collected loads places found) (hloads : ∀ p ∈ places, ∀ r, loads p r → loads' p r) :
    Collected loads' places found where
  sublist := h.sublist
  loaded e he := hloads e.1 (h.sublist.subset (mem_map_of_mem he)) _ (h.loaded e he)
  left p hp := (h.left p hp).imp_right (hloads p hp none)

theorem append (h : Collected loads places found) (h' : Collected loads more others) :
    Collected loads (places ++ more) (found ++ others) where
  sublist := by
    rw [map_append]
    exact h.sublist.append h'.sublist
  loaded e he := (mem_append.mp he).elim (h.loaded e) (h'.loaded e)
  left p hp := by
    rw [map_append, mem_append]
    rcases mem_append.mp hp with hp | hp
    · exact (h.left p hp).imp_left .inl
    · exact (h'.left p hp).imp_left .inr

theorem of_forall₂ {outcomes : List (Option Run)} (h : Forall₂ loads places outcomes) :
    ∃ found, Collected loads places found ∧ found.map (·.2) = outcomes.filterMap id := by
  induction h with
  | nil => exact ⟨[], ⟨.slnil, by simp, by simp⟩, rfl⟩
  | @cons p outcome rest outcomes hp _ ih =>
    obtain ⟨found, hfound, hruns⟩ := ih
    cases outcome with
    | none =>
      have hone : Collected loads [p] [] := ⟨by simp, by simp, by simpa using hp⟩
      exact ⟨found, hone.append hfound, by simpa using hruns⟩
    | some r =>
      have hone : Collected loads [p] [(p, r)] := ⟨by simp, by simpa using hp, by simp⟩
      exact ⟨(p, r) :: found, hone.append hfound, by simpa using hruns⟩

end Collected

def runsOf (config : String) (found : Found) : List Run :=
  (found.filter (·.1.config == config)).map (·.2)

/-- The results are the runs that were found, by configuration. -/
structure Grouped (results : Results) (seen : List String) (found : Found) : Prop where
  results_eq : results = seen.eraseDups.map fun config => (config, runsOf config found)
  config_mem : ∀ e ∈ found, e.1.config ∈ seen

theorem Grouped.names (h : Grouped results seen found) : results.map (·.1) = seen.eraseDups := by
  rw [h.results_eq, map_map]
  exact map_id _

theorem runsOf_append (config : String) (found more : Found) :
    runsOf config (found ++ more) = runsOf config found ++ runsOf config more := by
  rw [runsOf, filter_append, map_append]
  rfl

theorem runsOf_eq_nil (h : ∀ e ∈ found, e.1.config ≠ config) : runsOf config found = [] := by
  rw [runsOf, filter_eq_nil_iff.mpr fun e he => by simp [h e he]]
  rfl

theorem runsOf_eq_map (h : ∀ e ∈ found, e.1.config = config) :
    runsOf config found = found.map (·.2) := by
  rw [runsOf, filter_eq_self.mpr fun e he => by simp [h e he]]

theorem Grouped.add {more : Found} (h : Grouped results seen found)
    (hmore : ∀ e ∈ more, e.1.config = config) :
    Grouped (results.add config (more.map (·.2))) (seen ++ [config]) (found ++ more) := by
  have hany : results.any (·.1 == config) = true ↔ config ∈ seen := by
    rw [← mem_eraseDups, ← h.names]
    simp
  have hrest : ∀ other ≠ config, runsOf other (found ++ more) = runsOf other found := by
    intro other hother
    have hnone : runsOf other more = [] :=
      runsOf_eq_nil fun e he => (hmore e he).trans_ne hother.symm
    rw [runsOf_append, hnone, append_nil]
  refine ⟨?_, fun e he => ?_⟩
  · rw [eraseDups_append, Results.add]
    by_cases hseen : config ∈ seen
    · have hgone : [config].removeAll seen = [] := by simp [removeAll, hseen]
      rw [if_pos (hany.mpr hseen), hgone, h.results_eq, map_map, eraseDups_nil,
        append_nil]
      refine map_congr_left fun other _ => ?_
      simp only [Function.comp_apply]
      by_cases hother : other = config
      · subst hother
        rw [if_pos (beq_self_eq_true _), runsOf_append, runsOf_eq_map hmore]
      · rw [if_neg (by simpa using hother), hrest other hother]
    · have hnew : [config].removeAll seen = [config] := by simp [removeAll, hseen]
      have hfresh : runsOf config found = [] :=
        runsOf_eq_nil fun e he hconfig => hseen (hconfig ▸ h.config_mem e he)
      rw [if_neg (mt hany.mp hseen), hnew, map_append, h.results_eq]
      congr 1
      · refine map_congr_left fun other hother => ?_
        rw [hrest other fun heq => hseen (heq ▸ mem_eraseDups.mp hother)]
      · rw [eraseDups_cons]
        simp [runsOf_append, hfresh, runsOf_eq_map hmore]
  · rcases mem_append.mp he with he | he
    · exact mem_append_left _ (h.config_mem e he)
    · rw [hmore e he]
      simp

/-- On a host with these files, an action gives a value. -/
def GivesOn {α : Type} (ground : Tree × Path) (act : Act α) (a : α) : Prop :=
  ∃ host host' : Host, host.ground = ground ∧ exec act host = (.ok a, host')

theorem collected_loadConfig {id : Value} {names : List String} {runs : List Run}
    (hrun : exec (loadConfig id (names.map (((search.child eval).child config).child ·))) host =
      (.ok runs, host')) :
    ∃ found, Collected (fun p r => GivesOn host.ground (loadRun? id (p.dir search)) r)
      (names.map fun run => ⟨eval, config, run⟩) found ∧ found.map (·.2) = runs := by
  obtain ⟨outcomes, host₁, hmap, hpure⟩ := of_exec_bind_ok hrun
  cases hpure
  apply Collected.of_forall₂
  have hall := Keeps.forall₂_mapM (fun dir _ => keeps_loadRun id dir) hmap
  rw [forall₂_map_left_iff] at hall ⊢
  exact hall

theorem collected_loadConfigs {id : Value} {configs : List (String × List String)}
    (h : Grouped results seen done)
    (hrun : exec (loadConfigs id (search.child eval) results configs) host =
      (.ok results', host')) :
    ∃ found, Collected (fun p r => GivesOn host.ground (loadRun? id (p.dir search)) r)
        (placesIn eval configs) found ∧
      Grouped results' (seen ++ configs.map (·.1)) (done ++ found) := by
  induction configs generalizing results seen done host with
  | nil =>
    cases hrun
    exact ⟨[], ⟨.slnil, by simp, by simp [placesIn]⟩, by simpa using h⟩
  | cons c rest ih =>
    obtain ⟨added, host₁, hadd, hrest⟩ := of_exec_bind_ok hrun
    obtain ⟨runs, host₂, hload, hpure⟩ := of_exec_bind_ok hadd
    cases hpure
    obtain ⟨first, hfirst, rfl⟩ := collected_loadConfig hload
    have hconfig : ∀ e ∈ first, e.1.config = c.1 := by
      intro e he
      obtain ⟨_, -, hp⟩ := mem_map.mp (hfirst.sublist.subset (mem_map_of_mem he))
      rw [← hp]
    obtain ⟨others, hothers, hgrouped⟩ := ih (h.add hconfig) hrest
    rw [(keeps_loadConfig id _).of_ok hload] at hothers
    refine ⟨first ++ others, hfirst.append hothers, ?_⟩
    simpa using hgrouped

/-- The run at a place of a layout is loaded under the name of its evaluation. -/
def LoadsAs (ground : Tree × Path) (search : Path)
    (evals : List ((String × Option (List (String × List String))) × Nat)) (p : Place)
    (r : Option Run) : Prop :=
  ∃ e ∈ evals, ∃ id, e.1.1 = p.eval ∧ GivesOn ground (evalId e.2 (search.child p.eval)) id ∧
    GivesOn ground (loadRun? id (p.dir search)) r

theorem collected_loadNamed (h : Grouped results seen done)
    (hrun : exec (loadNamed results e.2 (search.child e.1.1) e.1.2) host = (.ok results', host')) :
    ∃ found, Collected (LoadsAs host.ground search [e]) (placesIn e.1.1 (e.1.2.getD [])) found ∧
      Grouped results' (seen ++ (e.1.2.getD []).map (·.1)) (done ++ found) := by
  obtain ⟨⟨eval, configs?⟩, place⟩ := e
  obtain ⟨id, host₁, hid, hload⟩ := of_exec_bind_ok hrun
  cases configs? with
  | none => cases hload
  | some configs =>
    obtain ⟨found, hfound, hgrouped⟩ := collected_loadConfigs h hload
    rw [(keeps_evalId place _).of_ok hid] at hfound
    refine ⟨found, hfound.imp fun p hp r hr => ?_, hgrouped⟩
    obtain ⟨c, -, hp⟩ := mem_flatMap.mp hp
    obtain ⟨run, -, rfl⟩ := mem_map.mp hp
    exact ⟨_, mem_singleton_self _, id, rfl, ⟨host, host₁, rfl, hid⟩, hr⟩

theorem collected_loadLayout {layout : Layout}
    (hrun : exec (loadLayout search layout) host = (.ok results, host')) :
    ∃ found, Collected (LoadsAs host.ground search layout.zipIdx) (placesOf layout) found ∧
      Grouped results (foundNames layout) found := by
  -- Over the evaluations that are left, with what was found in the others in `done`.
  have hfold : ∀ (layout : Layout) (place : Nat) (before : Results) (seen : List String)
      (done : Found) (host : Host), Grouped before seen done →
      exec ((layout.zipIdx place).foldlM (fun results e =>
        loadNamed results e.2 (search.child e.1.1) e.1.2) before) host = (.ok results, host') →
      ∃ found, Collected (LoadsAs host.ground search (layout.zipIdx place)) (placesOf layout) found ∧
        Grouped results (seen ++ foundNames layout) (done ++ found) := by
    intro layout
    induction layout with
    | nil =>
      intro place before seen done host h hrun
      cases hrun
      exact ⟨[], ⟨.slnil, by simp, by simp [placesOf]⟩, by simpa [foundNames] using h⟩
    | cons e rest ih =>
      intro place before seen done host h hrun
      obtain ⟨after, host₁, hload, hrest⟩ := of_exec_bind_ok hrun
      obtain ⟨first, hfirst, hgrouped⟩ := collected_loadNamed (e := (e, place)) h hload
      obtain ⟨others, hothers, hgrouped⟩ := ih _ _ _ _ _ hgrouped hrest
      rw [(keeps_loadNamed _ _ _ _).of_ok hload] at hothers
      refine ⟨first ++ others, Collected.append (hfirst.imp ?_) (hothers.imp ?_), ?_⟩
      · rintro p - r ⟨f, hf, hloads⟩
        obtain rfl := mem_singleton.mp hf
        exact ⟨_, mem_cons_self, hloads⟩
      · rintro p - r ⟨f, hf, hloads⟩
        exact ⟨f, mem_cons_of_mem _ hf, hloads⟩
      · simpa [foundNames] using hgrouped
  simpa using hfold layout 0 [] [] [] host ⟨rfl, by simp⟩ hrun

/-! ## What a place loads to -/

section Loading

variable {dir : Path}

/-- The name of an evaluation by what lies in its directory: what its metadata say, else the number
in its name, else its place. -/
def evalIdIn (place : Nat) (name : String) (t : Tree) : Except Fault Value :=
  match t.get? ["eval_metadata.json"] with
  | none => .ok (((numberInName? name).map Value.int).getD (.nat place))
  | some file =>
    match file.readText [] >>= Json.read with
    | .ok data => data.lookupD "eval_id" (.nat place)
    | .error f => if f.isOutside || f.isBadJson then .ok (.nat place) else .error f

theorem exec_evalId (h : host.at? dir = some t) (place : Nat) :
    exec (evalId place dir) host = (evalIdIn place dir.name t, host) := by
  rw [evalId, exec_bind_ok (Host.exec_pathExists_child h (by decide)), evalIdIn]
  cases hfile : t.get? ["eval_metadata.json"] with
  | none => rfl
  | some file =>
    have hread := Host.exec_readText_child h (by decide) hfile
    have hdata : exec (do Act.ofExcept (Json.read (← readText (dir.child "eval_metadata.json")))) host =
        (file.readText [] >>= Json.read, host) := by
      cases hs : file.readText [] with
      | error f =>
        rw [hs] at hread
        exact exec_bind_error hread
      | ok s =>
        rw [hs] at hread
        rw [exec_bind_ok hread, exec_ofExcept]
        rfl
    rw [Option.isSome_some, if_pos rfl, exec_bind_ok (exec_result _ _), hdata]
    dsimp only
    cases file.readText [] >>= Json.read with
    | ok data => exact exec_ofExcept _ _
    | error f =>
      dsimp only
      split <;> rfl

theorem of_exec_loadRun {id : Value} {run? : Option Run} (h : host.at? dir = some t)
    (hrun : exec (loadRun? id dir) host = (.ok run?, host')) :
    (run?.isSome = true ↔ HasDocument t ["grading.json"]) ∧
      ∀ r, run? = some r → numberInName? dir.name = some r.number ∧ r.evalId = id := by
  unfold loadRun? at hrun
  cases hnumber : numberInName? dir.name with
  | none =>
    rw [hnumber] at hrun
    cases hrun
  | some number =>
    rw [hnumber] at hrun
    rw [exec_bind_ok (Host.exec_pathExists_child h (by decide))] at hrun
    cases hfile : t.get? ["grading.json"] with
    | none =>
      rw [hfile] at hrun
      cases hrun
      simp [HasDocument, hfile]
    | some file =>
      rw [hfile, Option.isSome_some, Bool.not_true] at hrun
      obtain ⟨s, host₁, hread, hrun⟩ := of_exec_bind_ok hrun
      rw [Host.exec_readText_child h (by decide) hfile] at hread
      obtain ⟨hs, rfl⟩ := Prod.mk.inj hread
      have hiff : HasDocument t ["grading.json"] ↔ ∃ v, Json.read s = .ok v := by
        simp [HasDocument, hfile, hs]
      cases hjson : Json.read s with
      | error f =>
        rw [hjson] at hrun
        have hnone : run? = none := by
          cases f <;> cases hrun
          rfl
        rw [hiff, hnone, hjson]
        simp
      | ok grading =>
        rw [hjson] at hrun
        obtain ⟨measured, host₂, -, hrun⟩ := of_exec_bind_ok hrun
        obtain ⟨expected, host₃, -, hrun⟩ := of_exec_bind_ok hrun
        obtain ⟨noted, host₄, -, hrun⟩ := of_exec_bind_ok hrun
        cases hrun
        rw [hiff, hjson]
        refine ⟨by simp, ?_⟩
        rintro r hr
        cases hr
        exact ⟨rfl, rfl⟩

end Loading

/-! ## The runs of a benchmark -/

section Bench

variable {dir : Path} {bench : Tree}

theorem at?_dir {u v w : Tree} (ht : t.wellNamed = true) (h : host.at? search = some t)
    (hu : (p.eval, u) ∈ t.listing) (hv : (p.config, v) ∈ u.listing) (hw : (p.run, w) ∈ v.listing) :
    host.at? (p.dir search) = some w := by
  have hu' := (Tree.isName_of_mem_listing ht hu).2
  have hv' := (Tree.isName_of_mem_listing hu' hv).2
  have hupath : host.at? (search.child p.eval) = some u :=
    Host.at?_child (e := (p.eval, u)) h ht hu
  have hvpath : host.at? ((search.child p.eval).child p.config) = some v :=
    Host.at?_child (e := (p.config, v)) hupath hu' hv
  have hwpath : host.at? (((search.child p.eval).child p.config).child p.run) = some w :=
    Host.at?_child (e := (p.run, w)) hvpath hv' hw
  exact hwpath

theorem isGraded_iff (hnamed : bench.wellNamed = true) :
    IsGraded bench p ↔ ∃ u v w, (p.eval, u) ∈ named "eval-" (searched bench) ∧
      (p.config, v) ∈ u.listing ∧ (p.run, w) ∈ named "run-" v ∧
        HasDocument w ["grading.json"] := by
  have hsearched := wellNamed_searched hnamed
  constructor
  · rintro ⟨heval, hrun, file, data, hfile, hdata⟩
    obtain ⟨u, hu, hfile⟩ := (Tree.get?_cons_eq_some hsearched).mp hfile
    have hu' := (Tree.isName_of_mem_listing hsearched hu).2
    obtain ⟨v, hv, hfile⟩ := (Tree.get?_cons_eq_some hu').mp hfile
    have hv' := (Tree.isName_of_mem_listing hu' hv).2
    obtain ⟨w, hw, hfile⟩ := (Tree.get?_cons_eq_some hv').mp hfile
    exact ⟨u, v, w, mem_named.mpr ⟨hu, heval⟩, hv, mem_named.mpr ⟨hw, hrun⟩, file, data, hfile,
      hdata⟩
  · rintro ⟨u, v, w, hu, hv, hw, file, data, hfile, hdata⟩
    obtain ⟨hu, heval⟩ := mem_named.mp hu
    obtain ⟨hw, hrun⟩ := mem_named.mp hw
    have hu' := (Tree.isName_of_mem_listing hsearched hu).2
    have hv' := (Tree.isName_of_mem_listing hu' hv).2
    refine ⟨heval, hrun, file, data, ?_, hdata⟩
    exact (Tree.get?_cons_eq_some hsearched).mpr ⟨u, hu, (Tree.get?_cons_eq_some hu').mpr
      ⟨v, hv, (Tree.get?_cons_eq_some hv').mpr ⟨w, hw, hfile⟩⟩⟩

/-- A run has the number in its own name and the name of its own evaluation. -/
structure IsNamedBy (bench : Tree) (p : Place) (r : Run) : Prop where
  number : numberInName? p.run = some r.number
  evalId : ∃ place t, (named "eval-" (searched bench))[place]? = some (p.eval, t) ∧
    evalIdIn place p.eval t = .ok r.evalId

theorem getElem?_of_mem_zipIdx (he : e ∈ (layoutOf t).zipIdx) :
    ∃ u, (named "eval-" t)[e.2]? = some (e.1.1, u) := by
  have hget := mem_zipIdx_iff_getElem?.mp he
  rw [layoutOf, getElem?_map, Option.map_eq_some_iff] at hget
  obtain ⟨⟨name, u⟩, hu, he⟩ := hget
  rw [← he]
  exact ⟨u, hu⟩

/-- What the run at a place of a benchmark loads to. -/
theorem of_loadsAs {r? : Option Run} (hnamed : bench.wellNamed = true)
    (hat : host.at? search = some (searched bench))
    (hp : p ∈ placesOf (layoutOf (searched bench)))
    (h : LoadsAs host.ground search (layoutOf (searched bench)).zipIdx p r?) :
    (r?.isSome = true ↔ IsGraded bench p) ∧ ∀ r, r? = some r →
      IsNamedBy bench p r ∧ GivesOn host.ground (loadRun? r.evalId (p.dir search)) (some r) := by
  have hsearched := wellNamed_searched hnamed
  obtain ⟨u, v, w, hu, hv, hw⟩ := mem_placesOf_layoutOf.mp hp
  have hu' := (mem_named.mp hu).1
  have hv' := (Tree.isName_of_mem_listing hsearched hu').2
  have hw' := (Tree.isName_of_mem_listing hv' hv).2
  have hw'' := (mem_named.mp hw).1
  -- No other entries have these names.
  have hunique : IsGraded bench p ↔ HasDocument w ["grading.json"] := by
    rw [isGraded_iff hnamed]
    constructor
    · rintro ⟨u₁, v₁, w₁, hu₁, hv₁, hw₁, hdocument⟩
      obtain rfl := Tree.eq_of_mem_listing hsearched hu' (mem_named.mp hu₁).1
      obtain rfl := Tree.eq_of_mem_listing hv' hv hv₁
      obtain rfl := Tree.eq_of_mem_listing hw' hw'' (mem_named.mp hw₁).1
      exact hdocument
    · exact fun hdocument => ⟨u, v, w, hu, hv, hw, hdocument⟩
  obtain ⟨e, he, id, heval, ⟨host₁, host₁', hground₁, hid⟩, host₂, host₂', hground₂, hload⟩ := h
  have hdir := (Host.at?_of_ground hground₂ _).trans (at?_dir hsearched hat hu' hv hw'')
  obtain ⟨hsome, hloaded⟩ := of_exec_loadRun hdir hload
  rw [hunique]
  refine ⟨hsome, ?_⟩
  rintro r rfl
  obtain ⟨hnumber, rfl⟩ := hloaded r rfl
  refine ⟨⟨?_, ?_⟩, host₂, host₂', hground₂, hload⟩
  · have hname : Tree.isName p.run = true :=
      (Tree.isName_of_mem_listing (e := (p.run, w)) hw' hw'').1
    rw [Place.dir, Path.name_child _ hname] at hnumber
    exact hnumber
  · obtain ⟨t, ht⟩ := getElem?_of_mem_zipIdx he
    rw [heval] at ht
    refine ⟨e.2, t, ht, ?_⟩
    obtain ⟨ht, -⟩ := mem_named.mp (mem_of_getElem? ht)
    have hname : Tree.isName p.eval = true :=
      (Tree.isName_of_mem_listing (e := (p.eval, t)) hsearched ht).1
    have hevalDir : host₁.at? (search.child p.eval) = some t :=
      (Host.at?_of_ground hground₁ _).trans (Host.at?_child (e := (p.eval, t)) hat hsearched ht)
    rw [exec_evalId hevalDir, Path.name_child _ hname] at hid
    exact (Prod.mk.inj hid).1

theorem collected_loadResults (hnamed : bench.wellNamed = true) (hbench : host.at? dir = some bench)
    (hrun : exec (loadResults dir) host = (.ok results, host')) :
    ∃ found, Collected (LoadsAs host.ground ((searchPath? dir bench).getD dir)
        (layoutOf (searched bench)).zipIdx) (placesOf (layoutOf (searched bench))) found ∧
      Grouped results (foundNames (layoutOf (searched bench))) found := by
  cases hsearch : searchPath? dir bench with
  | none =>
    have hnothing := exec_loadResults_none hbench hsearch
    rw [hrun] at hnothing
    cases hnothing
    rw [layoutOf_of_searchPath hsearch]
    exact ⟨[], ⟨.slnil, by simp, by simp [placesOf]⟩, rfl, by simp⟩
  | some search =>
    rw [exec_loadResults hnamed hbench hsearch] at hrun
    exact collected_loadLayout hrun

theorem at?_searched (hnamed : bench.wellNamed = true) (hbench : host.at? dir = some bench) :
    host.at? ((searchPath? dir bench).getD dir) = some (searched bench) := by
  cases hsearch : searchPath? dir bench with
  | some search => exact at?_searchPath hnamed hbench hsearch
  | none =>
    unfold searchPath? at hsearch
    cases hruns : runsIn? bench with
    | some runs => simp [hruns] at hsearch
    | none =>
      rw [searched, hruns]
      exact hbench

end Bench

end SkillKit.Benchmark
