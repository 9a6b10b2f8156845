import SkillKit.Benchmark.Report
import SkillKit.Proofs.Benchmark.Delta
import SkillKit.Proofs.Data.OrderedMap
import SkillKit.Proofs.Data.Sorting
import SkillKit.Proofs.Json.Strings
import Mathlib.Data.Prod.Lex
import Mathlib.Data.String.Basic

/-!
# The runs in a report

A report lists the runs of a benchmark by configuration, while they are found evaluation by
evaluation: its list is what was found, in another order (`perm_byConfig`), which stays within a
configuration (`filter_byConfig`).
-/

namespace SkillKit.Benchmark

open Act Text List SkillKit.Tree Fields Value Result

variable {seen configs : List String} {found : Found} {o : Overview} {ids : List Value}

variable {results : Results} {runs : List Run} {config : String}

/-! ## Runs by configuration -/

theorem nodup_eraseDups (names : List String) : names.eraseDups.Nodup := by
  induction hn : names.length using Nat.strongRecOn generalizing names with
  | ind n ih =>
    cases names with
    | nil => simp
    | cons name rest =>
      rw [eraseDups_cons, nodup_cons]
      refine ⟨by simp, ih _ ?_ _ rfl⟩
      rw [← hn]
      exact Nat.lt_succ_of_le (length_filter_le _ _)

/-- What was found, one configuration after the other. -/
def byConfig (configs : List String) (found : Found) : Found :=
  configs.flatMap fun config => found.filter (·.1.config == config)

theorem perm_byConfig (hnodup : configs.Nodup) (hall : ∀ e ∈ found, e.1.config ∈ configs) :
    (byConfig configs found).Perm found := by
  induction configs generalizing found with
  | nil =>
    cases found with
    | nil => exact .refl _
    | cons e _ => exact absurd (hall e mem_cons_self) (by simp)
  | cons config rest ih =>
    obtain ⟨hnew, hrest⟩ := nodup_cons.mp hnodup
    -- The other configurations only have what is not of this one.
    have hothers : byConfig rest found =
        byConfig rest (found.filter fun e => !(e.1.config == config)) := by
      refine flatMap_congr fun other hother => ?_
      rw [filter_filter]
      refine filter_congr fun e _ => ?_
      have hne : other ≠ config := fun heq => hnew (heq ▸ hother)
      by_cases he : e.1.config = other <;> simp [he, hne]
    have hleft : ∀ e ∈ found.filter (fun e => !(e.1.config == config)), e.1.config ∈ rest := by
      intro e he
      obtain ⟨he, hne⟩ := mem_filter.mp he
      rcases mem_cons.mp (hall e he) with heq | hmem
      · simp [heq] at hne
      · exact hmem
    refine (Perm.append_left _ ?_).trans (filter_append_perm _ found)
    exact (Perm.of_eq hothers).trans (ih hrest hleft)

theorem filter_byConfig (hnodup : configs.Nodup) (hall : ∀ e ∈ found, e.1.config ∈ configs)
    (config : String) :
    (byConfig configs found).filter (·.1.config == config) =
      found.filter (·.1.config == config) := by
  have hstep : ∀ other, (found.filter (·.1.config == other)).filter (·.1.config == config) =
      if other = config then found.filter (·.1.config == config) else [] := by
    intro other
    rw [filter_filter]
    split
    · rename_i heq
      simp [heq]
    · rename_i hne
      refine filter_eq_nil_iff.mpr fun e _ => ?_
      by_cases he : e.1.config = config <;> simp [he, Ne.symm hne]
  have hmem : (byConfig configs found).filter (·.1.config == config) =
      if config ∈ configs then found.filter (·.1.config == config) else [] := by
    clear hall
    induction configs with
    | nil => rfl
    | cons other rest ih =>
      obtain ⟨hnew, hrest⟩ := nodup_cons.mp hnodup
      rw [byConfig, flatMap_cons, filter_append, hstep]
      refine (congrArg _ (ih hrest)).trans ?_
      by_cases heq : other = config
      · subst heq
        simp [hnew]
      · simp [heq, Ne.symm heq]
  rw [hmem]
  split
  · rfl
  · rename_i hnot
    refine (filter_eq_nil_iff.mpr fun e he => ?_).symm
    have hne : e.1.config ≠ config := fun heq => hnot (heq ▸ hall e he)
    simpa using hne

theorem Grouped.flatMap_eq {α : Type} (h : Grouped results seen found) (f : String → Run → α) :
    (results.flatMap fun c => c.2.map (f c.1)) =
      (byConfig seen.eraseDups found).map fun e => f e.1.config e.2 := by
  rw [h.results_eq, flatMap_map, byConfig, map_flatMap]
  refine flatMap_congr fun config _ => ?_
  rw [runsOf, map_map]
  refine map_congr_left fun e he => ?_
  have hconfig : e.1.config = config := by simpa using (mem_filter.mp he).2
  rw [hconfig]
  rfl

/-! ## Statistics of a configuration -/

/-- Whether a document can name an evaluation: it is a number without a fraction, or a text. -/
def isId : Value → Bool
  | .int _ => true
  | .text _ => true
  | _ => false

theorem isId_iff {v : Value} : isId v = true ↔ (∃ n, v = .int n) ∨ ∃ s, v = .text s := by
  constructor
  · intro h
    unfold isId at h
    split at h
    · exact .inl ⟨_, rfl⟩
    · exact .inr ⟨_, rfl⟩
    · cases h
  · rintro (⟨n, rfl⟩ | ⟨s, rfl⟩) <;> rfl

/-- The names are all numbers, or all texts. -/
def Alike (ids : List Value) : Prop :=
  (∀ v ∈ ids, ∃ n, v = .int n) ∨ ∀ v ∈ ids, ∃ s, v = .text s

namespace Alike

variable {a b : Value}

theorem isId (h : Alike ids) (ha : a ∈ ids) : isId a = true :=
  isId_iff.mpr (h.imp (fun h => h a ha) fun h => h a ha)

end Alike

/-- Entries list the graded runs of a benchmark: each of them once, as it is loaded and with the
names of its own directories, and those of a configuration by evaluation and then by run. -/
structure ListsGraded (host : Host) (dir : Path) (bench : Tree) (entries : Found) : Prop where
  nodup : (entries.map (·.1)).Nodup
  mem_iff : ∀ p, p ∈ entries.map (·.1) ↔ IsGraded bench p
  isNamedBy : ∀ e ∈ entries, IsNamedBy bench e.1 e.2
  loaded : ∀ e ∈ entries, GivesOn host.ground
    (loadRun? e.2.evalId (e.1.dir ((searchPath? dir bench).getD dir))) (some e.2)
  ordered : ∀ config, (entries.filter (·.1.config == config)).Pairwise fun a b =>
    a.1.eval < b.1.eval ∨ a.1.eval = b.1.eval ∧ a.1.run < b.1.run

section Report

variable {host host' : Host} {dir : Path} {bench : Tree}

theorem listsGraded_byConfig (hnamed : bench.wellNamed = true) (hbench : host.at? dir = some bench)
    (hfound : Collected (LoadsAs host.ground ((searchPath? dir bench).getD dir)
      (layoutOf (searched bench)).zipIdx) (placesOf (layoutOf (searched bench))) found)
    (hnodup : configs.Nodup) (hconfigs : ∀ e ∈ found, e.1.config ∈ configs) :
    ListsGraded host dir bench (byConfig configs found) := by
  have hat := at?_searched hnamed hbench
  have hloads := fun e he => of_loadsAs hnamed hat
    (hfound.sublist.subset (mem_map_of_mem he)) (hfound.loaded e he)
  have hperm : (byConfig configs found).Perm found := perm_byConfig hnodup hconfigs
  have hsorted : (found.map (·.1)).Pairwise Place.Before :=
    (pairwise_placesOf (wellNamed_searched hnamed)).sublist hfound.sublist
  refine ⟨?_, ?_, ?_, ?_, ?_⟩
  · exact (hperm.map _).nodup_iff.mpr (hsorted.imp Place.Before.ne)
  · intro p
    rw [(hperm.map _).mem_iff]
    constructor
    · intro hp
      obtain ⟨e, he, rfl⟩ := mem_map.mp hp
      exact (hloads e he).1.mp rfl
    · intro hgraded
      obtain ⟨u, v, w, hu, hv, hw, -⟩ := (isGraded_iff hnamed).mp hgraded
      have hp := mem_placesOf_layoutOf.mpr ⟨u, v, w, hu, hv, hw⟩
      refine (hfound.left p hp).resolve_right fun hnone => ?_
      have hsome := (of_loadsAs hnamed hat hp hnone).1.mpr hgraded
      cases hsome
  · exact fun e he => ((hloads e (hperm.mem_iff.mp he)).2 e.2 rfl).1
  · exact fun e he => ((hloads e (hperm.mem_iff.mp he)).2 e.2 rfl).2
  · intro config
    rw [filter_byConfig hnodup hconfigs]
    rw [pairwise_map] at hsorted
    refine (hsorted.filter _).imp_of_mem ?_
    intro a b ha hb hbefore
    have hsame : a.1.config = b.1.config := by
      have ha := (mem_filter.mp ha).2
      have hb := (mem_filter.mp hb).2
      exact (beq_iff_eq.mp ha).trans (beq_iff_eq.mp hb).symm
    refine hbefore.imp_right fun h => ⟨h.1, ?_⟩
    rcases h.2 with hlt | ⟨-, hrun⟩
    · exact absurd (hsame ▸ hlt) (String.lt_irrefl _)
    · exact hrun

end Report

end SkillKit.Benchmark
