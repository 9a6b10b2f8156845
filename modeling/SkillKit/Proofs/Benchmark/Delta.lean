import SkillKit.Benchmark.Summary
import SkillKit.Proofs.Benchmark.Places
import Mathlib.Data.List.Permutation

/-!
# From which configuration the delta is told

The delta is what the means of the configuration that was found first have over those of the second
one.  The first one found is, of those with runs in the first evaluation that has any, the first one
by name (`foundFirst_of_head`), whichever of the two has the skill.
-/

namespace SkillKit.Benchmark

open Act Text List

variable {above below : Summary} {bench t : Tree} {results : Results} {host host' : Host}
  {dir : Path} {one other : String} {o : Overview}

theorem names_loadResults (hnamed : bench.wellNamed = true) (hbench : host.at? dir = some bench)
    (hrun : exec (loadResults dir) host = (.ok results, host')) :
    results.map (·.1) = (foundNames (layoutOf (searched bench))).eraseDups := by
  obtain ⟨found, -, hgrouped⟩ := collected_loadResults hnamed hbench hrun
  exact hgrouped.names

/-! ## The one that is found first -/

/-- An evaluation of a benchmark has runs of a configuration. -/
def HasRuns (bench : Tree) (eval config : String) : Prop :=
  startsWith eval "eval-" = true ∧ ∃ run, startsWith run "run-" = true ∧
    ((searched bench).get? [eval, config, run]).isSome = true

/-- In the first evaluation that has runs of one of two configurations, there are runs of the one,
and its name comes first if there are runs of the other one too. -/
def FoundFirst (bench : Tree) (one other : String) : Prop :=
  ∃ eval, HasRuns bench eval one ∧ (HasRuns bench eval other → one < other) ∧
    ∀ earlier < eval, ¬ HasRuns bench earlier one ∧ ¬ HasRuns bench earlier other

theorem FoundFirst.asymm (h : FoundFirst bench one other) : ¬ FoundFirst bench other one := by
  rintro ⟨eval', hhas', hless', hbefore'⟩
  obtain ⟨eval, hhas, hless, hbefore⟩ := h
  have hnot : ¬ eval < eval' := fun hlt => (hbefore' eval hlt).2 hhas
  have hnot' : ¬ eval' < eval := fun hlt => (hbefore eval' hlt).2 hhas'
  obtain rfl : eval = eval' := String.le_antisymm (String.not_lt.mp hnot') (String.not_lt.mp hnot)
  exact String.lt_asymm (hless hhas') (hless' hhas)

theorem FoundFirst.lt (h : FoundFirst bench one other)
    (hboth : ∀ eval, HasRuns bench eval one → HasRuns bench eval other) : one < other := by
  obtain ⟨eval, hhas, hless, -⟩ := h
  exact hless (hboth eval hhas)

theorem mem_configsOf {name : String} :
    name ∈ (configsOf t).map (·.1) ↔
      ∃ u, (name, u) ∈ t.listing ∧ ∃ r ∈ u.listing, startsWith r.1 "run-" = true := by
  simp [configsOf, runNames, named]

theorem hasRuns_iff (hnamed : bench.wellNamed = true) {eval config : String} :
    HasRuns bench eval config ↔
      ∃ t, (eval, t) ∈ named "eval-" (searched bench) ∧ config ∈ (configsOf t).map (·.1) := by
  have hsearched := wellNamed_searched hnamed
  constructor
  · rintro ⟨heval, run, hrun, hsome⟩
    obtain ⟨v, hv⟩ := Option.isSome_iff_exists.mp hsome
    obtain ⟨t, ht, hv⟩ := (Tree.get?_cons_eq_some hsearched).mp hv
    have htnamed := (Tree.isName_of_mem_listing hsearched ht).2
    obtain ⟨u, hu, hv⟩ := (Tree.get?_cons_eq_some htnamed).mp hv
    obtain ⟨w, hw, -⟩ :=
      (Tree.get?_cons_eq_some (Tree.isName_of_mem_listing htnamed hu).2).mp hv
    exact ⟨t, mem_named.mpr ⟨ht, heval⟩, mem_configsOf.mpr ⟨u, hu, _, hw, hrun⟩⟩
  · rintro ⟨t, ht, hconfig⟩
    obtain ⟨ht, heval⟩ := mem_named.mp ht
    obtain ⟨u, hu, ⟨run, w⟩, hw, hrun⟩ := mem_configsOf.mp hconfig
    have htnamed := (Tree.isName_of_mem_listing hsearched ht).2
    refine ⟨heval, run, hrun, Option.isSome_iff_exists.mpr ⟨w, ?_⟩⟩
    refine (Tree.get?_cons_eq_some hsearched).mpr ⟨t, ht, ?_⟩
    refine (Tree.get?_cons_eq_some htnamed).mpr ⟨u, hu, ?_⟩
    exact (Tree.get?_cons_eq_some (Tree.isName_of_mem_listing htnamed hu).2).mpr ⟨w, hw, rfl⟩

theorem foundNames_layoutOf (t : Tree) :
    foundNames (layoutOf t) = (named "eval-" t).flatMap fun e => (configsOf e.2).map (·.1) := by
  rw [foundNames, layoutOf, flatMap_map]
  refine flatMap_congr fun e _ => ?_
  obtain ⟨name, u⟩ := e
  cases u <;> rfl

theorem foundFirst_of_head (hnamed : bench.wellNamed = true)
    (hhead : (foundNames (layoutOf (searched bench))).head? = some one) (hne : one ≠ other) :
    FoundFirst bench one other := by
  rw [foundNames_layoutOf, head?_flatMap, findSome?_eq_some_iff] at hhead
  obtain ⟨before, ⟨eval, t⟩, behind, hsplit, hone, hbefore⟩ := hhead
  have hsearched := wellNamed_searched hnamed
  have hsorted : (named "eval-" (searched bench)).Pairwise fun a b => a.1 < b.1 :=
    (Tree.pairwise_listing hsearched).filter _
  have hmem : (eval, t) ∈ named "eval-" (searched bench) := by
    rw [hsplit]
    exact mem_append_right _ mem_cons_self
  obtain ⟨rest, hrest⟩ := head?_eq_some_iff.mp hone
  rw [hsplit, pairwise_append, pairwise_cons] at hsorted
  -- An evaluation with runs is this one or a later one.
  have hcases : ∀ eval' config, HasRuns bench eval' config →
      eval' = eval ∧ config ∈ (configsOf t).map (·.1) ∨ eval < eval' := by
    intro eval' config hhas
    obtain ⟨t', ht', hconfig⟩ := (hasRuns_iff hnamed).mp hhas
    rw [hsplit, mem_append, mem_cons] at ht'
    rcases ht' with ht' | ht' | ht'
    · rw [head?_eq_none_iff.mp (hbefore _ ht')] at hconfig
      cases hconfig
    · cases ht'
      exact .inl ⟨rfl, hconfig⟩
    · exact .inr (hsorted.2.1.1 _ ht')
  refine ⟨eval, (hasRuns_iff hnamed).mpr ⟨t, hmem, by simp [hrest]⟩, ?_, ?_⟩
  · intro hhas
    have hother : other ∈ (configsOf t).map (·.1) := by
      rcases hcases eval other hhas with ⟨-, hother⟩ | hlt
      · exact hother
      · exact absurd hlt (String.lt_irrefl eval)
    have hpairwise := pairwise_configsOf
      (Tree.isName_of_mem_listing hsearched (mem_named.mp hmem).1).2
    rw [hrest] at hother hpairwise
    rcases mem_cons.mp hother with rfl | hother
    · exact absurd rfl hne
    · exact (pairwise_cons.mp hpairwise).1 other hother
  · intro earlier hlt
    have hnone : ∀ config, ¬ HasRuns bench earlier config := by
      intro config hhas
      rcases hcases earlier config hhas with ⟨rfl, -⟩ | hlater
      · exact String.lt_irrefl earlier hlt
      · exact String.lt_asymm hlt hlater
    exact ⟨hnone one, hnone other⟩

/-! ## What the delta tells -/

/-- A text shows by how much one number lies above another one. -/
def Shows (places : Nat) (above below : Number) (s : String) : Prop :=
  ∃ d x, above.sub below = .ok d ∧ d.toFloat = .ok x ∧ s = Decimal.fixedSigned places x

/-- The delta shows by how much the means of one configuration lie above those of another one. -/
structure Delta.Tells (d : Delta) (above below : Summary) : Prop where
  passRate : Shows 2 above.passRate.mean below.passRate.mean d.passRate
  timeSeconds : Shows 1 above.timeSeconds.mean below.timeSeconds.mean d.timeSeconds
  tokens : Shows 0 above.tokens.mean below.tokens.mean d.tokens

theorem shows_of_shown {places : Nat} {mean : Summary → Number} {s : String}
    (h : Delta.shown places mean (some above) (some below) = .ok s) :
    Shows places (mean above) (mean below) s := by
  obtain ⟨d, hd, h⟩ := Result.bind_eq_ok.mp h
  obtain ⟨x, hx, h⟩ := Result.bind_eq_ok.mp h
  cases h
  exact ⟨d, x, hd, hx, rfl⟩

theorem tells_of_between {d : Delta} (h : Delta.between (some above) (some below) = .ok d) :
    d.Tells above below := by
  obtain ⟨passRate, hpass, h⟩ := Result.bind_eq_ok.mp h
  obtain ⟨timeSeconds, htime, h⟩ := Result.bind_eq_ok.mp h
  obtain ⟨tokens, htokens, h⟩ := Result.bind_eq_ok.mp h
  cases h
  exact ⟨shows_of_shown hpass, shows_of_shown htime, shows_of_shown htokens⟩

/-- The overview sums up the runs of a configuration. -/
def SumsUp (o : Overview) (results : Results) (name : String) (s : Summary) : Prop :=
  ∃ runs, (name, runs) ∈ results ∧ Summary.ofColumns (.ofRuns runs) = .ok s ∧ (name, s) ∈ o.configs

theorem configs_of_overview (h : overview results = .ok o) :
    Forall₂ (fun r c => ∃ s, Summary.ofColumns (.ofRuns r.2) = .ok s ∧ c = (r.1, s))
        results o.configs ∧
      Delta.between (o.configs[0]?.map (·.2)) (o.configs[1]?.map (·.2)) = .ok o.delta := by
  obtain ⟨summaries, hsums, h⟩ := Result.bind_eq_ok.mp h
  obtain ⟨delta, hdelta, h⟩ := Result.bind_eq_ok.mp h
  cases h
  refine ⟨?_, hdelta⟩
  refine (forall₂_map_left_iff.mp (Result.mapM_eq_ok.mp hsums)).imp ?_
  intro r c hc
  obtain ⟨columns, hcolumns, hsum⟩ := Result.bind_eq_ok.mp hc
  obtain ⟨s, hs, hpair⟩ := Result.bind_eq_ok.mp hsum
  rw [← Except.ok.inj hcolumns] at hs
  exact ⟨s, hs, (Except.ok.inj hpair).symm⟩

theorem tells_of_overview {runs runs' : List Run}
    (h : overview [(one, runs), (other, runs')] = .ok o) :
    ∃ s s', SumsUp o [(one, runs), (other, runs')] one s ∧
      SumsUp o [(one, runs), (other, runs')] other s' ∧ o.delta.Tells s s' := by
  obtain ⟨hconfigs, hdelta⟩ := configs_of_overview h
  obtain ⟨configs, delta⟩ := o
  cases hconfigs with
  | cons hfirst hrest =>
    cases hrest with
    | cons hsecond hrest =>
      obtain ⟨s, hs, rfl⟩ := hfirst
      obtain ⟨s', hs', rfl⟩ := hsecond
      exact ⟨s, s', ⟨runs, by simp, hs, by simp⟩, ⟨runs', by simp, hs', by simp⟩,
        tells_of_between hdelta⟩

theorem head_of_eraseDups {names : List String} (h : names.eraseDups = [one, other]) :
    names.head? = some one ∧ one ≠ other := by
  cases names with
  | nil => cases h
  | cons first rest =>
    rw [eraseDups_cons] at h
    obtain ⟨rfl, hrest⟩ := cons.inj h
    have hother : other ∈ rest.filter fun name => !name == first := by
      rw [← mem_eraseDups, hrest]
      exact mem_singleton_self other
    have hne := (mem_filter.mp hother).2
    refine ⟨rfl, ?_⟩
    rintro rfl
    simp at hne

theorem tells_first_found (hnamed : bench.wellNamed = true) (hbench : host.at? dir = some bench)
    (hload : exec (loadResults dir) host = (.ok results, host'))
    (htwo : results.map (·.1) = [one, other]) (ho : overview results = .ok o) :
    FoundFirst bench one other ∧
      ∃ s s', SumsUp o results one s ∧ SumsUp o results other s' ∧ o.delta.Tells s s' := by
  have hnames := names_loadResults hnamed hbench hload
  obtain ⟨hhead, hne⟩ := head_of_eraseDups (hnames.symm.trans htwo)
  refine ⟨foundFirst_of_head hnamed hhead hne, ?_⟩
  -- Two names are those of two configurations.
  match results, htwo with
  | [(_, runs), (_, runs')], htwo =>
    cases htwo
    exact tells_of_overview ho

/-- The delta of a benchmark whose configurations are one with the skill and one that it is
compared with.  It tells by how much the means with the skill lie above the others if runs with the
skill are found first, and by how much they lie below them otherwise.  Where each evaluation has
runs of both or of none, that is settled by the two names. -/
theorem delta_tells_first_found {host host' : Host} {dir : Path} {bench : Tree}
    {results : Results} {o : Overview} {baseline : String} (hbench : host.at? dir = some bench)
    (hnamed : bench.wellNamed = true)
    (hload : exec (loadResults dir) host = (.ok results, host'))
    (htwo : (results.map (·.1)).Perm ["with_skill", baseline])
    (ho : overview results = .ok o) :
    ∃ skill base, SumsUp o results "with_skill" skill ∧ SumsUp o results baseline base ∧
      (FoundFirst bench "with_skill" baseline → o.delta.Tells skill base) ∧
      (¬ FoundFirst bench "with_skill" baseline → o.delta.Tells base skill) ∧
      ((∀ eval, HasRuns bench eval "with_skill" ↔ HasRuns bench eval baseline) →
        (FoundFirst bench "with_skill" baseline ↔ "with_skill" < baseline)) := by
  rcases perm_pair.mp htwo with hskill | hbase
  · obtain ⟨hfirst, skill, base, hskill, hbase, htells⟩ :=
      tells_first_found hnamed hbench hload hskill ho
    refine ⟨skill, base, hskill, hbase, fun _ => htells, fun hnot => absurd hfirst hnot, ?_⟩
    intro hboth
    exact ⟨fun h => h.lt fun eval => (hboth eval).mp, fun _ => hfirst⟩
  · obtain ⟨hfirst, base, skill, hbase, hskill, htells⟩ :=
      tells_first_found hnamed hbench hload hbase ho
    refine ⟨skill, base, hskill, hbase, fun h => absurd hfirst h.asymm, fun _ => htells, ?_⟩
    intro hboth
    have hless := hfirst.lt fun eval => (hboth eval).mpr
    exact ⟨fun h => absurd hfirst h.asymm, fun h => absurd hless (String.lt_asymm h)⟩

theorem named_single (t : Tree) {name start : String} (h : startsWith name start = true) :
    named start (.dir [(name, t)]) = [(name, t)] := by
  rw [named, Tree.listing_of_sorted (pairwise_singleton _ _)]
  simp [h]

theorem configsOf_single (name : String) {t : Tree} (h : runNames t = ["run-1"]) :
    configsOf (.dir [(name, t)]) = [(name, ["run-1"])] := by
  rw [configsOf, Tree.listing_of_sorted (pairwise_singleton _ _), map_singleton, h]
  rfl

theorem configsOf_both {old new : Tree} {more : List String} (hold : runNames old = ["run-1"])
    (hnew : runNames new = "run-1" :: more) :
    configsOf (.dir [("old_skill", old), ("with_skill", new)]) =
      [("old_skill", ["run-1"]), ("with_skill", "run-1" :: more)] := by
  have hsorted : "old_skill" ≤ "with_skill" := by decide
  rw [configsOf, Tree.listing_of_sorted (pairwise_pair.mpr hsorted)]
  simp only [map_cons, hold, hnew]
  rfl

/-- A configuration with one run, in which a share of the checks has passed. -/
def oneRun (rate : String) : Tree :=
  .dir [("run-1", .dir [("grading.json",
    .file ("\x7b\"summary\": \x7b\"pass_rate\": " ++ rate ++ "\x7d\x7d").toUTF8)])]

theorem runNames_oneRun (rate : String) : runNames (oneRun rate) = ["run-1"] := by
  rw [runNames, oneRun, named_single _ (by decide), map_singleton]

/-- A host with a benchmark, in a directory of its own. -/
def hostWith (bench : Tree) : Host :=
  { files := .dir [("bench", bench)] }

def benchDir : Path := ⟨"", ["bench"]⟩

theorem at?_benchDir (bench : Tree) : (hostWith bench).at? benchDir = some bench := rfl

/-- A benchmark of a skill and its old version, with runs of the old one in a later evaluation. -/
def staggeredBench : Tree :=
  .dir [("eval-0", .dir [("with_skill", oneRun "1.0")]),
    ("eval-1", .dir [("old_skill", oneRun "0.0")])]

theorem wellNamed_staggeredBench : staggeredBench.wellNamed = true := by
  decide +kernel

theorem named_staggeredBench :
    named "eval-" staggeredBench = [("eval-0", .dir [("with_skill", oneRun "1.0")]),
      ("eval-1", .dir [("old_skill", oneRun "0.0")])] := by
  rw [named, staggeredBench, Tree.listing_of_sorted (pairwise_pair.mpr (by decide))]
  rfl

theorem layoutOf_staggeredBench :
    layoutOf (searched staggeredBench) =
      [("eval-0", some [("with_skill", ["run-1"])]),
        ("eval-1", some [("old_skill", ["run-1"])])] := by
  change layoutOf staggeredBench = _
  rw [layoutOf, named_staggeredBench]
  simp only [map_cons, configsOf_single _ (runNames_oneRun _)]
  rfl

/-- Its delta is told from the runs with the skill. -/
theorem delta_tells_first_found_staggered :
    ∃ results host' o skill base,
      exec (loadResults benchDir) (hostWith staggeredBench) = (.ok results, host') ∧
      overview results = .ok o ∧ SumsUp o results "with_skill" skill ∧
      SumsUp o results "old_skill" base ∧ o.delta.Tells skill base := by
  have hsearch : searchPath? benchDir staggeredBench = some benchDir := by
    rw [searchPath?, named_staggeredBench]
    rfl
  have hexec := exec_loadResults wellNamed_staggeredBench (at?_benchDir _) hsearch
  rw [layoutOf_staggeredBench] at hexec
  have hok : ((exec (loadResults benchDir) (hostWith staggeredBench)).1
      >>= overview).toOption.isSome = true := by
    rw [hexec]
    decide +kernel
  obtain ⟨results, host', o, hload, ho⟩ := exists_of_isSome hok
  have hnames := names_loadResults wellNamed_staggeredBench (at?_benchDir _) hload
  have htwo : (foundNames (layoutOf (searched staggeredBench))).eraseDups =
      ["with_skill", "old_skill"] := by
    rw [layoutOf_staggeredBench]
    decide
  obtain ⟨skill, base, hskill, hbase, htells, -⟩ :=
    delta_tells_first_found (at?_benchDir _) wellNamed_staggeredBench hload
      (Perm.of_eq (hnames.trans htwo)) ho
  refine ⟨results, host', o, skill, base, hload, ho, hskill, hbase, htells ?_⟩
  apply foundFirst_of_head wellNamed_staggeredBench
  · rw [layoutOf_staggeredBench]
    rfl
  · decide

def oldSkillBench : Tree :=
  .dir [("eval-0", .dir [("old_skill", oneRun "0.0"), ("with_skill", oneRun "1.0")])]

theorem named_oldSkillBench :
    named "eval-" oldSkillBench =
      [("eval-0", .dir [("old_skill", oneRun "0.0"), ("with_skill", oneRun "1.0")])] :=
  named_single _ (by decide)

theorem layoutOf_oldSkillBench :
    layoutOf (searched oldSkillBench) =
      [("eval-0", some [("old_skill", ["run-1"]), ("with_skill", ["run-1"])])] := by
  change layoutOf oldSkillBench = _
  rw [layoutOf, named_oldSkillBench, map_singleton,
    configsOf_both (runNames_oneRun _) (runNames_oneRun _)]
  rfl

/-- Its delta shows a loss where the skill gains. -/
theorem delta_old_skill :
    (do
      let results ← (exec (loadResults benchDir) (hostWith oldSkillBench)).1
      let o ← overview results
      let gain ← Delta.shown 2 (·.passRate.mean) (o.configs.lookup "with_skill")
        (o.configs.lookup "old_skill")
      return (results.map (·.1), o.delta.passRate, gain) :
        Except Fault (List String × String × String)).toOption =
    some (["old_skill", "with_skill"], "-1.00", "+1.00") := by
  have hnamed : oldSkillBench.wellNamed = true := by decide +kernel
  have hsearch : searchPath? benchDir oldSkillBench = some benchDir := by
    rw [searchPath?, named_oldSkillBench]
    rfl
  rw [exec_loadResults hnamed (at?_benchDir _) hsearch, layoutOf_oldSkillBench]
  decide +kernel

end SkillKit.Benchmark
