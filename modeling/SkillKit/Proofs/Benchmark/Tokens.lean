import SkillKit.Proofs.Benchmark.Outcome

/-!
# Where the tokens of a run come from

The tokens of a run are those of its timing file only if its grading has no time of its own.  A
grading with a time hides the file, and the characters written stand for the tokens
(`tokens_by_graded_time`).
-/

namespace SkillKit.Benchmark

open Act Text List SkillKit.Tree Json

variable {v w other : Value} {key name : String} {t : Tree}

/-- A file has the text of a document. -/
def DocumentAt (t : Tree) (names : List String) (v : Value) : Prop :=
  ∃ file, t.get? names = some file ∧ (file.readText [] >>= read) = .ok v

/-- The time that a grading has of its own. -/
def gradedTime (grading : Value) : Value :=
  ((grading.field? "timing").bind (·.field? "total_duration_seconds")).getD (.float 0.0)

def outputChars (grading : Value) : Value :=
  ((grading.field? "execution_metrics").bind (·.field? "output_chars")).getD (.int 0)

/-! ## One run -/

section Run

variable {host host' : Host} {dir : Path} {grading timing : Value} {total : Int}

theorem of_exec_ofExcept_bind {α β : Type} {r : Except Fault α} {next : α → Act β} {b : β}
    (h : exec (Act.ofExcept r >>= next) host = (.ok b, host')) :
    ∃ a, r = .ok a ∧ exec (next a) host = (.ok b, host') := by
  obtain ⟨a, host₁, hr, h⟩ := of_exec_bind_ok h
  obtain ⟨hok, rfl⟩ := Prod.mk.inj ((exec_ofExcept r host).symm.trans hr)
  exact ⟨a, hok, h⟩

theorem of_lookupD (h : v.lookupD key other = .ok w) : w = (v.field? key).getD other := by
  cases v with
  | dict fields => exact (Except.ok.inj h).symm
  | _ => cases h

theorem of_section? {part : Value} (hpart : section? v name = .ok part)
    (h : part.lookupD key other = .ok w) :
    w = ((v.field? name).bind (·.field? key)).getD other := by
  rw [of_lookupD h, of_lookupD hpart]
  cases v.field? name <;> rfl

theorem of_timeAndTokens {time : Value} {counted : Option Value} (h : host.at? dir = some t)
    (htiming : DocumentAt t ["timing.json"] timing)
    (htotal : timing.field? "total_tokens" = some (.int total))
    (hrun : exec (timeAndTokens dir grading) host = (.ok (time, counted), host')) :
    counted = if (gradedTime grading).same (.float 0.0) then some (.int total) else none := by
  obtain ⟨file, hfile, hdata⟩ := htiming
  obtain ⟨s, hread, hjson⟩ := exists_text_of_read h (by decide) hfile hdata
  have hexists := Host.exec_pathExists_child h (by decide : isName "timing.json" = true)
  rw [hfile] at hexists
  obtain ⟨part, hpart, hrun⟩ := of_exec_ofExcept_bind hrun
  obtain ⟨own, hown, hrun⟩ := of_exec_ofExcept_bind hrun
  obtain rfl : own = gradedTime grading := of_section? hpart hown
  cases hsame : (gradedTime grading).same (.float 0.0) with
  | false =>
    -- With a time of its own the file is not looked at.
    rw [hsame] at hrun
    cases hrun
    rfl
  | true =>
    rw [hsame, Bool.not_true, if_neg Bool.false_ne_true, exec_bind_ok hexists, Option.isSome_some,
      Bool.not_true, if_neg Bool.false_ne_true, exec_bind_ok hread, hjson] at hrun
    obtain ⟨taken, -, hrun⟩ := of_exec_ofExcept_bind hrun
    obtain ⟨tokens, htokens, hrun⟩ := of_exec_ofExcept_bind hrun
    cases hrun
    rw [of_lookupD htokens, htotal]
    rfl

theorem of_measures {m : Measures} (h : host.at? dir = some t)
    (htiming : DocumentAt t ["timing.json"] timing)
    (htotal : timing.field? "total_tokens" = some (.int total)) (hpos : 0 < total)
    (hrun : exec (measures dir grading) host = (.ok m, host')) :
    m.tokens = if (gradedTime grading).same (.float 0.0) then .int total
      else outputChars grading := by
  obtain ⟨summary, -, hrun⟩ := of_exec_ofExcept_bind hrun
  obtain ⟨passRate, -, hrun⟩ := of_exec_ofExcept_bind hrun
  obtain ⟨passed, -, hrun⟩ := of_exec_ofExcept_bind hrun
  obtain ⟨failed, -, hrun⟩ := of_exec_ofExcept_bind hrun
  obtain ⟨all, -, hrun⟩ := of_exec_ofExcept_bind hrun
  obtain ⟨⟨time, counted⟩, host₁, htime, hrun⟩ := of_exec_bind_ok hrun
  obtain ⟨metrics, hmetrics, hrun⟩ := of_exec_ofExcept_bind hrun
  obtain ⟨calls, -, hrun⟩ := of_exec_ofExcept_bind hrun
  obtain ⟨written, hwritten, hrun⟩ := of_exec_ofExcept_bind hrun
  obtain ⟨errors, -, hrun⟩ := of_exec_ofExcept_bind hrun
  cases hrun
  obtain rfl : written = outputChars grading := of_section? hmetrics hwritten
  rw [of_timeAndTokens h htiming htotal htime]
  cases (gradedTime grading).same (.float 0.0) with
  | false => rfl
  | true =>
    have htruthy : (Value.int total).truthy = true := bne_iff_ne.mpr hpos.ne'
    simp [htruthy]

theorem tokens_of_loadRun {id : Value} {r : Run} (h : host.at? dir = some t)
    (hgrading : DocumentAt t ["grading.json"] grading)
    (htiming : DocumentAt t ["timing.json"] timing)
    (htotal : timing.field? "total_tokens" = some (.int total)) (hpos : 0 < total)
    (hrun : exec (loadRun? id dir) host = (.ok (some r), host')) :
    r.measures.tokens = if (gradedTime grading).same (.float 0.0) then .int total
      else outputChars grading := by
  obtain ⟨file, hfile, hdata⟩ := hgrading
  obtain ⟨s, hread, hjson⟩ := exists_text_of_read h (by decide) hfile hdata
  unfold loadRun? at hrun
  cases hnumber : numberInName? dir.name with
  | none =>
    rw [hnumber] at hrun
    cases hrun
  | some number =>
    rw [hnumber] at hrun
    rw [exec_bind_ok (Host.exec_pathExists_child h (by decide)), hfile, Option.isSome_some,
      Bool.not_true, if_neg Bool.false_ne_true, exec_bind_ok hread, hjson] at hrun
    obtain ⟨m, host₁, hmeasures, hrun⟩ := of_exec_bind_ok hrun
    obtain ⟨expected, host₂, -, hrun⟩ := of_exec_bind_ok hrun
    obtain ⟨noted, -, hrun⟩ := of_exec_ofExcept_bind hrun
    cases hrun
    exact of_measures h htiming htotal hpos hmeasures

end Run

/-! ## All runs -/

section Bench

variable {host : Host} {dir : Path} {bench : Tree}

theorem at?_place {p : Place} (hbench : host.at? dir = some bench) (hnamed : bench.wellNamed = true)
    (h : (searched bench).get? [p.eval, p.config, p.run] = some t) :
    host.at? (p.dir ((searchPath? dir bench).getD dir)) = some t := by
  have hsearched := wellNamed_searched hnamed
  obtain ⟨u, hu, h⟩ := (get?_cons_eq_some hsearched).mp h
  have hu' := (isName_of_mem_listing hsearched hu).2
  obtain ⟨v, hv, h⟩ := (get?_cons_eq_some hu').mp h
  have hv' := (isName_of_mem_listing hu' hv).2
  obtain ⟨w, hw, h⟩ := (get?_cons_eq_some hv').mp h
  cases h
  exact at?_dir hsearched (at?_searched hnamed hbench) hu hv hw

/-- A benchmark whose documents have their shapes and whose runs have numbers is loaded.  The graded
runs are what is loaded.  One with a total in its timing file has this total for its tokens if its
grading has no time of its own, and otherwise the characters written. -/
theorem tokens_by_graded_time (hbench : host.at? dir = some bench)
    (hnamed : bench.wellNamed = true) :
    (FollowsSchema bench → nameFault? bench = none →
      ∃ results host', exec (loadResults dir) host = (.ok results, host')) ∧
    ∀ results host', exec (loadResults dir) host = (.ok results, host') →
      ∃ entries : Found, ListsGraded host dir bench entries ∧
        (results.flatMap fun c => c.2.map fun r => (c.1, r)) =
          entries.map (fun e => (e.1.config, e.2)) ∧
        ∀ e ∈ entries, ∀ t grading timing total,
          (searched bench).get? [e.1.eval, e.1.config, e.1.run] = some t →
          DocumentAt t ["grading.json"] grading → DocumentAt t ["timing.json"] timing →
          timing.field? "total_tokens" = some (.int total) → 0 < total →
          e.2.measures.tokens = if (gradedTime grading).same (.float 0.0) then .int total
            else outputChars grading := by
  constructor
  · intro hschema hnames
    have hfault := fault?_loadResults hbench hnamed hschema
    rw [hnames] at hfault
    cases hrun : exec (loadResults dir) host with
    | mk outcome host' =>
      rw [hrun] at hfault
      cases outcome with
      | ok results => exact ⟨results, host', rfl⟩
      | error f => cases hfault
  · intro results host' hrun
    obtain ⟨found, hcollected, hgrouped⟩ := collected_loadResults hnamed hbench hrun
    have hlists := listsGraded_byConfig hnamed hbench hcollected (nodup_eraseDups _)
      fun e he => mem_eraseDups.mpr (hgrouped.config_mem e he)
    refine ⟨_, hlists, hgrouped.flatMap_eq Prod.mk, ?_⟩
    intro e he t grading timing total ht hgrading htiming htotal hpos
    obtain ⟨host₁, host₂, hground, hload⟩ := hlists.loaded e he
    have hat := (Host.at?_of_ground hground _).trans (at?_place hbench hnamed ht)
    exact tokens_of_loadRun hat hgrading htiming htotal hpos hload

end Bench

/-! ## A total beside a grading with its own time -/

def totalledRun (grading : String) : Tree :=
  .dir [("grading.json", .file grading.toUTF8),
    ("timing.json", .file "\x7b\"total_tokens\": 100\x7d".toUTF8)]

def totalledBench (grading : String) : Tree :=
  .dir [("eval-0", .dir [("with_skill", .dir [("run-1", totalledRun grading)])])]

theorem named_totalledBench (grading : String) : named "eval-" (searched (totalledBench grading)) =
    [("eval-0", .dir [("with_skill", .dir [("run-1", totalledRun grading)])])] :=
  named_single _ (by decide)

theorem named_totalledRun (grading : String) : named "run-" (.dir [("run-1", totalledRun grading)]) =
    [("run-1", totalledRun grading)] :=
  named_single _ (by decide)

theorem layoutOf_totalledBench (grading : String) :
    layoutOf (searched (totalledBench grading)) =
      [("eval-0", some [("with_skill", ["run-1"])])] := by
  have hruns : runNames (.dir [("run-1", totalledRun grading)]) = ["run-1"] := by
    rw [runNames, named_totalledRun, map_singleton]
  rw [layoutOf, named_totalledBench, map_singleton, configsOf_single _ hruns]
  rfl

def timedGrading : String :=
  "\x7b\"expectations\": [\x7b\"text\": \"a\", \"passed\": true, \"evidence\": \"b\"\x7d], " ++
    "\"summary\": \x7b\"passed\": 1, \"failed\": 0, \"total\": 1, \"pass_rate\": 1.0\x7d, " ++
    "\"execution_metrics\": \x7b\"output_chars\": 10\x7d, " ++
    "\"timing\": \x7b\"total_duration_seconds\": 1.5\x7d\x7d"

/-- A grading with a time hides the total. -/
theorem total_hidden :
    (exec (loadResults benchDir) (hostWith (totalledBench timedGrading))).1.toOption.any
      (·.any (·.2.any (·.measures.tokens.same (.int 10)))) = true := by
  have hnamed : (totalledBench timedGrading).wellNamed = true := by decide +kernel
  have hsearch : searchPath? benchDir (totalledBench timedGrading) = some benchDir := by
    rw [searchPath?, show named "eval-" (totalledBench timedGrading) = _ from named_totalledBench _]
    rfl
  rw [exec_loadResults hnamed (at?_benchDir _) hsearch, layoutOf_totalledBench]
  decide +kernel

theorem documentAt_of_write {s : String} (hfile : t.get? [name] = some (.file s.toUTF8))
    (hjson : isJson v = true) (hwrite : (write v).toOption = some s) :
    DocumentAt t [name] v := by
  have hback := readsBack_of_write hjson hwrite
  refine ⟨_, hfile, ?_⟩
  rw [readText_toUTF8, hback.unifyLines]
  exact hback.read

/-- A grading without a time leaves the total. -/
theorem tokens_by_graded_time_untimed : ∃ results host', ∃ entries : Found,
    exec (loadResults benchDir) (hostWith (totalledBench "\x7b\x7d")) = (.ok results, host') ∧
    (results.flatMap fun c => c.2.map fun r => (c.1, r)) =
      entries.map (fun e => (e.1.config, e.2)) ∧
    ∃ e ∈ entries, e.1 = ⟨"eval-0", "with_skill", "run-1"⟩ ∧ e.2.measures.tokens = .int 100 := by
  have hnamed : (totalledBench "\x7b\x7d").wellNamed = true := by decide +kernel
  have hgrading : DocumentAt (totalledRun "\x7b\x7d") ["grading.json"] (.dict []) :=
    documentAt_of_write rfl (by decide +kernel) (by decide +kernel)
  have htiming : DocumentAt (totalledRun "\x7b\x7d") ["timing.json"]
      (.object [("total_tokens", .int 100)]) :=
    documentAt_of_write rfl (by decide +kernel) (by decide +kernel)
  have hruns : ∀ e ∈ named "eval-" (searched (totalledBench "\x7b\x7d")), ∀ c ∈ e.2.listing,
      ∀ r ∈ named "run-" c.2, r.2 = totalledRun "\x7b\x7d" := by
    intro e he c hc r hr
    rw [named_totalledBench, mem_singleton] at he
    rw [he, listing_of_sorted (pairwise_singleton _ _), mem_singleton] at hc
    rw [hc, named_totalledRun, mem_singleton] at hr
    rw [hr]
  have hschema : FollowsSchema (totalledBench "\x7b\x7d") := by
    refine ⟨fun e he => ?_, fun e he c hc r hr => ?_, fun e he c hc r hr => ?_⟩
    · rw [named_totalledBench, mem_singleton] at he
      rw [he]
      exact follows_of_missing rfl
    · rw [hruns e he c hc r hr]
      exact follows_of_document rfl (by decide +kernel)
    · rw [hruns e he c hc r hr]
      exact follows_of_document rfl (by decide +kernel)
  have hnames : nameFault? (totalledBench "\x7b\x7d") = none := by
    rw [nameFault?, layoutOf_totalledBench]
    decide +kernel
  obtain ⟨hloads, htokens⟩ := tokens_by_graded_time (at?_benchDir _) hnamed
  obtain ⟨results, host', hrun⟩ := hloads hschema hnames
  obtain ⟨entries, hlists, hentries, htokens⟩ := htokens results host' hrun
  obtain ⟨file, hfile, hread⟩ := hgrading
  obtain ⟨e, he, hplace⟩ := mem_map.mp ((hlists.mem_iff ⟨"eval-0", "with_skill", "run-1"⟩).mpr
    ⟨by decide, by decide, file, .dict [], hfile, hread⟩)
  refine ⟨results, host', entries, hrun, hentries, e, he, hplace, ?_⟩
  rw [htokens e he _ _ _ 100 (by rw [hplace]; rfl) ⟨file, hfile, hread⟩ htiming rfl (by decide)]
  rfl

end SkillKit.Benchmark
