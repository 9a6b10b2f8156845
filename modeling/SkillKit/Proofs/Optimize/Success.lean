import SkillKit.Proofs.Optimize.Answers
import SkillKit.Proofs.Optimize.Winner

/-!
# When an optimisation reports success

Success is reported when no query to learn from fails, and so also when there is none.  At least one
query of each kind is held out.  So if no kind has two, nothing is left to learn from
(`split_train_eq_nil_iff`), and success is reported after the first turn whatever the calls come to.
-/

namespace SkillKit.Optimize

open Act Trigger List

theorem Completes.after {start host : Host} {calls : Nat} (h : Completes start calls)
    (hafter : After start host) : Completes host calls :=
  ⟨hafter.completion ▸ h.completion, hafter.schedule ▸ h.schedule⟩

theorem Part.failed_eq_zero_iff (p : Part) :
    p.failed = 0 ↔ ∀ o ∈ p.outcomes, o.pass = true := by
  have hle : p.passed ≤ p.total := length_filter_le _ _
  have hfailed : p.failed = 0 ↔ p.passed = p.total := by
    unfold failed
    omega
  rw [hfailed]
  exact length_filter_eq_length_iff

theorem all_passed_ne_max_iterations (n : Nat) (limit : Int) :
    s!"all_passed (iteration {n})" ≠ s!"max_iterations ({limit})" := by
  intro h
  have hhead := congrArg (·.toList.head?) h
  simp [toString, String.toList_append] at hhead

/-! ## The outcomes to learn from -/

section Learned

variable {plan : Plan} {items train test : List Item} {runs : Nat} {start tried : Host}
variable {divided : Except Value Split} {split : Split} {seen : List Attempt} {a : Attempt}

/-- Every attempt of an optimisation has outcomes for the queries to learn from, and for no others
among the ones that it learns from. -/
theorem Tried.learned (h : Tried plan (querySet items) start divided split seen a tried)
    (hall : allQueries divided = .ok (splitOf train test)) (hdivides : Divides plan items train test)
    (hruns : countOf plan.settings.runsPerQuery = .ok runs) (hpos : 0 < runs)
    (hpools : Completes start (runs * items.length)) (q : Atom) :
    q ∈ a.train.outcomes.map (·.query) ↔ ∃ item ∈ train, q = .text item.query := by
  obtain ⟨host, hreached, htry⟩ := h
  obtain ⟨_, _, hmade⟩ := tryDescription_evaluated htry
  obtain ⟨e, printed, clock, he, ha⟩ := evaluateDescription_eq hall hmade
  have hhost := hpools.after hreached.after
  rw [← hdivides.perm.length_eq] at hhost
  have hasked := evaluate_asked hruns he ⟨hhost.completion, hhost.schedule⟩
  rw [ha, attemptFor]
  constructor
  · intro hq
    obtain ⟨o, ho, rfl⟩ := mem_map.mp hq
    obtain ⟨ho, hfor⟩ := mem_filter.mp ho
    obtain ⟨-, item, -, hquery⟩ := (hasked o.query).mp (mem_map_of_mem ho)
    -- the query is that of an item to learn from, if it is one at all
    obtain ⟨learned, hlearned, hsame⟩ := any_eq_true.mp hfor
    rw [hquery, same_text, beq_iff_eq] at hsame
    exact ⟨learned, hlearned, by rw [hquery, hsame]⟩
  · rintro ⟨item, hitem, rfl⟩
    obtain ⟨o, ho, hquery⟩ := mem_map.mp
      ((hasked (.text item.query)).mpr ⟨hpos, item, mem_append_left _ hitem, rfl⟩)
    have hfor : isFor train o = true :=
      any_eq_true.mpr ⟨item, hitem, by rw [hquery, same_text, beq_self_eq_true]⟩
    exact mem_map.mpr ⟨o, mem_filter.mpr ⟨ho, hfor⟩, hquery⟩

theorem Tried.learned_nil_iff (h : Tried plan (querySet items) start divided split seen a tried)
    (hall : allQueries divided = .ok (splitOf train test)) (hdivides : Divides plan items train test)
    (hruns : countOf plan.settings.runsPerQuery = .ok runs) (hpos : 0 < runs)
    (hpools : Completes start (runs * items.length)) : a.train.outcomes = [] ↔ train = [] := by
  have hlearned := h.learned hall hdivides hruns hpos hpools
  constructor
  · intro hnone
    refine eq_nil_iff_forall_not_mem.mpr fun item hitem => ?_
    have hquery := (hlearned _).mpr ⟨item, hitem, rfl⟩
    simp [hnone] at hquery
  · intro hnone
    refine eq_nil_iff_forall_not_mem.mpr fun o ho => ?_
    have hquery := (hlearned o.query).mp (mem_map_of_mem ho)
    simp [hnone] at hquery

theorem EndsWith.divided_by {limit : Nat} {ended : Ended} {before : List Attempt} {last : Attempt}
    (h : EndsWith plan (querySet items) start divided limit ended before last)
    (hholds : Value.before (.int 0) plan.holdout = .ok true) :
    ∃ train test, allQueries divided = .ok (splitOf train test) ∧
      Divides plan items train test ∧ ended.split = splitOf train test ∧
      Optimize.split (querySet items) plan.holdout defaultSeed = .ok (splitOf train test) := by
  obtain ⟨tried, htried⟩ := h.tried
  have hqueries := htried.made.queries
  obtain ⟨_, hreached, -⟩ := htried
  obtain ⟨planned, hplanned⟩ := hreached.planned
  obtain ⟨train, test, _, -, hall, hdivides, hsplit⟩ := divides_of_planSplit hplanned
  exact ⟨train, test, hall, hdivides, Except.ok.inj (hqueries.symm.trans hall), hsplit hholds⟩

theorem countP_kind_items (items : List Item) (kind : Bool) :
    (items.map (·.value)).countP (isWanted · == kind) =
      items.countP (·.wanted.truthy == kind) := by
  rw [countP_map]
  exact countP_congr fun item _ => by simp [isWanted, item.entry_wanted]

end Learned

/-! ## Success -/

/-- When an optimisation that holds queries out reports success, if pools do all of their calls.  It
does exactly if every outcome of the last turn that it learns from passes, and each query to learn
from has an outcome.  But there is such a query exactly if fewer queries of some kind are held out
than there are.  If no kind has two queries, then success is reported after the first turn, and no
query was learned from. -/
theorem optimize_succeeds_iff (plan : Plan) (items : List Item) (start host : Host) (r : Result)
    (runs : Nat) (hholds : Value.before (.int 0) plan.holdout = .ok true)
    (hruns : countOf plan.settings.runsPerQuery = .ok runs) (hpos : 1 ≤ runs)
    (hpools : Completes start (runs * items.length))
    (hrun : exec (optimize plan (querySet items)) start = (.ok r, host)) :
    ∃ before last, r.history = before ++ [last] ∧
      ((∃ n : Nat, r.exitReason = s!"all_passed (iteration {n})") ↔
        ∀ o ∈ last.train.outcomes, o.pass = true) ∧
      (∀ q ∈ r.split.train, ∃ o ∈ last.train.outcomes, q.entry "query" = .ok (.atom o.query)) ∧
      (1 ≤ last.train.total ↔ ∃ (kind : Bool) (n : Nat),
        heldOut (items.countP (·.wanted.truthy == kind)) plan.holdout = .ok n ∧
          n < items.countP (·.wanted.truthy == kind)) ∧
      ((∀ kind : Bool, items.countP (·.wanted.truthy == kind) ≤ 1) →
        before = [] ∧ r.exitReason = "all_passed (iteration 1)" ∧ last.train.total = 0) := by
  obtain ⟨divided, before, last, ended, hends, -, hr⟩ := optimize_ended hrun
  have hreason : r.exitReason = ended.reason := by rw [hr]
  have hhistory : r.history = before ++ [last] := by rw [hr, ← hends.history]
  have hlast : last ∈ ended.history := by simp [hends.history]
  obtain ⟨train, test, hall, hdivides, htold, hsplit⟩ := hends.divided_by hholds
  have hempty : train = [] ↔ ∀ (kind : Bool) (n : Nat),
      heldOut (items.countP (·.wanted.truthy == kind)) plan.holdout = .ok n →
        items.countP (·.wanted.truthy == kind) ≤ n := by
    have hnil := split_train_eq_nil_iff hsplit
    simpa only [splitOf, map_eq_nil_iff, countP_kind_items] using hnil
  have hnone : ∀ a ∈ ended.history, a.train.outcomes = [] ↔ train = [] := by
    intro a ha
    obtain ⟨_, _, htried⟩ := hends.tried_of_mem ha
    exact htried.learned_nil_iff hall hdivides hruns hpos hpools
  refine ⟨before, last, hhistory, ?_, ?_, ?_, ?_⟩
  · rw [hreason, ← Part.failed_eq_zero_iff]
    constructor
    · rintro ⟨n, hn⟩
      by_contra hfailed
      exact all_passed_ne_max_iterations n _ (hn.symm.trans (hends.exhausted hfailed).2)
    · exact fun hpassed => ⟨_, hends.passed hpassed⟩
  · intro q hq
    rw [hr, htold] at hq
    obtain ⟨item, hitem, rfl⟩ := mem_map.mp hq
    obtain ⟨_, htried⟩ := hends.tried
    obtain ⟨o, ho, hquery⟩ := mem_map.mp
      ((htried.learned hall hdivides hruns hpos hpools _).mpr ⟨item, hitem, rfl⟩)
    exact ⟨o, ho, by rw [hquery]; exact item.entry_query⟩
  · rw [Nat.one_le_iff_ne_zero, Part.total, ne_eq, length_eq_zero_iff, hnone last hlast, hempty]
    simp only [not_forall, not_le, exists_prop]
  · intro hfew
    have hnothing : train = [] :=
      hempty.mpr fun kind n hn => (hfew kind).trans (heldOut_pos hn)
    have hpassed : ∀ a ∈ ended.history, a.train.failed = 0 := by
      intro a ha
      rw [Part.failed_eq_zero_iff, (hnone a ha).mpr hnothing]
      simp
    -- an attempt before the last one would have queries that fail
    have hfirst : before = [] := by
      refine eq_nil_iff_forall_not_mem.mpr fun a ha => ?_
      have hfailed := hends.failing a ha
      rw [hpassed a (by simp [hends.history, ha])] at hfailed
      exact Nat.lt_irrefl 0 hfailed
    refine ⟨hfirst, ?_, ?_⟩
    · rw [hreason, hends.passed (hpassed last hlast), hfirst]
      rfl
    · rw [Part.total, (hnone last hlast).mpr hnothing]
      rfl

theorem optimize_succeeds_second :
    let plan := { samplePlan (.float 0.4) with maxIterations := 2, reportPath := none }
    let items := [sampleItem "a" true, sampleItem "b" true, sampleItem "c" false]
    let start : Host := {
      replies := [.ended 0 "<new_description>Use it</new_description>" ""]
      verdicts := [.triggered false, .triggered false, .triggered false, .triggered true, .triggered true]
      completion := some [2, 0, 1] }
    ∃ r host before last, exec (optimize plan (querySet items)) start = (.ok r, host) ∧
      r.history = before ++ [last] ∧ r.exitReason = "all_passed (iteration 2)" ∧
      1 ≤ last.train.total ∧ ∀ o ∈ last.train.outcomes, o.pass = true := by
  intro plan items start
  obtain ⟨hpools, r, host, h, -, -, -, hreason⟩ := optimize_three
  have hholds : Value.before (.int 0) plan.holdout = .ok true :=
    Result.eq_ok_of_toOption (by decide +kernel)
  obtain ⟨before, last, hhistory, hpassed, -, htotal, -⟩ := optimize_succeeds_iff plan items start
    host r 1 hholds rfl le_rfl hpools h
  exact ⟨r, host, before, last, h, hhistory, hreason,
    htotal.mpr ⟨true, 1, Result.eq_ok_of_toOption (by decide +kernel), by decide⟩,
    hpassed.mp ⟨2, hreason⟩⟩

theorem optimize_succeeds_unlearned :
    let plan := { samplePlan (.float 0.5) with reportPath := none }
    let items := [sampleItem "a" true, sampleItem "b" false]
    (exec (optimize plan (querySet items)) {}).1.toOption.map
      (fun r => (r.exitReason, r.history.map (·.train.total))) =
        some ("all_passed (iteration 1)", [0]) := by
  decide +kernel

end SkillKit.Optimize
