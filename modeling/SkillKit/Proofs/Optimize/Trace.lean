import SkillKit.Proofs.Optimize.Turns

/-!
# The trace of an optimisation

The history that an optimisation returns is its whole trace.  The attempts are numbered in order
(`Reached.numbered`), each carries the description that was proposed after the one before it
(`Reached.continues`), and the last one ended the turns (`turns_ended`).
-/

namespace SkillKit.Optimize

open Act Trigger List

variable {after before history : List Attempt} {best a : Attempt} {hasTest : Bool} {r : Result}
  {divided : Except Value Split} {description : String} {split : Split}

/-! ## The best attempt -/

/-- The first attempt of the highest rank in a history. -/
structure FirstBest (hasTest : Bool) (history : List Attempt) (best : Attempt)
    (before after : List Attempt) : Prop where
  history : history = before ++ best :: after
  lower : ∀ a ∈ before, a.rank hasTest < best.rank hasTest
  le : ∀ a ∈ after, a.rank hasTest ≤ best.rank hasTest

theorem FirstBest.foldl (h : FirstBest hasTest history best before after) (rest : List Attempt) :
    ∃ before' after', FirstBest hasTest (history ++ rest)
      (rest.foldl (fun best a => if best.rank hasTest < a.rank hasTest then a else best) best)
      before' after' := by
  induction rest generalizing history best before after with
  | nil => exact ⟨before, after, by rwa [append_nil, foldl_nil]⟩
  | cons a rest ih =>
    rw [foldl_cons, ← singleton_append, ← append_assoc]
    split
    · rename_i hbetter
      have hlower : ∀ b ∈ history, b.rank hasTest < a.rank hasTest := by
        intro b hb
        rw [h.history, mem_append, mem_cons] at hb
        rcases hb with hb | rfl | hb
        · exact (h.lower b hb).trans hbetter
        · exact hbetter
        · exact (h.le b hb).trans_lt hbetter
      exact ih ⟨rfl, hlower, by simp⟩
    · rename_i hworse
      have hle : ∀ b ∈ after ++ [a], b.rank hasTest ≤ best.rank hasTest := by
        intro b hb
        rcases mem_append.mp hb with hb | hb
        · exact h.le b hb
        · rw [mem_singleton.mp hb]
          exact Nat.le_of_not_lt hworse
      exact ih ⟨by rw [h.history, append_assoc, cons_append], h.lower, hle⟩

theorem bestAttempt?_firstBest (h : bestAttempt? hasTest history = some best) :
    ∃ before after, FirstBest hasTest history best before after := by
  cases history with
  | nil => cases h
  | cons first rest =>
    cases h
    have hfirst : FirstBest hasTest [first] first [] [] := ⟨rfl, by simp, by simp⟩
    exact hfirst.foldl rest

/-! ## The whole trace -/

/-- The outcomes that decide which attempt is best: those of the held out queries, or those of all
queries when none are held out. -/
def decisive (split : Split) (a : Attempt) : Option Part :=
  if split.test.isEmpty then some a.train else a.test

theorem Made.decisive (h : Made divided history description split a) :
    ∃ part, decisive split a = some part ∧ a.rank (!split.test.isEmpty) = part.passed := by
  unfold Optimize.decisive Attempt.rank
  cases htest : split.test with
  | nil => exact ⟨a.train, rfl, rfl⟩
  | cons q rest =>
    have hsome : a.test ≠ none := by simp [h.test, htest]
    obtain ⟨part, hpart⟩ := Option.ne_none_iff_exists'.mp hsome
    exact ⟨part, hpart, by simp [hpart]⟩

theorem bestScore_of_decisive {part : Part} (h : decisive r.split r.best = some part) :
    r.bestScore = s!"{part.passed}/{part.total}" := by
  unfold decisive at h
  unfold Result.bestScore Result.hasTest
  split at h
  · rename_i hempty
    cases h
    simp [hempty, Part.score]
  · rename_i hheld
    simp [hheld, Attempt.testScore, h, Part.score]

/-- A result whose history is the trace of its optimisation. -/
structure Traces (plan : Plan) (queries : Value) (start : Host) (divided : Except Value Split)
    (r : Result) : Prop where
  planned : ∃ planned, exec (planSplit plan queries) start = (.ok divided, planned)
  split : allQueries divided = .ok r.split
  length_pos : 1 ≤ r.history.length
  length_le : r.history.length ≤ plan.maxIterations
  numbered : r.history.map (·.iteration) = range' 1 r.history.length
  /-- The first attempt is at the description to start with. -/
  first : r.history.head?.map (·.description) = some plan.start
  /-- Every other attempt is at what was proposed after the attempt before it. -/
  next : ∀ before a b after, r.history = before ++ a :: b :: after →
    ∃ tried, Tried plan queries start divided r.split before a tried ∧
      Proposed plan (before ++ [a]) a tried b.description
  failing : ∀ a ∈ r.history.dropLast, 0 < a.train.failed
  /-- The last attempt is the one that ended the turns. -/
  last : ∃ last tried, r.history.getLast? = some last ∧
    Tried plan queries start divided r.split r.history.dropLast last tried ∧
    r.finalDescription = last.description ∧
    (last.train.failed = 0 → r.exitReason = s!"all_passed (iteration {r.history.length})") ∧
    (last.train.failed ≠ 0 → r.history.length = plan.maxIterations ∧
      r.exitReason = s!"max_iterations ({r.history.length})")
  /-- The best attempt is the earliest one of which most outcomes pass. -/
  best : ∃ before after part, r.history = before ++ r.best :: after ∧
    decisive r.split r.best = some part ∧ r.bestScore = s!"{part.passed}/{part.total}" ∧
    (∀ a ∈ before, ∃ other, decisive r.split a = some other ∧ other.passed < part.passed) ∧
    ∀ a ∈ after, ∃ other, decisive r.split a = some other ∧ other.passed ≤ part.passed

/-- The history that an optimisation returns is its trace. -/
theorem optimize_traces (plan : Plan) (queries : Value) (start host : Host) (r : Result)
    (h : exec (optimize plan queries) start = (.ok r, host)) :
    ∃ divided, Traces plan queries start divided r := by
  obtain ⟨divided, before, last, ended, hends, hbest, hr⟩ := optimize_ended h
  obtain ⟨tried, htried⟩ := hends.tried
  have hlength := hends.length_history
  have hlimit := hends.length_le
  have hdropLast : ended.history.dropLast = before := by rw [hends.history, dropLast_concat]
  have hlast : ended.history.getLast? = some last := by rw [hends.history, getLast?_concat]
  -- Every attempt has outcomes that decide, so ranks are numbers of outcomes that pass.
  have hdecisive : ∀ a ∈ ended.history, ∃ part, decisive ended.split a = some part ∧
      a.rank (!ended.split.test.isEmpty) = part.passed := by
    intro a ha
    obtain ⟨_, _, ha⟩ := hends.tried_of_mem ha
    exact ha.made.decisive
  obtain ⟨lower, after, hfirst⟩ := bestAttempt?_firstBest hbest
  obtain ⟨part, hpart, hrank⟩ := hdecisive r.best (by simp [hfirst.history])
  have hsplit : r.split = ended.split := by rw [hr]
  have hhistory : r.history = ended.history := by rw [hr]
  have hreason : r.exitReason = ended.reason := by rw [hr]
  have hfinal : r.finalDescription = ended.description := by rw [hr]
  refine ⟨divided, ?_⟩
  constructor
  case planned =>
    obtain ⟨_, hreached, -⟩ := htried
    exact hreached.planned
  case split => rw [hsplit, htried.made.queries]
  case length_pos => rw [hhistory]; omega
  case length_le => rw [hhistory]; omega
  case numbered => rw [hhistory, hends.numbered]
  case first => rw [hhistory, hends.starts]
  case next =>
    intro seen a b rest hcut
    rw [hsplit]
    exact hends.next (hhistory.symm.trans hcut)
  case failing => rw [hhistory, hdropLast]; exact hends.failing
  case last =>
    refine ⟨last, tried, by rw [hhistory, hlast], ?_, by rw [hfinal, hends.description], ?_, ?_⟩
    · rwa [hsplit, hhistory, hdropLast]
    · intro hpassed
      rw [hreason, hhistory, hlength, hends.passed hpassed]
    · intro hfailed
      obtain ⟨hfull, hexhausted⟩ := hends.exhausted hfailed
      have hmax : plan.maxIterations = (before.length + 1 : Nat) := by omega
      rw [hreason, hhistory, hlength, hexhausted, hmax]
      exact ⟨rfl, rfl⟩
  case best =>
    rw [← hsplit] at hpart
    refine ⟨lower, after, part, by rw [hhistory, hfirst.history], hpart,
      bestScore_of_decisive hpart, fun a ha => ?_, fun a ha => ?_⟩
    · obtain ⟨other, hother, hlower⟩ := hdecisive a (by simp [hfirst.history, ha])
      refine ⟨other, by rw [hsplit, hother], ?_⟩
      rw [← hrank, ← hlower]
      exact hfirst.lower a ha
    · obtain ⟨other, hother, hle⟩ := hdecisive a (by simp [hfirst.history, ha])
      refine ⟨other, by rw [hsplit, hother], ?_⟩
      rw [← hrank, ← hle]
      exact hfirst.le a ha

/-- Two turns in which nothing triggers: the second one tries what was proposed after the first. -/
theorem optimize_traces_two :
    let plan := { samplePlan (.int 0) with maxIterations := 2, reportPath := none }
    let queries := querySet [sampleItem "a" true, sampleItem "b" false]
    let start : Host := { replies := [.ended 0 "<new_description>Use it</new_description>" ""] }
    ∃ r host, exec (optimize plan queries) start = (.ok r, host) ∧
      r.history.map (·.description) = ["Does things", "Use it"] ∧
      ∃ divided, Traces plan queries start divided r := by
  intro plan queries start
  have hrun : (exec (optimize plan queries) start).1.toOption.map
      (fun r => r.history.map (·.description)) = some ["Does things", "Use it"] := by
    decide +kernel
  cases h : exec (optimize plan queries) start with
  | mk result host =>
    rw [h] at hrun
    cases result with
    | error f => cases hrun
    | ok r =>
      exact ⟨r, host, rfl, Option.some.inj hrun, optimize_traces plan queries start host r h⟩

end SkillKit.Optimize
