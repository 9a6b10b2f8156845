import SkillKit.Proofs.Optimize.Page
import SkillKit.Proofs.Optimize.Split
import SkillKit.Proofs.Trigger.Pool
import Mathlib.Data.List.Perm.Basic

/-!
# What the turns of an optimisation produce

Each turn adds an attempt whose outcomes are sound, and that knows about held out queries exactly if
queries were held out (`tryDescription_fitting`).  All attempts of an optimisation are those of its
turns (`Reached.continues`, `turns_ended`).  Therefore a page can be made of everything that it hands
to the report exactly if queries were held out.
-/

namespace SkillKit.Optimize

open Act Trigger List

variable {items : List Item} {e : Evaluation} {plan : Plan} {divided : Except Value Split}
  {elapsed : Float}

variable {description : String} {host host' start : Host} {history : List Attempt}
  {attempt : Attempt}

/-! ## Outcomes of an evaluation -/

theorem evaluate_sound {s : Settings} {skillName : String}
    (h : (exec (evaluate s skillName description (querySet items)) host).1 = .ok e) :
    ∀ o ∈ e.outcomes, Sound o := by
  cases hruns : countOf s.runsPerQuery with
  | error f =>
    cases items with
    | nil =>
      rw [exec_evaluate_nil] at h
      cases h
      simp
    | cons item rest =>
      rw [exec_evaluate_error hruns (cons_ne_nil _ _)] at h
      cases h
  | ok runs =>
    obtain ⟨printed, hrun⟩ := exec_evaluate s skillName description hruns items host
    rw [hrun] at h
    set done := inOrder (awaiting s skillName description (requests runs items) host).order
      (callsOf s skillName description host (requests runs items))
    cases houtcomes : (done.foldl tally []).mapM (judge s.threshold) with
    | error f =>
      rw [houtcomes] at h
      cases h
    | ok outcomes =>
      rw [houtcomes] at h
      cases h
      intro o ho
      obtain ⟨q, hq, hcount, htriggers, -⟩ :=
        ((tallied_foldl done).judged houtcomes).counted o ho
      refine ⟨⟨q, hq⟩, ?_⟩
      rw [hcount, htriggers]
      apply countP_mono_left
      simp +contextual

/-! ## The split of a plan -/

/-- Whether queries of a set are held out. -/
def HoldsOut (plan : Plan) (items : List Item) : Prop :=
  Value.before (.int 0) plan.holdout = .ok true ∧ items ≠ []

/-- The items of a set in two parts, the second one of which is held out. -/
structure Divides (plan : Plan) (items train test : List Item) : Prop where
  perm : (train ++ test).Perm items
  test_eq_nil : test = [] ↔ ¬ HoldsOut plan items

def splitOf (train test : List Item) : Split :=
  ⟨train.map (·.value), test.map (·.value)⟩

theorem splitOf_queries (train test : List Item) :
    Value.list ((splitOf train test).train ++ (splitOf train test).test) =
      querySet (train ++ test) := by
  simp [splitOf, querySet]

theorem prints_tell (plan : Plan) (line : String) : Prints (tell plan line) ⟨⟩ := by
  unfold tell
  split
  · exact Prints.warnLine line
  · exact Prints.pure _

theorem planSplit_cases (plan : Plan) (items : List Item) :
    (∃ queries train test, Prints (planSplit plan (querySet items)) queries ∧
      allQueries queries = .ok (splitOf train test) ∧ Divides plan items train test ∧
      (Value.before (.int 0) plan.holdout = .ok true →
        split (querySet items) plan.holdout defaultSeed = .ok (splitOf train test))) ∨
    ∃ f, ∀ host, exec (planSplit plan (querySet items)) host = (.error f, host) := by
  unfold planSplit
  cases hholdout : Value.before (.int 0) plan.holdout with
  | error f => exact .inr ⟨f, fun host => exec_bind_error (exec_ofExcept _ _)⟩
  | ok holds =>
    cases holds with
    | false =>
      refine .inl ⟨.error (querySet items), items, [], ?_, rfl, ?_, by simp⟩
      · exact (Prints.ofExcept rfl).bind (Prints.pure _)
      · exact ⟨by simp, by simp [HoldsOut, hholdout]⟩
    | true =>
      cases hsplit : split (querySet items) plan.holdout defaultSeed with
      | error f =>
        refine .inr ⟨f, fun host => ?_⟩
        rw [exec_bind_ok (exec_ofExcept _ _)]
        exact exec_bind_error (exec_ofExcept _ _)
      | ok s =>
        have hmapped : Relation.Comp (· = map Item.value ·) Perm (s.train ++ s.test)
            items := by
          rw [eq_map_comp_perm]
          exact split_perm hsplit
        obtain ⟨both, hvalues, hboth⟩ := hmapped
        obtain ⟨train, test, rfl, htrain, htest⟩ := map_eq_append_iff.mp hvalues.symm
        have hs : s = splitOf train test := by
          cases s
          simp_all [splitOf]
        refine .inl ⟨.ok s, train, test, ?_, by rw [allQueries, hs], ⟨hboth, ?_⟩,
          fun _ => by rw [hs]⟩
        · refine (Prints.ofExcept rfl).bind ?_
          exact (Prints.ofExcept rfl).bind ((prints_tell _ _).bind (Prints.pure _))
        · have hempty := split_test_eq_nil_iff hsplit
          rw [← htest, map_eq_nil_iff, map_eq_nil_iff] at hempty
          simpa [HoldsOut, hholdout] using hempty

theorem divides_of_planSplit {planned : Host}
    (h : exec (planSplit plan (querySet items)) start = (.ok divided, planned)) :
    ∃ train test printed, planned = { start with printed } ∧
      allQueries divided = .ok (splitOf train test) ∧ Divides plan items train test ∧
      (Value.before (.int 0) plan.holdout = .ok true →
        split (querySet items) plan.holdout defaultSeed = .ok (splitOf train test)) := by
  rcases planSplit_cases plan items with ⟨queries, train, test, hprints, hqueries⟩ | ⟨f, hf⟩
  · obtain ⟨printed, hprinted⟩ := hprints start
    rw [hprinted] at h
    cases h
    exact ⟨train, test, printed, rfl, hqueries⟩
  · rw [hf] at h
    cases h

/-! ## One turn -/

variable {split : Split}

/-- Whether an outcome is for one of some items. -/
def isFor (items : List Item) (o : Outcome) : Bool :=
  items.any fun item => (Atom.text item.query).same o.query

/-- The attempt that an evaluation makes: the outcomes for items to learn from, and all others. -/
def attemptFor (train test : List Item) (iteration : Nat) (e : Evaluation) : Attempt where
  iteration
  description := e.description
  train := ⟨e.outcomes.filter (isFor train)⟩
  test := if test.isEmpty then none else some ⟨e.outcomes.filter (!isFor train ·)⟩

theorem attemptOf_eq (train test : List Item) (iteration : Nat) (e : Evaluation) :
    attemptOf iteration (splitOf train test) e = .ok (attemptFor train test iteration e) := by
  have hkeys : queryKeys (train.map (·.value)) = .ok (train.map (.text ·.query)) := by
    rw [queryKeys, mapM_map]
    refine Result.mapM_ok_map fun item _ => ?_
    simp only [Function.comp_apply, item.entry_query, Result.ok_bind, Result.pure_eq]
  have hkey : ∀ o : Outcome,
      (train.map fun item => Atom.text item.query).any (·.same o.query) = isFor train o := by
    intro o
    simp [isFor, any_map, Function.comp_def]
  rw [attemptOf, splitOf, hkeys, Result.ok_bind]
  simp only [hkey, isEmpty_map, Result.pure_eq, attemptFor]

theorem attemptFor_sound (h : ∀ o ∈ e.outcomes, Sound o) (train test : List Item) (iteration : Nat) :
    (attemptFor train test iteration e).Sound := by
  refine ⟨fun o ho => h o (mem_filter.mp ho).1, fun part hpart o ho => ?_⟩
  cases test with
  | nil => simp [attemptFor] at hpart
  | cons item rest =>
    cases hpart
    exact h o (mem_filter.mp ho).1

theorem attemptFor_test_eq_none (train test : List Item) (iteration : Nat) (e : Evaluation) :
    (attemptFor train test iteration e).test = none ↔ test = [] := by
  cases test <;> simp [attemptFor]

/-- An attempt of an optimisation: its outcomes are sound, and it knows about held out queries if
there are any. -/
structure Fitting (plan : Plan) (items : List Item) (a : Attempt) : Prop where
  sound : a.Sound
  test_eq_none : a.test = none ↔ ¬ HoldsOut plan items

theorem tryDescription_evaluated
    (h : exec (tryDescription plan divided history description) host =
      (.ok (split, attempt), host')) :
    ∃ elapsed evaluated, exec (evaluateDescription plan divided history description) host =
      (.ok (split, attempt, elapsed), evaluated) := by
  unfold tryDescription at h
  obtain ⟨⟨split', attempt', elapsed⟩, evaluated, hrun, h⟩ := of_exec_bind_ok h
  obtain ⟨_, _, -, h⟩ := of_exec_bind_ok h
  obtain ⟨_, _, -, h⟩ := of_exec_bind_ok h
  cases h
  exact ⟨elapsed, evaluated, hrun⟩

/-- The attempt at a description comes from an evaluation of all queries, which finds the host as it
was, but for what was printed and for the clock. -/
theorem of_evaluateDescription
    (h : exec (evaluateDescription plan divided history description) host =
      (.ok (split, attempt, elapsed), host')) :
    allQueries divided = .ok split ∧ ∃ e printed clock evaluated,
      exec (evaluate plan.settings plan.skill.name description (.list (split.train ++ split.test)))
        { host with printed, clock } = (.ok e, evaluated) ∧
      attemptOf (history.length + 1) split e = .ok attempt := by
  have htell : ∀ {line : String} {host told : Host} {u : Unit},
      exec (tell plan line) host = (.ok u, told) → ∃ printed, told = { host with printed } := by
    intro line host told u htold
    obtain ⟨printed, hprinted⟩ := prints_tell plan line host
    rw [hprinted] at htold
    cases htold
    exact ⟨printed, rfl⟩
  unfold evaluateDescription at h
  obtain ⟨_, _, h₁, h⟩ := of_exec_bind_ok h
  obtain ⟨_, _, h₂, h⟩ := of_exec_bind_ok h
  obtain ⟨_, _, h₃, h⟩ := of_exec_bind_ok h
  obtain ⟨_, _, h₄, h⟩ := of_exec_bind_ok h
  obtain ⟨all, _, hall, h⟩ := of_exec_bind_ok h
  obtain ⟨start, clocked, hclock, h⟩ := of_exec_bind_ok h
  obtain ⟨e, evaluated, hrun, h⟩ := of_exec_bind_ok h
  obtain ⟨stop, stopped, -, h⟩ := of_exec_bind_ok h
  obtain ⟨made, _, hmade, h⟩ := of_exec_bind_ok h
  cases h
  rw [exec_ofExcept, Prod.mk.injEq] at hall hmade
  obtain ⟨_, rfl⟩ := htell h₁
  obtain ⟨_, rfl⟩ := htell h₂
  obtain ⟨_, rfl⟩ := htell h₃
  obtain ⟨_, rfl⟩ := htell h₄
  obtain ⟨hall, rfl⟩ := hall
  cases hclock
  exact ⟨hall, e, _, _, evaluated, hrun, hmade.1⟩

section Turn

variable {train test : List Item} {queries : Except Value Split}
variable (hqueries : allQueries queries = .ok (splitOf train test))

include hqueries in
theorem evaluateDescription_eq
    (h : exec (evaluateDescription plan queries history description) host =
      (.ok (split, attempt, elapsed), host')) :
    ∃ e printed clock, (exec (evaluate plan.settings plan.skill.name description
        (querySet (train ++ test))) { host with printed, clock }).1 = .ok e ∧
      attempt = attemptFor train test (history.length + 1) e := by
  obtain ⟨hall, e, _, _, _, hrun, hattempt⟩ := of_evaluateDescription h
  cases hqueries.symm.trans hall
  rw [splitOf_queries] at hrun
  rw [attemptOf_eq] at hattempt
  cases hattempt
  exact ⟨e, _, _, congrArg Prod.fst hrun, rfl⟩

variable (hdivides : Divides plan items train test)

include hqueries hdivides

theorem evaluateDescription_fitting
    (h : exec (evaluateDescription plan queries history description) host =
      (.ok (split, attempt, elapsed), host')) : Fitting plan items attempt := by
  obtain ⟨e, _, _, he, rfl⟩ := evaluateDescription_eq hqueries h
  refine ⟨attemptFor_sound (evaluate_sound he) train test _, ?_⟩
  rw [attemptFor_test_eq_none, hdivides.test_eq_nil]

theorem tryDescription_fitting
    (h : exec (tryDescription plan queries history description) host =
      (.ok (split, attempt), host')) : Fitting plan items attempt := by
  obtain ⟨_, _, hrun⟩ := tryDescription_evaluated h
  exact evaluateDescription_fitting hqueries hdivides hrun

end Turn

variable {rest seen after before : List Attempt} {last a : Attempt} {tried : Host} {left : Nat}
  {ended : Ended} {r : Result} {queries : Value}

/-! ## The attempt of a turn -/

theorem evaluate_description {s : Settings} {skillName : String} {e : Evaluation}
    (h : exec (evaluate s skillName description queries) host = (.ok e, host')) :
    e.description = description := by
  unfold evaluate at h
  obtain ⟨_, _, -, h⟩ := of_exec_bind_ok h
  obtain ⟨_, _, -, h⟩ := of_exec_bind_ok h
  obtain ⟨_, _, -, h⟩ := of_exec_bind_ok h
  obtain ⟨_, _, -, h⟩ := of_exec_bind_ok h
  obtain ⟨_, _, -, h⟩ := of_exec_bind_ok h
  obtain ⟨_, _, -, h⟩ := of_exec_bind_ok h
  cases h
  rfl

/-- An attempt at a description, made behind a history: it has the next number, and it knows about
held out queries exactly if the split holds some out. -/
structure Made (divided : Except Value Split) (history : List Attempt) (description : String)
    (split : Split) (a : Attempt) : Prop where
  iteration : a.iteration = history.length + 1
  description : a.description = description
  queries : allQueries divided = .ok split
  test : a.test = none ↔ split.test = []

theorem tryDescription_made
    (h : exec (tryDescription plan divided history description) host = (.ok (split, a), host')) :
    Made divided history description split a := by
  obtain ⟨_, _, hrun⟩ := tryDescription_evaluated h
  obtain ⟨hall, e, _, _, _, he, hmade⟩ := of_evaluateDescription hrun
  obtain ⟨keys, -, hattempt⟩ := Result.bind_eq_ok.mp hmade
  cases hattempt
  refine ⟨rfl, evaluate_description he, hall, ?_⟩
  cases htest : split.test <;> simp

theorem Made.numbered (h : Made divided history description split a)
    (hhistory : history.map (·.iteration) = range' 1 history.length) :
    (history ++ [a]).map (·.iteration) = range' 1 (history ++ [a]).length := by
  rw [map_append, hhistory, length_append, length_singleton, range'_concat]
  simp [h.iteration, Nat.add_comm]

/-! ## The turns that went on -/

/-- The states in which a turn of an optimisation starts: the queries, the attempts made so far, the
description to be tried, and the host. -/
inductive Reached (plan : Plan) (queries : Value) (start : Host) :
    Except Value Split → List Attempt → String → Host → Prop
  | first {divided : Except Value Split} {host : Host}
      (hsplit : exec (planSplit plan queries) start = (.ok divided, host)) :
      Reached plan queries start divided [] plan.start host
  | next {divided : Except Value Split} {history : List Attempt} {description next : String}
      {host tried improved : Host} {split : Split} {attempt : Attempt}
      (hreached : Reached plan queries start divided history description host)
      (htry : exec (tryDescription plan divided history description) host =
        (.ok (split, attempt), tried))
      (himprove : exec (improve plan (history ++ [attempt]) attempt) tried = (.ok next, improved)) :
      Reached plan queries start divided (history ++ [attempt]) next improved

/-- What is asked for after an attempt. -/
def requestAfter (plan : Plan) (history : List Attempt) (last : Attempt) : Request where
  skillName := .text plan.skill.name
  skillContent := .text plan.skill.content
  current := .text last.description
  results := last.train.toValue
  history := .list (history.map (·.blinded))
  model := plan.settings.model
  logDir := plan.logDir
  iteration := .nat last.iteration

/-- The description that was proposed after an attempt, on the host that trying it has left. -/
def Proposed (plan : Plan) (history : List Attempt) (last : Attempt) (tried : Host)
    (next : String) : Prop :=
  ∃ told clock asked answered,
    exec (tell plan "\nImproving description...") tried = (.ok ⟨⟩, told) ∧
    exec readClock told = (.ok clock, asked) ∧
    exec (propose (requestAfter plan history last)) asked = (.ok next, answered)

theorem improve_proposed {improved : Host} {next : String}
    (h : exec (improve plan history last) tried = (.ok next, improved)) :
    Proposed plan history last tried next := by
  unfold improve at h
  obtain ⟨_, told, htold, h⟩ := of_exec_bind_ok h
  obtain ⟨clock, asked, hasked, h⟩ := of_exec_bind_ok h
  obtain ⟨next', answered, hnext, h⟩ := of_exec_bind_ok h
  obtain ⟨_, _, -, h⟩ := of_exec_bind_ok h
  obtain ⟨_, _, -, h⟩ := of_exec_bind_ok h
  cases h
  exact ⟨told, clock, asked, answered, htold, hasked, hnext⟩

/-- An attempt of an optimisation, made from a state that its turns reached behind a history. -/
def Tried (plan : Plan) (queries : Value) (start : Host) (divided : Except Value Split)
    (split : Split) (history : List Attempt) (a : Attempt) (tried : Host) : Prop :=
  ∃ host, Reached plan queries start divided history a.description host ∧
    exec (tryDescription plan divided history a.description) host = (.ok (split, a), tried)

theorem Tried.made (h : Tried plan queries start divided split history a tried) :
    Made divided history a.description split a := by
  obtain ⟨_, -, htry⟩ := h
  exact tryDescription_made htry

namespace Reached

variable (h : Reached plan queries start divided history description host)

include h

theorem numbered :
    history.map (·.iteration) = range' 1 history.length := by
  induction h with
  | first _ => rfl
  | next _ htry _ ih => exact (tryDescription_made htry).numbered ih

theorem starts :
    (history.head?.map (·.description)).getD description = plan.start := by
  induction h with
  | first _ => rfl
  | @next history _ _ _ _ _ _ _ _ htry _ ih =>
    cases history with
    | nil => exact (tryDescription_made htry).description.trans ih
    | cons a rest => exact ih

theorem planned :
    ∃ planned, exec (planSplit plan queries) start = (.ok divided, planned) := by
  induction h with
  | first hsplit => exact ⟨_, hsplit⟩
  | next _ _ _ ih => exact ih

/-- Every attempt made so far was tried, and what was proposed after it is the description of the
attempt behind it, or the one to be tried now. -/
theorem continues (hhistory : history = before ++ a :: after) :
    ∃ split tried, Tried plan queries start divided split before a tried ∧
      Proposed plan (before ++ [a]) a tried ((after.head?.map (·.description)).getD description) := by
  induction h generalizing after with
  | first _ => simp at hhistory
  | next hreached htry himprove ih =>
    rename_i history description next host tried improved split attempt
    obtain rfl := (tryDescription_made htry).description
    rcases eq_nil_or_concat' after with rfl | ⟨rest, b, rfl⟩
    · -- The attempt is the one of this turn.
      obtain ⟨rfl, hlast⟩ := append_inj' hhistory rfl
      cases hlast
      exact ⟨split, tried, ⟨_, hreached, htry⟩, improve_proposed himprove⟩
    · -- It is an earlier one, and what followed it was there before this turn.
      rw [← cons_append, ← append_assoc] at hhistory
      obtain ⟨hbefore, hlast⟩ := append_inj' hhistory rfl
      cases hlast
      obtain ⟨split', tried', htried, hproposed⟩ := ih hbefore
      refine ⟨split', tried', htried, ?_⟩
      cases rest <;> exact hproposed

end Reached

/-! ## The turn that ended -/

/-- The end of turns: the attempts before the last one, all of them with queries that fail, and the
last one, behind which there was nothing left to learn or no turn left. -/
structure EndsWith (plan : Plan) (queries : Value) (start : Host) (divided : Except Value Split)
    (limit : Nat) (ended : Ended) (before : List Attempt) (last : Attempt) : Prop where
  history : ended.history = before ++ [last]
  tried : ∃ tried, Tried plan queries start divided ended.split before last tried
  description : ended.description = last.description
  failing : ∀ a ∈ before, 0 < a.train.failed
  length_le : before.length + 1 ≤ limit
  passed : last.train.failed = 0 →
    ended.reason = s!"all_passed (iteration {before.length + 1})"
  exhausted : last.train.failed ≠ 0 →
    before.length + 1 = limit ∧ ended.reason = s!"max_iterations ({plan.maxIterations})"

/-- A turn tries a description.  It ends the turns when every query to learn from passes or when no
turn is left, and otherwise the turns go on with what is proposed. -/
theorem turns_succ_cases
    (h : exec (turns plan divided history description (left + 1)) host = (.ok ended, host')) :
    ∃ split a tried,
      exec (tryDescription plan divided history description) host = (.ok (split, a), tried) ∧
      ((a.train.failed = 0 ∧ ended =
          ⟨s!"all_passed (iteration {a.iteration})", description, history ++ [a], split⟩) ∨
        (a.train.failed ≠ 0 ∧ left = 0 ∧ ended =
          ⟨s!"max_iterations ({plan.maxIterations})", description, history ++ [a], split⟩) ∨
        (a.train.failed ≠ 0 ∧ left ≠ 0 ∧ ∃ next improved,
          exec (improve plan (history ++ [a]) a) tried = (.ok next, improved) ∧
          exec (turns plan divided (history ++ [a]) next left) improved = (.ok ended, host'))) := by
  unfold turns at h
  obtain ⟨⟨split, a⟩, tried, hrun, h⟩ := of_exec_bind_ok h
  refine ⟨split, a, tried, hrun, ?_⟩
  dsimp only at h
  split at h
  · rename_i hpassed
    obtain ⟨_, _, -, h⟩ := of_exec_bind_ok h
    cases h
    exact .inl ⟨by simpa using hpassed, rfl⟩
  · rename_i hfailed
    have hfailed' : a.train.failed ≠ 0 := by simpa using hfailed
    split at h
    · rename_i hleft
      obtain ⟨_, _, -, h⟩ := of_exec_bind_ok h
      cases h
      exact .inr (.inl ⟨hfailed', by simpa using hleft, rfl⟩)
    · rename_i hleft
      obtain ⟨next, improved, himprove, h⟩ := of_exec_bind_ok h
      exact .inr (.inr ⟨hfailed', by simpa using hleft, next, improved, himprove, h⟩)

theorem turns_ended (hreached : Reached plan queries start divided history description host)
    (hfailing : ∀ a ∈ history, 0 < a.train.failed)
    (h : exec (turns plan divided history description (left + 1)) host = (.ok ended, host')) :
    ∃ before last,
      EndsWith plan queries start divided (history.length + (left + 1)) ended before last := by
  induction left using Nat.strong_induction_on generalizing history description host with
  | _ left ih =>
    obtain ⟨split, a, tried, htry, hcases⟩ := turns_succ_cases h
    have hmade := tryDescription_made htry
    obtain rfl := hmade.description
    rcases hcases with ⟨hpassed, rfl⟩ | ⟨hfailed, rfl, rfl⟩ |
      ⟨hfailed, hleft, next, improved, himprove, h⟩
    · exact ⟨history, a, rfl, ⟨tried, host, hreached, htry⟩, rfl, hfailing, by omega,
        fun _ => by rw [hmade.iteration], fun hfailed => absurd hpassed hfailed⟩
    · exact ⟨history, a, rfl, ⟨tried, host, hreached, htry⟩, rfl, hfailing, le_rfl,
        fun hpassed => absurd hpassed hfailed, fun _ => ⟨rfl, rfl⟩⟩
    · obtain ⟨left, rfl⟩ := Nat.exists_eq_succ_of_ne_zero hleft
      have hfailing' : ∀ b ∈ history ++ [a], 0 < b.train.failed := by
        rw [forall_mem_append, forall_mem_singleton]
        exact ⟨hfailing, Nat.pos_of_ne_zero hfailed⟩
      obtain ⟨before, last, hends⟩ := ih left (by omega) (.next hreached htry himprove) hfailing' h
      refine ⟨before, last, ?_⟩
      rwa [length_append, length_singleton, Nat.add_assoc,
        Nat.add_comm 1 (left + 1)] at hends

namespace EndsWith

variable {limit : Nat} (h : EndsWith plan queries start divided limit ended before last)

include h

theorem length_history :
    ended.history.length = before.length + 1 := by
  rw [h.history, length_append, length_singleton]

theorem numbered :
    ended.history.map (·.iteration) = range' 1 ended.history.length := by
  obtain ⟨_, htried⟩ := h.tried
  have hmade := htried.made
  obtain ⟨_, hreached, -⟩ := htried
  rw [h.history]
  exact hmade.numbered hreached.numbered

theorem starts :
    ended.history.head?.map (·.description) = some plan.start := by
  obtain ⟨_, _, hreached, -⟩ := h.tried
  rw [← hreached.starts, h.history]
  cases before <;> rfl

theorem continues (hbefore : before = seen ++ a :: rest) :
    ∃ tried, Tried plan queries start divided ended.split seen a tried ∧
      Proposed plan (seen ++ [a]) a tried
        ((rest.head?.map (·.description)).getD last.description) := by
  obtain ⟨_, htried⟩ := h.tried
  have hmade := htried.made
  obtain ⟨_, hreached, -⟩ := htried
  obtain ⟨split, tried, hseen, hproposed⟩ := hreached.continues hbefore
  have hsplit : split = ended.split :=
    Except.ok.inj (hseen.made.queries.symm.trans hmade.queries)
  exact ⟨tried, hsplit ▸ hseen, hproposed⟩

theorem tried_of_mem (ha : a ∈ ended.history) :
    ∃ seen tried, Tried plan queries start divided ended.split seen a tried := by
  rw [h.history, mem_append, mem_singleton] at ha
  rcases ha with ha | rfl
  · obtain ⟨seen, rest, hbefore⟩ := append_of_mem ha
    obtain ⟨tried, htried, -⟩ := h.continues hbefore
    exact ⟨seen, tried, htried⟩
  · obtain ⟨tried, htried⟩ := h.tried
    exact ⟨before, tried, htried⟩

theorem next {b : Attempt} (hhistory : ended.history = seen ++ a :: b :: rest) :
    ∃ tried, Tried plan queries start divided ended.split seen a tried ∧
      Proposed plan (seen ++ [a]) a tried b.description := by
  rw [h.history] at hhistory
  rcases eq_nil_or_concat' rest with rfl | ⟨init, c, rfl⟩
  · obtain ⟨hbefore, hlast⟩ := append_inj' (hhistory.trans (append_cons seen a [b])) rfl
    cases hlast
    exact h.continues hbefore
  · have hassoc : seen ++ a :: b :: (init ++ [c]) = (seen ++ a :: b :: init) ++ [c] := by simp
    obtain ⟨hbefore, -⟩ := append_inj' (hhistory.trans hassoc) rfl
    exact h.continues hbefore

end EndsWith

/-- What an optimisation that returns comes to: the end of its turns, and the first attempt of the
highest rank. -/
theorem optimize_ended (h : exec (optimize plan queries) start = (.ok r, host')) :
    ∃ divided before last ended,
      EndsWith plan queries start divided plan.maxIterations.toNat ended before last ∧
      bestAttempt? (!ended.split.test.isEmpty) ended.history = some r.best ∧
      r = ⟨ended.reason, r.best, ended.description, ended.history, ended.split⟩ := by
  unfold optimize at h
  obtain ⟨divided, planned, hplan, h⟩ := of_exec_bind_ok h
  obtain ⟨ended, turned, hturns, h⟩ := of_exec_bind_ok h
  split at h
  · rename_i best hbest
    obtain ⟨_, _, -, h⟩ := of_exec_bind_ok h
    obtain ⟨_, _, -, h⟩ := of_exec_bind_ok h
    cases h
    cases hlimit : plan.maxIterations.toNat with
    | zero =>
      -- Without a turn there is no attempt, and so no best one.
      rw [hlimit] at hturns
      cases hturns
      cases hbest
    | succ left =>
      rw [hlimit] at hturns
      obtain ⟨before, last, hends⟩ := turns_ended (.first hplan) (by simp) hturns
      rw [length_nil, Nat.zero_add] at hends
      exact ⟨divided, before, last, ended, hends, hbest, rfl⟩
  · cases h

/-! ## What is handed to the report -/

/-- The documents that an optimisation hands to the report, each with whether its page is to be
refreshed: the draft in each turn, and the result in the end. -/
inductive Handed (plan : Plan) (queries : Value) (start : Host) : Value → Bool → Prop
  | draft {divided : Except Value Split} {history : List Attempt} {description : String}
      {host evaluated : Host} {split : Split} {attempt : Attempt} {elapsed : Float}
      (hreached : Reached plan queries start divided history description host)
      (hevaluate : exec (evaluateDescription plan divided history description) host =
        (.ok (split, attempt, elapsed), evaluated)) :
      Handed plan queries start (partialValue plan split description (history ++ [attempt])) true
  | result {r : Result} {host : Host} (hrun : exec (optimize plan queries) start = (.ok r, host)) :
      Handed plan queries start (r.toValue plan) false

theorem Tried.fitting (h : Tried plan (querySet items) start divided split seen a tried) :
    Fitting plan items a := by
  obtain ⟨host, hreached, htry⟩ := h
  obtain ⟨planned, hplanned⟩ := hreached.planned
  obtain ⟨train, test, _, -, hall, hdivides, -⟩ := divides_of_planSplit hplanned
  exact tryDescription_fitting hall hdivides htry

theorem optimize_fitting (h : exec (optimize plan (querySet items)) start = (.ok r, host)) :
    (∀ a ∈ r.history, Fitting plan items a) ∧ r.history ≠ [] := by
  obtain ⟨divided, before, last, ended, hends, -, hr⟩ := optimize_ended h
  rw [hr]
  refine ⟨fun a ha => ?_, by simp [hends.history]⟩
  obtain ⟨seen, tried, htried⟩ := hends.tried_of_mem ha
  exact htried.fitting

theorem Handed.lists {data : Value} {refreshes : Bool}
    (h : Handed plan (querySet items) start data refreshes) :
    ∃ history, history ≠ [] ∧ Page.Lists data history ∧ ∀ a ∈ history, Fitting plan items a := by
  cases h with
  | draft hreached hevaluate =>
    refine ⟨_, by simp, ⟨⟨_, rfl⟩, rfl, ⟨_, rfl⟩, ⟨_, rfl⟩⟩, fun a ha => ?_⟩
    rcases mem_append.mp ha with ha | ha
    · obtain ⟨seen, rest, hhistory⟩ := append_of_mem ha
      obtain ⟨_, _, htried, -⟩ := hreached.continues hhistory
      exact htried.fitting
    · obtain ⟨planned, hplanned⟩ := hreached.planned
      obtain ⟨train, test, _, -, hall, hdivides, -⟩ := divides_of_planSplit hplanned
      rw [mem_singleton.mp ha]
      exact evaluateDescription_fitting hall hdivides hevaluate
  | result hrun =>
    obtain ⟨hhistory, hne⟩ := optimize_fitting hrun
    exact ⟨_, hne, ⟨⟨_, rfl⟩, rfl, ⟨_, rfl⟩, ⟨_, rfl⟩⟩, hhistory⟩

/-- The report shows what an optimisation hands to it, every draft and the result, exactly if
queries are held out.  Otherwise it fails, because an attempt without held out queries has nothing
where their outcomes stand. -/
theorem pageOf_handed (plan : Plan) (items : List Item) (start : Host) (data : Value)
    (refreshes : Bool) (name : String) (h : Handed plan (querySet items) start data refreshes) :
    (HoldsOut plan items → ∃ page, pageOf data refreshes (.text name) = .ok page) ∧
    (¬ HoldsOut plan items → pageOf data refreshes (.text name) = .error .wrongKind) := by
  obtain ⟨history, hne, hlists, hhistory⟩ := h.lists
  have hsound : ∀ a ∈ history, a.Sound := fun a ha => (hhistory a ha).sound
  constructor
  · intro hholds
    refine pageOf_ok hlists hsound hne (fun a ha htest => ?_) refreshes name
    exact (hhistory a ha).test_eq_none.mp htest hholds
  · intro hholds
    exact pageOf_error hlists hsound hne (fun a ha => (hhistory a ha).test_eq_none.mpr hholds)
      refreshes name

def samplePlan (holdout : Value) : Plan where
  settings := sampleSettings 1
  skill := ⟨"demo", "Does things", "# demo"⟩
  override := none
  maxIterations := 1
  holdout
  verbose := false
  reportPath := some ⟨"/", ["report.html"]⟩
  logDir := none

/-- The first draft can be shown when queries are held out, and cannot when none are. -/
theorem pageOf_handed_first :
    (∃ data, Handed (samplePlan (.float 0.4)) (querySet [sampleItem "a" true, sampleItem "b" false])
        {} data true ∧
      HoldsOut (samplePlan (.float 0.4)) [sampleItem "a" true, sampleItem "b" false] ∧
      ∃ page, pageOf data true (.text "demo") = .ok page) ∧
    ∃ data, Handed (samplePlan (.int 0)) (querySet [sampleItem "a" true]) {} data true ∧
      ¬ HoldsOut (samplePlan (.int 0)) [sampleItem "a" true] ∧
      pageOf data true (.text "demo") = .error .wrongKind := by
  constructor
  · have hholds : HoldsOut (samplePlan (.float 0.4)) [sampleItem "a" true, sampleItem "b" false] :=
      ⟨rfl, by simp⟩
    have hhanded : Handed (samplePlan (.float 0.4))
        (querySet [sampleItem "a" true, sampleItem "b" false]) {} _ true :=
      .draft (.first rfl) rfl
    exact ⟨_, hhanded, hholds, (pageOf_handed _ _ _ _ _ "demo" hhanded).1 hholds⟩
  · have hnone : ¬ HoldsOut (samplePlan (.int 0)) [sampleItem "a" true] := by
      rintro ⟨hholds, -⟩
      cases hholds
    have hhanded : Handed (samplePlan (.int 0)) (querySet [sampleItem "a" true]) {} _ true :=
      .draft (.first rfl) rfl
    exact ⟨_, hhanded, hnone, (pageOf_handed _ _ _ _ _ "demo" hhanded).2 hnone⟩

/-- An optimisation that holds nothing out fails at its first draft. -/
theorem optimize_holding_out_none :
    (exec (optimize (samplePlan (.int 0)) (querySet [sampleItem "a" true])) {}).1 =
      .error .wrongKind := rfl

end SkillKit.Optimize
