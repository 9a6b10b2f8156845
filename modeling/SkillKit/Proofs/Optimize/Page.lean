import SkillKit.Optimize.Loop
import SkillKit.Proofs.Trigger.Tally

/-!
# Pages of attempts

Attempts whose outcomes are sound can be shown as far as the queries that were learned from go; the
row of an attempt can be read exactly if it knows about held out queries (`readRow_ok`,
`readRow_error`).  The same is then true of the page (`pageOf_ok`, `pageOf_error`), which marks the row
of the first attempt of the highest rank (`ofValue_ok`).
-/

namespace SkillKit.Number

open List

theorem ofValue_int (n : Int) : ofValue (.int n) = .ok (.int n) := rfl

theorem add_int (a b : Int) : (Number.int a).add (.int b) = .ok (.int (a + b)) := rfl

theorem sub_int (a b : Int) : (Number.int a).sub (.int b) = .ok (.int (a - b)) := rfl

end SkillKit.Number

namespace SkillKit.Optimize

open Trigger List

variable {history : List Attempt} {data : Value}

/-- An outcome of a query that is a text, with no more triggers than runs. -/
structure Sound (o : Outcome) : Prop where
  text : ∃ q, o.query = .text q
  triggers_le : o.triggers ≤ o.runs

structure Attempt.Sound (a : Attempt) : Prop where
  train : ∀ o ∈ a.train.outcomes, Optimize.Sound o
  test : ∀ part, a.test = some part → ∀ o ∈ part.outcomes, Optimize.Sound o

namespace Page

/-! ## Outcomes on a page -/

theorem parts_results (p : Part) : p.results.parts = .ok (p.outcomes.map (·.toValue)) := rfl

theorem readQuery_results (p : Part) :
    (p.outcomes.map (·.toValue)).mapM readQuery =
      .ok (p.outcomes.map fun o => (.atom o.query, o.shouldTrigger.truthy)) := by
  rw [mapM_map]
  exact Result.mapM_ok_map fun o _ => rfl

theorem readColumn_ok {outcomes : List Outcome} (h : ∀ o ∈ outcomes, Sound o) :
    ∃ columns, (outcomes.map fun o => (Value.atom o.query, o.shouldTrigger.truthy)).mapM readColumn =
      .ok columns := by
  refine Result.exists_mapM fun q hq => ?_
  obtain ⟨o, ho, rfl⟩ := mem_map.mp hq
  obtain ⟨text, htext⟩ := (h o ho).text
  exact ⟨⟨text, o.shouldTrigger.truthy⟩, by simp [readColumn, escapable, htext, Value.textFor]⟩

theorem foldlM_ok {α β : Type} {step : β → α → Except Fault β} {I : β → Prop} {xs : List α} {b : β}
    (hb : I b) (hstep : ∀ b, I b → ∀ x ∈ xs, ∃ b', step b x = .ok b' ∧ I b') :
    ∃ b', xs.foldlM step b = .ok b' ∧ I b' := by
  induction xs generalizing b with
  | nil => exact ⟨b, rfl, hb⟩
  | cons x rest ih =>
    obtain ⟨next, hnext, hI⟩ := hstep b hb x mem_cons_self
    rw [foldlM_cons, hnext, Result.ok_bind]
    exact ih hI fun b hb y hy => hstep b hb y (mem_cons_of_mem _ hy)

/-- Counts of runs of which no more are right than there are. -/
def Counts (counts : Number × Number) : Prop :=
  ∃ correct total : Nat, counts = (.int correct, .int total) ∧ correct ≤ total

theorem addRuns_ok {counts : Number × Number} {o : Outcome} (hcounts : Counts counts)
    (ho : Sound o) : ∃ counts', addRuns counts o.toValue = .ok counts' ∧ Counts counts' := by
  obtain ⟨correct, total, rfl, hle⟩ := hcounts
  have hbound := ho.triggers_le
  have hruns : o.toValue.lookupD "runs" (.int 0) = .ok (.int o.runs) := rfl
  have htriggers : o.toValue.lookupD "triggers" (.int 0) = .ok (.int o.triggers) := rfl
  have hwanted : o.toValue.lookupD "should_trigger" (.bool true) = .ok o.shouldTrigger := rfl
  unfold addRuns
  simp only [hruns, htriggers, hwanted, Result.ok_bind, Number.ofValue_int, Number.add_int,
    Number.sub_int, Result.pure_eq]
  split
  · exact ⟨_, rfl, correct + o.triggers, total + o.runs, rfl, by omega⟩
  · refine ⟨_, rfl, correct + (o.runs - o.triggers), total + o.runs, ?_, by omega⟩
    have hsub : ((correct + (o.runs - o.triggers) : Nat) : Int) =
        correct + ((o.runs : Int) - o.triggers) := by omega
    rw [hsub]
    rfl

theorem countRuns_ok {p : Part} (h : ∀ o ∈ p.outcomes, Sound o) :
    ∃ counts, countRuns p.results = .ok counts ∧ Counts counts := by
  refine foldlM_ok ⟨0, 0, rfl, by omega⟩ fun counts hcounts v hv => ?_
  obtain ⟨o, ho, rfl⟩ := mem_map.mp hv
  exact addRuns_ok hcounts (h o ho)

theorem scoreOf_ok {counts : Number × Number} (h : Counts counts) :
    ∃ score, scoreOf counts = .ok score := by
  obtain ⟨correct, total, rfl, hle⟩ := h
  have hgrade : ∃ grade, gradeOf (.int correct) (.int total) = .ok grade := by
    unfold gradeOf
    split
    · exact ⟨_, rfl⟩
    · rename_i hpos
      have htotal : 0 < total := by
        simpa [Number.lessThan, Number.ratio?, Nat.pos_iff_ne_zero] using hpos
      obtain ⟨ratio, hratio, -⟩ := Number.divInt_of_le hle htotal
      have hdiv : (Number.int correct).div (.int total) = .ok ratio := by
        simp [Number.div, hratio, Nat.ne_of_gt htotal]
      exact ⟨_, by rw [hdiv]; rfl⟩
  obtain ⟨grade, hgrade⟩ := hgrade
  exact ⟨_, by rw [scoreOf, hgrade]; rfl⟩

/-- Fields whose values are mappings. -/
def Mappings (fields : Fields) : Prop :=
  ∀ f ∈ fields, ∃ inner, f.2 = .dict inner

theorem Mappings.put {fields : Fields} (h : Mappings fields) (key : Atom) (inner : Fields) :
    Mappings (fields.put key (.dict inner)) := by
  induction fields with
  | nil =>
    intro f hf
    rw [mem_singleton.mp hf]
    exact ⟨inner, rfl⟩
  | cons g rest ih =>
    have hrest : Mappings rest := fun f hf => h f (mem_cons_of_mem _ hf)
    intro f hf
    unfold Fields.put at hf
    split at hf
    · rcases mem_cons.mp hf with rfl | hf
      · exact ⟨inner, rfl⟩
      · exact hrest f hf
    · rcases mem_cons.mp hf with rfl | hf
      · exact h _ mem_cons_self
      · exact ih hrest f hf

theorem byQuery_ok (p : Part) : ∃ fields, byQuery p.results = .ok fields ∧ Mappings fields := by
  refine foldlM_ok (by simp [Mappings]) fun fields hfields v hv => ?_
  obtain ⟨o, -, rfl⟩ := mem_map.mp hv
  exact ⟨_, rfl, hfields.put o.query _⟩

theorem knownByQuery_ok (p : Part) :
    ∃ fields, knownByQuery p.results = .ok fields ∧ Mappings fields := by
  unfold knownByQuery
  split
  · exact byQuery_ok p
  · exact ⟨[], rfl, by simp [Mappings]⟩

theorem readCell_ok {outcomes : Fields} (h : Mappings outcomes) (column : Column) :
    ∃ cell, readCell outcomes column = .ok cell := by
  have hfound : ∃ inner, (Fields.get? outcomes column.query).getD (.dict []) = .dict inner := by
    unfold Fields.get? Fields.lookup?
    cases hfind : find? (fun f => f.1.same (.text column.query)) outcomes with
    | none => exact ⟨[], rfl⟩
    | some f => exact h f (mem_of_find?_eq_some hfind)
  obtain ⟨inner, hinner⟩ := hfound
  exact ⟨_, by rw [readCell, hinner]; rfl⟩

/-! ## Attempts on a page -/

theorem trainResults_toValue (a : Attempt) : trainResults a.toValue = .ok a.train.results := rfl

theorem lookup_iteration (a : Attempt) (other : Value) :
    a.toValue.lookupD "iteration" other = .ok (.nat a.iteration) := rfl

theorem lookup_description (a : Attempt) (other : Value) :
    a.toValue.lookupD "description" other = .ok (.text a.description) := rfl

theorem lookup_test_results (a : Attempt) (other : Value) :
    a.toValue.lookupD "test_results" other = .ok ((a.test.map (·.results)).getD .null) := rfl

theorem readRow_ok {a : Attempt} (ha : a.Sound) (htest : a.test ≠ none) (best : Value)
    (trainColumns testColumns : List Column) :
    ∃ row, readRow best trainColumns testColumns a.toValue = .ok row ∧
      row.iteration = (Value.nat a.iteration).display ∧ row.description = a.description ∧
      row.isBest = (Value.nat a.iteration).same best := by
  obtain ⟨part, htest⟩ := Option.ne_none_iff_exists'.mp htest
  obtain ⟨trainFields, htrainFields, htrainMappings⟩ := byQuery_ok a.train
  obtain ⟨testFields, htestFields, htestMappings⟩ := knownByQuery_ok part
  obtain ⟨trainCounts, htrainCounts, htrain⟩ := countRuns_ok ha.train
  obtain ⟨testCounts, htestCounts, htest'⟩ := countRuns_ok (ha.test part htest)
  obtain ⟨trainScore, htrainScore⟩ := scoreOf_ok htrain
  obtain ⟨testScore, htestScore⟩ := scoreOf_ok htest'
  obtain ⟨trainCells, htrainCells⟩ :=
    Result.exists_mapM fun c (_ : c ∈ trainColumns) => readCell_ok htrainMappings c
  obtain ⟨testCells, htestCells⟩ :=
    Result.exists_mapM fun c (_ : c ∈ testColumns) => readCell_ok htestMappings c
  unfold readRow
  simp only [lookup_iteration, lookup_description, trainResults_toValue, lookup_test_results, htest,
    Option.map_some, Option.getD_some, Result.ok_bind, htrainFields, htestFields, htrainCounts,
    htestCounts, htrainScore, htestScore, escapable, Value.textFor, htrainCells, htestCells]
  exact ⟨_, rfl, rfl, rfl, rfl⟩

theorem readRow_error {a : Attempt} (ha : a.Sound) (htest : a.test = none)
    (best : Value) (trainColumns testColumns : List Column) :
    readRow best trainColumns testColumns a.toValue = .error .wrongKind := by
  obtain ⟨trainFields, htrainFields, -⟩ := byQuery_ok a.train
  obtain ⟨trainCounts, htrainCounts, -⟩ := countRuns_ok ha.train
  have hnull : knownByQuery .null = .ok [] := rfl
  have hcount : countRuns .null = .error .wrongKind := rfl
  unfold readRow
  simp only [lookup_iteration, lookup_description, trainResults_toValue, lookup_test_results, htest,
    Option.map_none, Option.getD_none, Result.ok_bind, htrainFields, hnull, htrainCounts, hcount,
    Result.error_bind]

/-! ## The best attempt -/

theorem rankKey_eq (hasTest : Bool) (a : Attempt) :
    rankKey hasTest a.toValue = .ok (.nat (a.rank hasTest)) := by
  cases hasTest with
  | false => rfl
  | true =>
    have hpassed : rankKey true a.toValue =
        .ok (if ((a.test.map (Value.nat ·.passed)).getD .null).truthy
          then (a.test.map (Value.nat ·.passed)).getD .null else .int 0) := rfl
    rw [hpassed, Attempt.rank, if_pos rfl]
    cases a.test with
    | none => rfl
    | some part =>
      rw [Option.map_some, Option.getD_some, Option.map_some, Option.getD_some]
      cases part.passed <;> rfl

theorem before_nat (m n : Nat) : Value.before (.nat m) (.nat n) = .ok (decide (m < n)) := by
  have hless : (Number.int m).lessThan (.int n) = decide (m < n) := by
    simp [Number.lessThan, Number.ratio?]
  rw [before_of_numbers (m := .int m) (n := .int n) rfl rfl, hless]

theorem greatestBy_eq {hasTest : Bool} {best : Attempt}
    (h : bestAttempt? hasTest history = some best) :
    greatestBy (rankKey hasTest) (history.map (·.toValue)) = .ok best.toValue := by
  -- the best item so far is that of the optimisation, with its rank as its key
  have hfold : ∀ (rest : List Attempt) (a : Attempt), (rest.map (·.toValue)).foldlM
      (greaterBy (rankKey hasTest)) (a.toValue, .nat (a.rank hasTest)) =
        let b := rest.foldl (fun best a => if best.rank hasTest < a.rank hasTest then a else best) a
        .ok (b.toValue, .nat (b.rank hasTest)) := by
    intro rest
    induction rest with
    | nil => exact fun _ => rfl
    | cons next rest ih =>
      intro a
      rw [map_cons, foldlM_cons, foldl_cons, greaterBy, rankKey_eq, Result.ok_bind,
        before_nat, Result.ok_bind]
      by_cases hless : a.rank hasTest < next.rank hasTest
      · simpa [hless] using ih next
      · simpa [hless] using ih a
  cases history with
  | nil => cases h
  | cons first rest =>
    cases h
    rw [map_cons, greatestBy, rankKey_eq, Result.ok_bind, hfold]
    rfl

/-! ## The page -/

/-- A document that lists attempts, with texts as descriptions. -/
structure Lists (data : Value) (history : List Attempt) : Prop where
  fields : ∃ fields, data = .dict fields
  history : data.lookupD "history" (.list []) = .ok (.list (history.map (·.toValue)))
  original : ∃ s, data.lookupD "original_description" (.text "N/A") = .ok (.text s)
  best : ∃ s, data.lookupD "best_description" (.text "N/A") = .ok (.text s)

theorem readSummary_ok (h : Lists data history) : ∃ summary, readSummary data = .ok summary := by
  obtain ⟨fields, hfields⟩ := h.fields
  obtain ⟨original, horiginal⟩ := h.original
  obtain ⟨best, hbest⟩ := h.best
  have hlookup : ∀ key other, data.lookupD key other = .ok ((Fields.get? fields key).getD other) := by
    rw [hfields]
    intro key other
    rfl
  unfold readSummary
  rw [horiginal, hbest]
  simp only [hlookup, Result.ok_bind, escapable, Value.textFor]
  exact ⟨_, rfl⟩

/-- Whether the page of attempts has columns for held out queries. -/
def showsTest (history : List Attempt) : Bool :=
  history.head?.any fun a => a.test.any (!·.outcomes.isEmpty)

theorem readFirst_ok (h : ∀ a ∈ history, a.Sound) (hne : history ≠ []) :
    ∃ queries trainColumns testColumns,
      readFirst (.list (history.map (·.toValue))) = .ok queries ∧
      queries.1.mapM readColumn = .ok trainColumns ∧ queries.2.mapM readColumn = .ok testColumns ∧
      (!queries.2.isEmpty) = showsTest history := by
  obtain ⟨first, rest, rfl⟩ := exists_cons_of_ne_nil hne
  have hfirst := h first mem_cons_self
  obtain ⟨trainColumns, htrain⟩ := readColumn_ok hfirst.train
  have hread : readFirst (.list ((first :: rest).map (·.toValue))) = readQueries first.toValue := rfl
  have hshows : showsTest (first :: rest) = first.test.any (!·.outcomes.isEmpty) := rfl
  rw [hread, hshows]
  unfold readQueries
  simp only [trainResults_toValue, lookup_test_results, Result.ok_bind, parts_results,
    readQuery_results]
  cases htest : first.test with
  | none => exact ⟨_, trainColumns, [], rfl, htrain, rfl, rfl⟩
  | some part =>
    obtain ⟨testColumns, htestColumns⟩ := readColumn_ok (hfirst.test part htest)
    cases houtcomes : part.outcomes with
    | nil =>
      have hempty : part.results.truthy = false := by simp [Part.results, houtcomes, Value.truthy]
      simp only [Option.map_some, Option.getD_some, hempty]
      exact ⟨_, trainColumns, [], rfl, htrain, rfl, by simp [houtcomes]⟩
    | cons o others =>
      have hsome : part.results.truthy = true := by simp [Part.results, houtcomes, Value.truthy]
      simp only [Option.map_some, Option.getD_some, hsome, parts_results, Result.ok_bind,
        readQuery_results]
      exact ⟨_, trainColumns, testColumns, rfl, htrain, htestColumns, by simp [houtcomes]⟩

theorem ofValue_eq (h : Lists data history) (hsound : ∀ a ∈ history, a.Sound) (hne : history ≠ [])
    (refreshes : Bool) (name : String) :
    ∃ best trainColumns testColumns, ∃ page : List Row → Page,
      bestAttempt? (showsTest history) history = some best ∧ (∀ rows, (page rows).rows = rows) ∧
      ofValue data refreshes (.text name) = ((history.map (·.toValue)).mapM
        (readRow (.nat best.iteration) trainColumns testColumns)).map page := by
  obtain ⟨queries, trainColumns, testColumns, hqueries, htrain, htest, hshows⟩ :=
    readFirst_ok hsound hne
  obtain ⟨summary, hsummary⟩ := readSummary_ok h
  obtain ⟨best, hbest⟩ : ∃ best, bestAttempt? (showsTest history) history = some best := by
    cases history with
    | nil => exact absurd rfl hne
    | cons first rest => exact ⟨_, rfl⟩
  have hname : readName (.text name) = .ok name := rfl
  have hparts : (Value.list (history.map (·.toValue))).parts = .ok (history.map (·.toValue)) := rfl
  refine ⟨best, trainColumns, testColumns,
    fun rows => ⟨refreshes, name, summary, trainColumns, testColumns, rows⟩, hbest, fun _ => rfl, ?_⟩
  unfold ofValue
  simp only [h.history, hname, hqueries, hsummary, htrain, htest, hparts, hshows,
    greatestBy_eq hbest, lookup_iteration, Result.ok_bind]
  cases (history.map (·.toValue)).mapM (readRow (.nat best.iteration) trainColumns testColumns) <;>
    rfl

theorem ofValue_ok (h : Lists data history) (hsound : ∀ a ∈ history, a.Sound) (hne : history ≠ [])
    (htest : ∀ a ∈ history, a.test ≠ none) (refreshes : Bool) (name : String) :
    ∃ page best, ofValue data refreshes (.text name) = .ok page ∧
      bestAttempt? (showsTest history) history = some best ∧
      page.rows.map (fun row => (row.iteration, row.description, row.isBest)) =
        history.map fun a => ((Value.nat a.iteration).display, a.description,
          (Value.nat a.iteration).same (.nat best.iteration)) := by
  obtain ⟨best, trainColumns, testColumns, page, hbest, hrows, hpage⟩ :=
    ofValue_eq h hsound hne refreshes name
  have hrow := fun a ha =>
    readRow_ok (hsound a ha) (htest a ha) (.nat best.iteration) trainColumns testColumns
  rw [mapM_map] at hpage
  obtain ⟨rows, hread⟩ := Result.exists_mapM fun a ha =>
    (hrow a ha).imp fun _ hrow => hrow.1
  refine ⟨page rows, best, by rw [hpage, Function.comp_def, hread]; rfl, hbest, ?_⟩
  rw [hrows]
  refine Result.map_eq_of_mapM hread fun a ha row hrow' => ?_
  obtain ⟨_, hread, hiteration, hdescription, hisBest⟩ := hrow a ha
  cases hread.symm.trans hrow'
  rw [hiteration, hdescription, hisBest]

end Page

theorem pageOf_ok (h : Page.Lists data history) (hsound : ∀ a ∈ history, a.Sound)
    (hne : history ≠ []) (htest : ∀ a ∈ history, a.test ≠ none) (refreshes : Bool) (name : String) :
    ∃ page, pageOf data refreshes (.text name) = .ok page := by
  obtain ⟨page, best, hpage, -⟩ := Page.ofValue_ok h hsound hne htest refreshes name
  exact ⟨page.render, by rw [pageOf, hpage]; rfl⟩

theorem pageOf_error (h : Page.Lists data history) (hsound : ∀ a ∈ history, a.Sound)
    (hne : history ≠ []) (htest : ∀ a ∈ history, a.test = none) (refreshes : Bool) (name : String) :
    pageOf data refreshes (.text name) = .error .wrongKind := by
  obtain ⟨best, trainColumns, testColumns, page, -, -, hpage⟩ :=
    Page.ofValue_eq h hsound hne refreshes name
  have hrows : (history.map (·.toValue)).mapM
      (Page.readRow (.nat best.iteration) trainColumns testColumns) = .error .wrongKind := by
    refine Result.mapM_error_of_forall (by simpa using hne) fun v hv => ?_
    obtain ⟨a, ha, rfl⟩ := mem_map.mp hv
    exact Page.readRow_error (hsound a ha) (htest a ha) _ trainColumns testColumns
  rw [pageOf, hpage, hrows]
  rfl

end SkillKit.Optimize
