import SkillKit.Proofs.Trigger.Tally

/-!
# Evaluations by a pool

`exec_evaluate` says what an evaluation comes to on a host, from the calls alone (`callsOf`); the rest
of the module says that the order in which they are done is of no account.
-/

namespace SkillKit.Trigger

open Act List

variable {runs : Nat} {α : Type} {items : List Item}

/-! ## Query sets and their calls -/

/-- An item of a query set: a document with a query and with what is wanted of it. -/
structure Item where
  value : Value
  query : String
  wanted : Value
  entry_query : value.entry "query" = .ok (.text query)
  entry_wanted : value.entry "should_trigger" = .ok wanted

def querySet (items : List Item) : Value := .list (items.map (·.value))

def requests (runs : Nat) (items : List Item) : List Item :=
  items.flatMap (replicate runs)

theorem length_requests (runs : Nat) (items : List Item) :
    (requests runs items).length = runs * items.length := by
  simp [requests, Nat.mul_comm]

def argumentsOf (s : Settings) (skillName description : String) (item : Item) : List Value :=
  [.text item.query, .text skillName, .text description, s.timeout, s.model]

/-- What the call of a given place comes to, counted from the present state of a host. -/
def verdictAt (host : Host) (place : Nat) (arguments : List Value) : Verdict :=
  host.verdicts[place]?.getD (host.trigger arguments (host.events.length + place + 1))

/-- The host after calls were handed to the pool. -/
def afterCalls (s : Settings) (skillName description : String) (asked : List Item) (host : Host) :
    Host :=
  { host with
    events := host.events ++ asked.map fun item => .submitted (argumentsOf s skillName description item)
    verdicts := host.verdicts.drop asked.length }

def callsFor (s : Settings) (skillName description : String) (host : Host) (asked : List Item) :
    List Call :=
  asked.mapIdx fun place item =>
    ⟨item.value, item.query, verdictAt host place (argumentsOf s skillName description item)⟩

section Calls

variable (s : Settings) (skillName description : String)

theorem afterCalls_append (asked more : List Item) (host : Host) :
    afterCalls s skillName description (asked ++ more) host =
      afterCalls s skillName description more (afterCalls s skillName description asked host) := by
  simp [afterCalls]

theorem verdictAt_afterCalls (asked : List Item) (host : Host) (place : Nat)
    (arguments : List Value) :
    verdictAt (afterCalls s skillName description asked host) place arguments =
      verdictAt host (place + asked.length) arguments := by
  simp only [verdictAt, afterCalls, getElem?_drop, length_append, length_map]
  rw [Nat.add_comm asked.length place, show host.events.length + asked.length + place + 1 =
    host.events.length + (place + asked.length) + 1 by omega]

theorem callsFor_append (host : Host) (asked more : List Item) :
    callsFor s skillName description host (asked ++ more) =
      callsFor s skillName description host asked ++
        callsFor s skillName description (afterCalls s skillName description asked host) more := by
  simp only [callsFor, mapIdx_append, verdictAt_afterCalls]

theorem exec_submitRun (item : Item) (host : Host) :
    exec (submitRun s skillName description item.value) host =
      (.ok (Call.done
          ⟨item.value, item.query, verdictAt host 0 (argumentsOf s skillName description item)⟩),
        afterCalls s skillName description [item] host) := by
  rw [submitRun, item.entry_query, exec_bind_ok (exec_ofExcept (.ok (Value.text item.query)) host),
    exec_bind_ok (exec_record _ _), nextVerdict]
  cases hverdicts : host.verdicts with
  | nil => simp [verdictAt, afterCalls, argumentsOf, Call.done, hverdicts, exec_bind]
  | cons v rest => simp [verdictAt, afterCalls, argumentsOf, Call.done, hverdicts, exec_bind, Except.map]

theorem exec_submit (hruns : countOf s.runsPerQuery = .ok runs) (item : Item) (host : Host) :
    exec (submit s skillName description item.value) host =
      (.ok ((callsFor s skillName description host (replicate runs item)).map Call.done),
        afterCalls s skillName description (replicate runs item) host) := by
  -- the calls are counted by a list of places, which they do not look at
  have hcalls : ∀ (places : List Nat) (host : Host),
      exec (places.mapM fun _ => submitRun s skillName description item.value) host =
        (.ok ((callsFor s skillName description host (replicate places.length item)).map
            Call.done),
          afterCalls s skillName description (replicate places.length item) host) := by
    intro places
    induction places with
    | nil =>
      simp [callsFor, afterCalls]
    | cons place rest ih =>
      intro host
      have hsplit : replicate (place :: rest).length item =
          [item] ++ replicate rest.length item := rfl
      rw [mapM_cons, exec_bind_ok (exec_submitRun s skillName description item host),
        exec_bind_ok (ih _), hsplit, callsFor_append, afterCalls_append]
      simp [callsFor]
  rw [submit, hruns, exec_bind_ok (exec_ofExcept (.ok runs) host), hcalls, length_range]

theorem exec_submit_all (hruns : countOf s.runsPerQuery = .ok runs) (items : List Item)
    (host : Host) :
    ∃ calls, exec ((items.map (·.value)).mapM (submit s skillName description)) host =
        (.ok calls, afterCalls s skillName description (requests runs items) host) ∧
      calls.flatten =
        (callsFor s skillName description host (requests runs items)).map Call.done := by
  induction items generalizing host with
  | nil => exact ⟨[], by simp [requests, afterCalls], rfl⟩
  | cons item rest ih =>
    obtain ⟨calls, hrun, hcalls⟩ := ih (afterCalls s skillName description (replicate runs item) host)
    refine ⟨(callsFor s skillName description host (replicate runs item)).map Call.done :: calls,
      ?_, ?_⟩
    · rw [map_cons, mapM_cons, exec_bind_ok (exec_submit s skillName description hruns item host),
        exec_bind_ok hrun, ← afterCalls_append]
      rfl
    · rw [flatten_cons, hcalls, ← map_append, ← callsFor_append]
      rfl

end Calls

/-! ## What an evaluation comes to -/

theorem inOrder_map {β : Type} (f : α → β) (order : Option (List Nat)) (xs : List α) :
    inOrder order (xs.map f) = (inOrder order xs).map f := by
  cases order with
  | none => rfl
  | some places => simp [inOrder, map_filterMap]

/-- The host when an evaluation waits for its calls. -/
def awaiting (s : Settings) (skillName description : String) (asked : List Item) (host : Host) :
    Host :=
  afterCalls s skillName description asked { host with events := host.events ++ [.pool s.workers] }

def callsOf (s : Settings) (skillName description : String) (host : Host) (asked : List Item) :
    List Call :=
  callsFor s skillName description { host with events := host.events ++ [.pool s.workers] } asked

/-- An evaluation hands its calls to the pool, prints at most, and has the outcomes judged from the
calls in the order in which they were done. -/
theorem exec_evaluate (s : Settings) (skillName description : String)
    (hruns : countOf s.runsPerQuery = .ok runs) (items : List Item) (host : Host) :
    let asked := requests runs items
    let ends := awaiting s skillName description asked host
    ∃ printed, exec (evaluate s skillName description (querySet items)) host =
      ((((inOrder ends.order (callsOf s skillName description host asked)).foldl tally []).mapM
          (judge s.threshold)).map fun outcomes => ⟨skillName, description, outcomes⟩,
        { ends with printed }) := by
  intro asked ends
  obtain ⟨calls, hcalls, hflat⟩ := exec_submit_all s skillName description hruns items
    { host with events := host.events ++ [.pool s.workers] }
  obtain ⟨printed, hprinted⟩ := prints_collect_all
    (inOrder ends.order (callsOf s skillName description host asked)) ends
  have hparts : (querySet items).parts = .ok (items.map (·.value)) := rfl
  refine ⟨printed, ?_⟩
  rw [evaluate, exec_bind_ok (exec_record _ _), hparts,
    exec_bind_ok (exec_ofExcept (.ok (items.map (·.value))) _), exec_bind_ok hcalls,
    exec_bind_ok (exec_get _), hflat, inOrder_map]
  refine (exec_bind_ok hprinted).trans ?_
  cases ((inOrder ends.order (callsOf s skillName description host asked)).foldl tally []).mapM
    (judge s.threshold) <;> rfl

theorem exec_evaluate_nil (s : Settings) (skillName description : String) (host : Host) :
    exec (evaluate s skillName description (querySet [])) host =
      (.ok ⟨skillName, description, []⟩, { host with events := host.events ++ [.pool s.workers] }) := by
  have hparts : (querySet []).parts = .ok [] := rfl
  have hempty : ∀ order, inOrder order ([] : List Done) = [] := by
    intro order
    cases order <;> simp [inOrder]
  rw [evaluate, exec_bind_ok (exec_record _ _), hparts, exec_bind_ok (exec_ofExcept (.ok []) _),
    mapM_nil, exec_bind_ok (exec_pure _ _), exec_bind_ok (exec_get _), flatten_nil, hempty]
  rfl

theorem exec_evaluate_error {s : Settings} {skillName description : String} {f : Fault}
    (hruns : countOf s.runsPerQuery = .error f) (hne : items ≠ []) (host : Host) :
    exec (evaluate s skillName description (querySet items)) host =
      (.error f, { host with events := host.events ++ [.pool s.workers] }) := by
  obtain ⟨item, rest, rfl⟩ := exists_cons_of_ne_nil hne
  have hparts : (querySet (item :: rest)).parts =
      .ok (item.value :: rest.map (·.value)) := rfl
  have hsubmit : ∀ host, exec (submit s skillName description item.value) host = (.error f, host) := by
    intro host
    rw [submit, hruns, exec_bind_error (exec_ofExcept (.error f) host)]
  rw [evaluate, exec_bind_ok (exec_record _ _), hparts,
    exec_bind_ok (exec_ofExcept (.ok (item.value :: rest.map (·.value))) _)]
  exact exec_bind_error (exec_bind_error (hsubmit _))

/-! ## Orders in which calls are done -/

theorem filterMap_getElem?_range (xs : List α) :
    (range xs.length).filterMap (xs[·]?) = xs := by
  induction xs with
  | nil => rfl
  | cons x rest ih =>
    rw [length_cons, range_succ_eq_map, filterMap_cons, filterMap_map]
    exact congrArg (x :: ·) ih

theorem mem_of_mem_inOrder {order : Option (List Nat)} {xs : List α} {x : α}
    (h : x ∈ inOrder order xs) : x ∈ xs := by
  cases order with
  | none => exact h
  | some places =>
    obtain ⟨place, -, hplace⟩ := mem_filterMap.mp h
    exact mem_of_getElem? hplace

theorem inOrder_perm {order : List Nat} {xs : List α} (h : order.Perm (range xs.length)) :
    (inOrder (some order) xs).Perm xs := by
  have := h.filterMap (xs[·]?)
  rwa [filterMap_getElem?_range] at this

section Counts

variable (s : Settings) (skillName description : String) (host : Host)

theorem length_callsFor (asked : List Item) :
    (callsFor s skillName description host asked).length = asked.length :=
  length_mapIdx

theorem map_query_callsFor (asked : List Item) :
    (callsFor s skillName description host asked).map (·.query) = asked.map (·.query) :=
  ext_getElem (by simp [callsFor]) (by simp [callsFor])

theorem exists_of_mem_callsFor {asked : List Item} {c : Call}
    (h : c ∈ callsFor s skillName description host asked) :
    ∃ item ∈ asked, c.item = item.value ∧ c.query = item.query := by
  obtain ⟨place, hplace, rfl⟩ := mem_mapIdx.mp h
  exact ⟨_, getElem_mem hplace, rfl, rfl⟩

end Counts

theorem mem_requests {item : Item} : item ∈ requests runs items ↔ 0 < runs ∧ item ∈ items := by
  simp only [requests, mem_flatMap, mem_replicate]
  constructor
  · rintro ⟨item', hitem, hruns, rfl⟩
    exact ⟨Nat.pos_of_ne_zero hruns, hitem⟩
  · rintro ⟨hruns, hitem⟩
    exact ⟨item, hitem, Nat.ne_of_gt hruns, rfl⟩

theorem countP_requests (p : Item → Bool) (runs : Nat) (items : List Item) :
    (requests runs items).countP p = runs * items.countP p := by
  induction items with
  | nil => rfl
  | cons item rest ih =>
    rw [requests, flatMap_cons, countP_append, countP_replicate, countP_cons,
      ← requests, ih]
    split <;> simp [Nat.mul_add, Nat.add_comm]

theorem exists_outcomes {threshold : Value} {t : Number} (ht : Number.ofValue? threshold = some t)
    {done : List Call} (hitems : ∀ c ∈ done, ∃ item : Item, c.item = item.value) :
    ∃ outcomes, (done.foldl tally []).mapM (judge threshold) = .ok outcomes := by
  refine Result.exists_mapM fun g hg => ?_
  obtain ⟨q, -, htriggers, c, hc, hcq, hitem⟩ := (tallied_foldl done).grouped g hg
  obtain ⟨item, hvalue⟩ := hitems c hc
  have hwanted : g.item.entry "should_trigger" = .ok item.wanted := by
    rw [hitem, hvalue, item.entry_wanted]
  refine exists_judge ht hwanted ?_
  rw [htriggers]
  exact ne_nil_of_mem (mem_map_of_mem (mem_filter.mpr ⟨hc, by simpa using hcq⟩))

theorem exec_evaluate_ok (s : Settings) (skillName description : String) {t : Number}
    (hruns : countOf s.runsPerQuery = .ok runs) (ht : Number.ofValue? s.threshold = some t)
    (items : List Item) (host : Host) :
    let ends := awaiting s skillName description (requests runs items) host
    let done := inOrder ends.order (callsOf s skillName description host (requests runs items))
    ∃ outcomes printed, (done.foldl tally []).mapM (judge s.threshold) = .ok outcomes ∧
      exec (evaluate s skillName description (querySet items)) host =
        (.ok ⟨skillName, description, outcomes⟩, { ends with printed }) := by
  intro ends done
  have hitems : ∀ c ∈ done, ∃ item : Item, c.item = item.value := by
    intro c hc
    obtain ⟨item, -, hvalue, -⟩ := exists_of_mem_callsFor _ _ _ _ (mem_of_mem_inOrder hc)
    exact ⟨item, hvalue⟩
  obtain ⟨outcomes, houtcomes⟩ := exists_outcomes ht hitems
  obtain ⟨printed, hrun⟩ := exec_evaluate s skillName description hruns items host
  refine ⟨outcomes, printed, houtcomes, ?_⟩
  rw [hrun, houtcomes]
  rfl

/-- An evaluation with one outcome for each query that was asked, which counts all of its runs. -/
structure Accounted (runs : Nat) (items : List Item) (calls : List Call) (e : Evaluation) : Prop where
  distinct : (e.outcomes.map (·.query)).Nodup
  asked : ∀ a, a ∈ e.outcomes.map (·.query) ↔ 0 < runs ∧ ∃ item ∈ items, a = .text item.query
  counted : ∀ o ∈ e.outcomes, ∀ q, o.query = .text q →
    o.runs = runs * items.countP (·.query = q) ∧
    o.triggers = calls.countP fun c => c.query = q ∧ c.verdict = .triggered true
  summed : ∃ failed, passed e.outcomes + failed = e.outcomes.length ∧
    e.summary = .object [("total", .nat e.outcomes.length), ("passed", .nat (passed e.outcomes)),
      ("failed", .nat failed)]

theorem hit_eq_true {v : Verdict} : v.hit = true ↔ v = .triggered true := by
  cases v <;> simp [Verdict.hit]

theorem Judged.accounted {s : Settings} {skillName description : String} {host : Host}
    {outcomes : List Outcome}
    (h : Judged s.threshold (callsOf s skillName description host (requests runs items)) outcomes) :
    Accounted runs items (callsOf s skillName description host (requests runs items))
      ⟨skillName, description, outcomes⟩ := by
  refine ⟨h.distinct, ?_, ?_, ?_⟩
  · intro a
    constructor
    · intro ha
      obtain ⟨o, ho, rfl⟩ := mem_map.mp ha
      obtain ⟨q, hq, -, -, ⟨c, hc, hcq, -⟩, -⟩ := h.counted o ho
      obtain ⟨item, hitem, -, hquery⟩ := exists_of_mem_callsFor _ _ _ _ hc
      obtain ⟨hpos, hmem⟩ := mem_requests.mp hitem
      exact ⟨hpos, item, hmem, by rw [hq, ← hcq, hquery]⟩
    · rintro ⟨hpos, item, hitem, rfl⟩
      have hasked : item.query ∈ (callsOf s skillName description host (requests runs items)).map
          (·.query) := by
        rw [callsOf, map_query_callsFor]
        exact mem_map_of_mem (mem_requests.mpr ⟨hpos, hitem⟩)
      obtain ⟨c, hc, hcq⟩ := mem_map.mp hasked
      obtain ⟨o, ho, hquery⟩ := h.complete c hc
      exact mem_map.mpr ⟨o, ho, by rw [hquery, hcq]⟩
  · intro o ho q hq
    obtain ⟨q', hq', hruns, htriggers, -⟩ := h.counted o ho
    obtain rfl : q' = q := by simpa [hq] using hq'.symm
    constructor
    · have hqueries := map_query_callsFor s skillName description
        { host with events := host.events ++ [.pool s.workers] } (requests runs items)
      have hcount := congrArg (countP (· = q')) hqueries
      rw [countP_map, countP_map] at hcount
      rw [hruns, ← countP_requests]
      exact hcount
    · rw [htriggers]
      simp only [hit_eq_true]
  · refine ⟨outcomes.length - passed outcomes, ?_, rfl⟩
    exact Nat.add_sub_cancel' (length_filter_le _ _)

theorem summary_eq_of_perm {e e' : Evaluation} (h : e.outcomes.Perm e'.outcomes) :
    e.summary = e'.summary := by
  have hpassed : passed e.outcomes = passed e'.outcomes := (h.filter _).length_eq
  rw [Evaluation.summary, Evaluation.summary, hpassed, h.length_eq]

/-- The order in which the calls are done is of no account.  Let items of one query agree on what
is wanted.  Whatever the calls come to, and in whichever two orders they are done, both evaluations
go well and lose nothing; their outcomes are the same up to order, and their summaries are equal. -/
theorem evaluate_completion_orders (s : Settings) (skillName description : String) (runs : Nat)
    (t : Number) (hruns : countOf s.runsPerQuery = .ok runs)
    (ht : Number.ofValue? s.threshold = some t) (items : List Item)
    (hagree : ∀ i ∈ items, ∀ j ∈ items, i.query = j.query → i.wanted = j.wanted)
    (host : Host) (order order' : List Nat) (horder : order.Perm (List.range (runs * items.length)))
    (horder' : order'.Perm (List.range (runs * items.length))) :
    ∃ e e' : Evaluation,
      (exec (evaluate s skillName description (querySet items))
        { host with completion := some order }).1 = .ok e ∧
      (exec (evaluate s skillName description (querySet items))
        { host with completion := some order' }).1 = .ok e' ∧
      Accounted runs items (callsOf s skillName description host (requests runs items)) e ∧
      Accounted runs items (callsOf s skillName description host (requests runs items)) e' ∧
      e.outcomes.Perm e'.outcomes ∧ e.summary = e'.summary := by
  have hrun : ∀ order : List Nat, order.Perm (range (runs * items.length)) →
      ∃ outcomes, (exec (evaluate s skillName description (querySet items))
          { host with completion := some order }).1 = .ok ⟨skillName, description, outcomes⟩ ∧
        Judged s.threshold (callsOf s skillName description host (requests runs items)) outcomes := by
    intro order hperm
    obtain ⟨outcomes, printed, houtcomes, hrun⟩ := exec_evaluate_ok s skillName description hruns ht
      items { host with completion := some order }
    refine ⟨outcomes, by rw [hrun], ((tallied_foldl _).judged houtcomes).perm ?_⟩
    apply inOrder_perm
    rwa [callsOf, length_callsFor, length_requests]
  obtain ⟨outcomes', hrun', hjudged'⟩ := hrun order' horder'
  obtain ⟨outcomes, hrun, hjudged⟩ := hrun order horder
  have hwanted : ∀ c ∈ callsOf s skillName description host (requests runs items),
      ∀ c' ∈ callsOf s skillName description host (requests runs items), c.query = c'.query →
      c.item.entry "should_trigger" = c'.item.entry "should_trigger" := by
    intro c hc c' hc' hquery
    obtain ⟨i, hi, hvalue, hiq⟩ := exists_of_mem_callsFor _ _ _ _ hc
    obtain ⟨j, hj, hvalue', hjq⟩ := exists_of_mem_callsFor _ _ _ _ hc'
    rw [hvalue, hvalue', i.entry_wanted, j.entry_wanted,
      hagree i (mem_requests.mp hi).2 j (mem_requests.mp hj).2 (by rw [← hiq, ← hjq, hquery])]
  have hperm : outcomes.Perm outcomes' := hjudged.outcomes_perm hjudged' hwanted
  exact ⟨_, _, hrun, hrun', hjudged.accounted, hjudged'.accounted, hperm, summary_eq_of_perm hperm⟩

def sampleItem (query : String) (wanted : Bool) : Item where
  value := .object [("query", .text query), ("should_trigger", .bool wanted)]
  query
  wanted := .bool wanted
  entry_query := rfl
  entry_wanted := rfl

def sampleSettings (runs : Int) : Settings where
  workers := .int 4
  timeout := .int 30
  runsPerQuery := .int runs
  threshold := .float 0.5
  model := .null

/-- A query that stands twice in its set and fails once, done forwards and backwards. -/
theorem evaluate_completion_orders_repeated :
    let items := [sampleItem "a" true, sampleItem "b" false, sampleItem "a" true]
    let host : Host := { verdicts := [.triggered true, .failed "timeout", .triggered false] }
    countOf (sampleSettings 1).runsPerQuery = .ok 1 ∧
    Number.ofValue? (sampleSettings 1).threshold = some (.float 0.5) ∧
    (∀ i ∈ items, ∀ j ∈ items, i.query = j.query → i.wanted = j.wanted) ∧
    [0, 1, 2].Perm (List.range (1 * items.length)) ∧ [2, 1, 0].Perm (List.range (1 * items.length)) ∧
    ∃ e e' : Evaluation,
      (exec (evaluate (sampleSettings 1) "demo" "" (querySet items))
        { host with completion := some [0, 1, 2] }).1 = .ok e ∧
      (exec (evaluate (sampleSettings 1) "demo" "" (querySet items))
        { host with completion := some [2, 1, 0] }).1 = .ok e' ∧
      Accounted 1 items (callsOf (sampleSettings 1) "demo" "" host (requests 1 items)) e ∧
      Accounted 1 items (callsOf (sampleSettings 1) "demo" "" host (requests 1 items)) e' ∧
      e.outcomes.Perm e'.outcomes ∧ e.summary = e'.summary := by
  intro items host
  have hagree : ∀ i ∈ items, ∀ j ∈ items, i.query = j.query → i.wanted = j.wanted := by
    simp [items, sampleItem]
  have hforwards : [0, 1, 2].Perm (range (1 * items.length)) := by decide
  have hbackwards : [2, 1, 0].Perm (range (1 * items.length)) := by decide
  exact ⟨rfl, rfl, hagree, hforwards, hbackwards,
    evaluate_completion_orders (sampleSettings 1) "demo" "" 1 (.float 0.5) rfl rfl items hagree host
      _ _ hforwards hbackwards⟩

/-- Without runs a query has no outcome. -/
theorem evaluate_without_runs :
    ∃ e, (exec (evaluate (sampleSettings 0) "demo" "" (querySet [sampleItem "a" true])) {}).1 = .ok e ∧
      ¬ ∃ o ∈ e.outcomes, o.query = .text "a" :=
  ⟨⟨"demo", "", []⟩, rfl, by simp⟩

end SkillKit.Trigger
