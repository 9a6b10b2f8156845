import SkillKit.Proofs.Files.Shape
import SkillKit.Proofs.Optimize.Turns

/-!
# Held out queries do not matter to the turns

Two hosts may answer the held out queries in any way, as long as they agree on the queries to learn
from (`Alike`).  Every step of an optimisation keeps such hosts alike, and the two runs differ in
nothing but what they know about held out queries (`Matches`, `inStep_optimize`).  A draft shows the
held out outcomes too, so hosts that are alike have files of one shape only.
-/

namespace SkillKit.Optimize

open Act Trigger List

variable {α β : Type} {h k : Host} {a : Attempt} {history history' : List Attempt}

/-! ## Calls for the first items -/

/-- The places below a bound, in the order in which the calls there are done. -/
def placesBelow (bound total : Nat) (order : Option (List Nat)) : List Nat :=
  (order.getD (range total)).filter (· < bound)

theorem inOrder_eq (order : Option (List Nat)) (xs : List α) :
    inOrder order xs = (order.getD (range xs.length)).filterMap (xs[·]?) := by
  cases order with
  | none => exact (filterMap_getElem?_range xs).symm
  | some places => rfl

theorem filter_inOrder_append {p : α → Bool} {xs ys : List α} (hxs : ∀ x ∈ xs, p x = true)
    (hys : ∀ y ∈ ys, p y = false) (order : Option (List Nat)) :
    (inOrder order (xs ++ ys)).filter p =
      (placesBelow xs.length (xs ++ ys).length order).filterMap (xs[·]?) := by
  rw [inOrder_eq, placesBelow]
  induction order.getD (range (xs ++ ys).length) with
  | nil => rfl
  | cons place rest ih =>
    by_cases hplace : place < xs.length
    · have hx : (xs ++ ys)[place]? = some xs[place] := by
        rw [getElem?_append_left hplace, getElem?_eq_getElem hplace]
      simp [hplace, hx, ih, hxs _ (getElem_mem hplace)]
    · have hy : ∀ y, (xs ++ ys)[place]? = some y → p y = false := by
        intro y h
        rw [getElem?_append_right (by omega)] at h
        exact hys y (mem_of_getElem? h)
      cases h : (xs ++ ys)[place]? with
      | none => simp [hplace, h, ih]
      | some y => simp [hplace, h, ih, hy y h]

theorem requests_append (runs : Nat) (xs ys : List Item) :
    requests runs (xs ++ ys) = requests runs xs ++ requests runs ys :=
  flatMap_append

/-! ## Hosts that are alike -/

/-- Hosts that agree on everything that an optimisation learns from. -/
structure Alike (runs : Nat) (train test : List Item) (h k : Host) : Prop where
  shape : h.files.shape = k.files.shape
  directory : h.directory = k.directory
  environment : h.environment = k.environment
  replies : h.replies = k.replies
  answer : h.answer = k.answer
  verdicts : h.verdicts = k.verdicts
  completion : h.completion = k.completion
  events : h.events = k.events
  trigger : ∀ item ∈ train, ∀ arguments steps,
    h.trigger (.text item.query :: arguments) steps = k.trigger (.text item.query :: arguments) steps
  schedule : ∀ steps,
    placesBelow (runs * train.length) (runs * (train ++ test).length) (h.schedule steps) =
      placesBelow (runs * train.length) (runs * (train ++ test).length) (k.schedule steps)

section Steps

variable {runs : Nat} {train test : List Item}

theorem Alike.printed (p q : List (Channel × String)) (hR : Alike runs train test h k) :
    Alike runs train test { h with printed := p } { k with printed := q } :=
  { hR with }

theorem Alike.recorded (event : Event) (hR : Alike runs train test h k) :
    Alike runs train test { h with events := h.events ++ [event] }
      { k with events := k.events ++ [event] } :=
  { hR with events := congrArg (· ++ [event]) hR.events }

theorem Alike.callsFor_eq (hR : Alike runs train test h k) (s : Settings)
    (skillName description : String) {asked : List Item} (hasked : ∀ item ∈ asked, item ∈ train) :
    callsFor s skillName description h asked = callsFor s skillName description k asked := by
  refine ext_getElem (by simp [callsFor]) fun place hplace _ => ?_
  have hplace' : place < asked.length := by simpa [callsFor] using hplace
  have hitem : asked[place] ∈ train := hasked _ (getElem_mem hplace')
  simp only [callsFor, getElem_mapIdx, verdictAt, hR.verdicts, hR.events, argumentsOf]
  rw [hR.trigger _ hitem]

theorem Alike.order (hR : Alike runs train test h k) :
    placesBelow (runs * train.length) (runs * (train ++ test).length) h.order =
      placesBelow (runs * train.length) (runs * (train ++ test).length) k.order := by
  unfold Host.order
  rw [hR.completion, hR.events]
  cases k.completion with
  | some places => rfl
  | none => exact hR.schedule _

/-! ## Evaluations -/

/-- Evaluations that agree on the items to learn from. -/
structure Agree (train : List Item) (e e' : Evaluation) : Prop where
  description : e.description = e'.description
  outcomes : e.outcomes.filter (isFor train) = e'.outcomes.filter (isFor train)
  sound : ∀ o ∈ e.outcomes, Sound o
  sound' : ∀ o ∈ e'.outcomes, Sound o

/-- The outcomes for items to learn from are those of the calls for these items, in the order in
which they are done. -/
theorem filter_outcomes {s : Settings} {skillName description : String}
    (hdisjoint : ∀ i ∈ train, ∀ j ∈ test, i.query ≠ j.query) {host : Host}
    {order : Option (List Nat)} {outcomes : List Outcome}
    (houtcomes : ((inOrder order (callsOf s skillName description host
      (requests runs (train ++ test)))).foldl tally []).mapM (judge s.threshold) = .ok outcomes) :
    (((placesBelow (runs * train.length) (runs * (train ++ test).length) order).filterMap
      ((callsOf s skillName description host (requests runs train))[·]?)).foldl tally []).mapM
        (judge s.threshold) = .ok (outcomes.filter (isFor train)) := by
  set calls := callsOf s skillName description host (requests runs train)
  obtain ⟨others, hothers, hsplit⟩ : ∃ others : List Call,
      (∀ c ∈ others, ∃ item ∈ requests runs test, c.query = item.query) ∧
      callsOf s skillName description host (requests runs (train ++ test)) = calls ++ others := by
    refine ⟨_, ?_, by rw [requests_append, callsOf, callsFor_append]; rfl⟩
    intro c hc
    obtain ⟨item, hitem, -, hquery⟩ := exists_of_mem_callsFor _ _ _ _ hc
    exact ⟨item, hitem, hquery⟩
  have hlength : calls.length = runs * train.length := by
    rw [← length_requests]
    exact length_callsFor _ _ _ _ _
  have htotal : (calls ++ others).length = runs * (train ++ test).length := by
    rw [← hsplit, ← length_requests]
    exact length_callsFor _ _ _ _ _
  -- whether a query is one to learn from
  let learns : Atom → Bool := fun a => train.any fun item => (Atom.text item.query).same a
  have hcalls : ∀ c ∈ calls, learns (.text c.query) = true := by
    intro c hc
    obtain ⟨item, hitem, -, hquery⟩ := exists_of_mem_callsFor _ _ _ _ hc
    exact any_eq_true.mpr ⟨item, (mem_requests.mp hitem).2, by simp [same_text, hquery]⟩
  have hothers' : ∀ c ∈ others, learns (.text c.query) = false := by
    intro c hc
    obtain ⟨j, hj, hquery⟩ := hothers c hc
    refine any_eq_false.mpr fun i hi => ?_
    simpa [same_text, hquery] using hdisjoint i hi j (mem_requests.mp hj).2
  have hpicked := Result.mapM_filter (p := fun g => learns g.query) (q := isFor train) houtcomes
    fun g _ o ho => by rw [isFor, (judge_eq_ok.mp ho).1]
  rw [filter_foldl_tally, hsplit, filter_inOrder_append hcalls hothers' order, hlength,
    htotal] at hpicked
  exact hpicked

theorem inStep_evaluate {s : Settings} {t : Number} (hruns : countOf s.runsPerQuery = .ok runs)
    (ht : Number.ofValue? s.threshold = some t)
    (hdisjoint : ∀ i ∈ train, ∀ j ∈ test, i.query ≠ j.query) (skillName description : String) :
    InStep (Alike runs train test) (Agree train)
      (evaluate s skillName description (querySet (train ++ test)))
      (evaluate s skillName description (querySet (train ++ test))) := by
  intro h k hR
  obtain ⟨outcomes, printed, houtcomes, hrun⟩ :=
    exec_evaluate_ok s skillName description hruns ht (train ++ test) h
  obtain ⟨outcomes', printed', houtcomes', hrun'⟩ :=
    exec_evaluate_ok s skillName description hruns ht (train ++ test) k
  rw [hrun, hrun']
  have hends : Alike runs train test
      (awaiting s skillName description (requests runs (train ++ test)) h)
      (awaiting s skillName description (requests runs (train ++ test)) k) :=
    { hR with
      verdicts := by simp [awaiting, afterCalls, hR.verdicts]
      events := by simp [awaiting, afterCalls, hR.events] }
  have hcalls : callsOf s skillName description h (requests runs train) =
      callsOf s skillName description k (requests runs train) :=
    (hR.recorded (.pool s.workers)).callsFor_eq s skillName description fun item hitem =>
      (mem_requests.mp hitem).2
  refine .ok ⟨rfl, ?_, ?_, ?_⟩ (hends.printed _ _)
  · have hleft := filter_outcomes hdisjoint houtcomes
    have hright := filter_outcomes hdisjoint houtcomes'
    rw [hends.order, hcalls, hright] at hleft
    exact (Except.ok.inj hleft).symm
  · exact evaluate_sound (congrArg Prod.fst hrun)
  · exact evaluate_sound (congrArg Prod.fst hrun')

/-! ## Steps that look at nothing held out -/

theorem inStep_prints {Q : α → β → Prop} {act : Act α} {act' : Act β} {a : α} {b : β}
    (h : Prints act a) (h' : Prints act' b) (hQ : Q a b) :
    InStep (Alike runs train test) Q act act' :=
  Prints.inStep (fun _ _ _ _ hR => hR.printed _ _) h h' hQ

theorem inStep_told {Q : α → β → Prop} {plan : Plan} {line line' : String} {act : Act α}
    {act' : Act β} (h : InStep (Alike runs train test) Q act act') :
    InStep (Alike runs train test) Q (do tell plan line; act) (do tell plan line'; act') :=
  InStep.bind (P := fun _ _ => True)
    (inStep_prints (prints_tell _ _) (prints_tell _ _) trivial) fun _ _ _ => h

theorem inStep_record (event : Event) :
    InStep (Alike runs train test) Eq (record event) (record event) :=
  fun _ _ hR => .ok rfl (hR.recorded event)

theorem inStep_readClock :
    InStep (Alike runs train test) (fun _ _ => True) readClock readClock :=
  fun _ _ hR => .ok trivial { hR with }

theorem inStep_change {change change' : Tree → List String → Except Fault Tree}
    (hshape : ∀ t t' names, t.shape = t'.shape →
      (change t names).map Tree.shape = (change' t' names).map Tree.shape) (p : Path) :
    InStep (Alike runs train test) Eq
      (do let names := (← get).locate p; changeFiles (change · names))
      (do let names := (← get).locate p; changeFiles (change' · names)) := by
  intro h k hR
  have hlocate : h.locate p = k.locate p := by rw [Host.locate, Host.locate, hR.directory]
  have hfiles := hshape h.files k.files (k.locate p) hR.shape
  rw [exec_bind_ok (exec_get h), exec_bind_ok (exec_get k), hlocate]
  cases hc : change h.files (k.locate p) with
  | error f =>
    cases hc' : change' k.files (k.locate p) with
    | error g =>
      rw [hc, hc'] at hfiles
      obtain rfl := Except.error.inj hfiles
      rw [exec_changeFiles_error hc, exec_changeFiles_error hc']
      exact .error hR
    | ok files' =>
      rw [hc, hc'] at hfiles
      cases hfiles
  | ok files =>
    cases hc' : change' k.files (k.locate p) with
    | error g =>
      rw [hc, hc'] at hfiles
      cases hfiles
    | ok files' =>
      rw [hc, hc'] at hfiles
      rw [exec_changeFiles_ok hc, exec_changeFiles_ok hc']
      exact .ok rfl { hR with shape := Except.ok.inj hfiles }

theorem inStep_makeDirs (p : Path) :
    InStep (Alike runs train test) Eq (makeDirs p) (makeDirs p) :=
  inStep_change (fun t t' names h => by rw [Tree.shape_makeDirs, Tree.shape_makeDirs, h]) p

theorem inStep_writeText (p : Path) (text text' : String) :
    InStep (Alike runs train test) Eq (writeText p text) (writeText p text') := by
  refine @inStep_change runs train test (fun files names => files.writeText names text)
    (fun files names => files.writeText names text') (fun t t' names h => ?_) p
  rw [Tree.shape_writeText, Tree.shape_writeText, h]

theorem inStep_runCommand (command : List String) (input : Option String)
    (environment : Option (List String)) :
    InStep (Alike runs train test) Eq (runCommand command input environment)
      (runCommand command input environment) := by
  refine (inStep_record _).bind fun _ _ _ => ?_
  have hreply : InStep (Alike runs train test) Eq (nextReply command input)
      (nextReply command input) := by
    intro h k hR
    unfold nextReply
    rw [exec_bind_ok (exec_get h), exec_bind_ok (exec_get k), hR.replies, hR.answer]
    cases k.replies with
    | nil => exact .ok rfl hR
    | cons reply rest =>
      exact .ok rfl { hR with replies := rfl, answer := rfl }
  refine hreply.bind fun reply reply' hreplies => ?_
  subst hreplies
  split
  · exact InStep.pure rfl
  · exact InStep.throw _
  · exact InStep.throw _

theorem inStep_ask (prompt : String) (model : Value) :
    InStep (Alike runs train test) Eq (ask prompt model) (ask prompt model) := by
  intro h k hR
  unfold ask
  rw [exec_bind_ok (exec_get h), exec_bind_ok (exec_get k), hR.environment]
  refine InStep.bind (inStep_runCommand _ _ _) (fun done done' hdone => ?_) h k hR
  subst hdone
  split
  · exact InStep.throw _
  · exact InStep.pure rfl

theorem inStep_shorten (prompt description : String) (model : Value) :
    InStep (Alike runs train test) Eq (shorten prompt description model)
      (shorten prompt description model) := by
  unfold shorten
  split
  · exact InStep.pure rfl
  · refine (inStep_ask _ _).bind fun answer answer' hanswer => ?_
    subst hanswer
    exact InStep.pure rfl

theorem inStep_logTranscript (dir : Path) (iteration : Value) (transcript : List (String × Value)) :
    InStep (Alike runs train test) Eq (logTranscript dir iteration transcript)
      (logTranscript dir iteration transcript) := by
  refine (inStep_makeDirs _).bind fun _ _ _ => ?_
  refine (InStep.ofExcept_refl _).bind fun text text' htext => ?_
  subst htext
  exact inStep_writeText _ _ _

theorem inStep_propose (r : Request) :
    InStep (Alike runs train test) Eq (propose r) (propose r) := by
  refine (InStep.ofExcept_refl _).bind fun asked asked' hasked => ?_
  subst hasked
  refine (inStep_ask _ _).bind fun answer answer' hanswer => ?_
  subst hanswer
  refine (inStep_shorten _ _ _).bind fun final final' hfinal => ?_
  subst hfinal
  cases r.logDir with
  | none => exact InStep.pure rfl
  | some dir => exact (inStep_logTranscript _ _ _).bind fun _ _ _ => InStep.pure rfl

/-! ## Attempts that match -/

/-- Attempts that differ in nothing but what they know about held out queries. -/
structure Matches (test : List Item) (a a' : Attempt) : Prop where
  iteration : a.iteration = a'.iteration
  description : a.description = a'.description
  train : a.train = a'.train
  sound : a.Sound
  sound' : a'.Sound
  test_eq_none : a.test = none ↔ test = []
  test_eq_none' : a'.test = none ↔ test = []

theorem Matches.blinded_eq {a' : Attempt} (h : Matches test a a') : a.blinded = a'.blinded := by
  simp only [Attempt.blinded, Attempt.trainFields, Attempt.plainFields, h.iteration, h.description,
    h.train]

theorem Matches.untested_eq {a' : Attempt} (h : Matches test a a') :
    { a with test := none } = { a' with test := none } := by
  rw [h.iteration, h.description, h.train]

theorem map_eq_of_matches {f : Attempt → β} (h : Forall₂ (Matches test) history history')
    (hf : ∀ a a', Matches test a a' → f a = f a') : history.map f = history'.map f := by
  rw [← forall₂_eq_eq_eq, forall₂_map_left_iff, forall₂_map_right_iff]
  exact h.imp hf

theorem facts_of_matches (h : Forall₂ (Matches test) history history') :
    (∀ a ∈ history, a.Sound ∧ (a.test = none ↔ test = [])) ∧
      ∀ a ∈ history', a.Sound ∧ (a.test = none ↔ test = []) := by
  induction h with
  | nil => simp
  | cons hfirst _ ih =>
    refine ⟨fun a ha => ?_, fun a ha => ?_⟩
    · rcases mem_cons.mp ha with rfl | ha
      · exact ⟨hfirst.sound, hfirst.test_eq_none⟩
      · exact ih.1 a ha
    · rcases mem_cons.mp ha with rfl | ha
      · exact ⟨hfirst.sound', hfirst.test_eq_none'⟩
      · exact ih.2 a ha

theorem inStep_improve (plan : Plan) {last last' : Attempt}
    (hhistory : Forall₂ (Matches test) history history') (hlast : Matches test last last') :
    InStep (Alike runs train test) Eq (improve plan history last) (improve plan history' last') := by
  have hsame : improve plan history last = improve plan history' last' := by
    unfold improve
    rw [hlast.description, hlast.train, hlast.iteration, map_eq_of_matches hhistory fun _ _ => Matches.blinded_eq]
  rw [hsame]
  refine inStep_told ?_
  refine inStep_readClock.bind fun start start' _ => ?_
  refine (inStep_propose _).bind fun description description' hdescription => ?_
  subst hdescription
  refine inStep_readClock.bind fun stop stop' _ => ?_
  exact inStep_told (InStep.pure rfl)

/-! ## Telling about attempts -/

theorem ratioOr_ok {num den : Nat} (h : num ≤ den) (other : Float) :
    ∃ x, ratioOr num den other = .ok x := by
  unfold ratioOr
  split
  · exact ⟨other, rfl⟩
  · rename_i hden
    obtain ⟨x, hx, -⟩ := Number.divInt_of_le h (Nat.pos_of_ne_zero (by simpa using hden))
    exact ⟨x, hx⟩

theorem statsLine_ok (label : String) (outcomes : List Outcome) (elapsed : Float) :
    ∃ line, statsLine label outcomes elapsed = .ok line := by
  unfold statsLine
  extract_lets wanted unwanted sum hits misses falseHits rejections total
  obtain ⟨precision, hprecision⟩ := ratioOr_ok (Nat.le_add_right hits falseHits) 1.0
  obtain ⟨found, hfound⟩ := ratioOr_ok (Nat.le_add_right hits misses) 1.0
  obtain ⟨accuracy, haccuracy⟩ := ratioOr_ok (show hits + rejections ≤ total by omega) 0.0
  rw [hprecision, Result.ok_bind, hfound, Result.ok_bind, haccuracy]
  exact ⟨_, rfl⟩

theorem outcomeLine_ok {o : Outcome} (h : Sound o) (queryChars : Nat) :
    ∃ line, outcomeLine queryChars o = .ok line := by
  obtain ⟨q, hq⟩ := h.text
  unfold outcomeLine
  rw [hq]
  exact ⟨_, rfl⟩

theorem prints_tellPart (plan : Plan) (label : String) {part : Part}
    (h : ∀ o ∈ part.outcomes, Sound o) (elapsed : Float) :
    Prints (tellPart plan label part elapsed) ⟨⟩ := by
  unfold tellPart
  split
  · obtain ⟨line, hline⟩ := statsLine_ok label part.outcomes elapsed
    refine (Prints.ofExcept hline).bind ((Prints.warnLine _).bind ?_)
    refine Prints.bind (a := PUnit.unit) (Prints.forIn fun o ho => ?_) (Prints.pure _)
    obtain ⟨line, hline⟩ := outcomeLine_ok (h o ho) 60
    exact (Prints.ofExcept hline).bind ((Prints.warnLine _).bind (Prints.pure _))
  · exact Prints.pure _

theorem prints_tellAttempt (plan : Plan) (h : a.Sound) (elapsed : Float) :
    Prints (tellAttempt plan a elapsed) ⟨⟩ := by
  unfold tellAttempt
  refine (prints_tellPart plan "Train" h.train elapsed).bind ?_
  cases htest : a.test with
  | none => exact Prints.pure _
  | some test => exact prints_tellPart plan "Test " (h.test test htest) 0.0

/-! ## Turns in step -/

/-- What two evaluations of a description hand on: the split, and attempts that match. -/
def Evaluated (train test : List Item) (x y : Split × Attempt × Float) : Prop :=
  x.1 = splitOf train test ∧ y.1 = splitOf train test ∧ Matches test x.2.1 y.2.1

section Turns

variable {plan : Plan} {t : Number} {queries : Except Value Split}
variable (hruns : countOf plan.settings.runsPerQuery = .ok runs)
variable (ht : Number.ofValue? plan.settings.threshold = some t)
variable (hdisjoint : ∀ i ∈ train, ∀ j ∈ test, i.query ≠ j.query)
variable (hqueries : allQueries queries = .ok (splitOf train test))

theorem Agree.matches {e e' : Evaluation} (h : Agree train e e') (iteration : Nat) :
    Matches test (attemptFor train test iteration e) (attemptFor train test iteration e') where
  iteration := rfl
  description := h.description
  train := congrArg Part.mk h.outcomes
  sound := attemptFor_sound h.sound train test iteration
  sound' := attemptFor_sound h.sound' train test iteration
  test_eq_none := attemptFor_test_eq_none train test iteration e
  test_eq_none' := attemptFor_test_eq_none train test iteration e'

include hruns ht hdisjoint hqueries

theorem inStep_evaluateDescription (hhistory : Forall₂ (Matches test) history history')
    (description : String) :
    InStep (Alike runs train test) (Evaluated train test)
      (evaluateDescription plan queries history description)
      (evaluateDescription plan queries history' description) := by
  unfold evaluateDescription
  rw [hhistory.length_eq, hqueries]
  refine inStep_told (inStep_told (inStep_told (inStep_told ?_)))
  refine InStep.bind (P := fun x y => x = splitOf train test ∧ y = splitOf train test)
    (inStep_prints (Prints.ofExcept rfl) (Prints.ofExcept rfl) ⟨rfl, rfl⟩) ?_
  rintro _ _ ⟨rfl, rfl⟩
  rw [splitOf_queries]
  refine inStep_readClock.bind fun start start' _ => ?_
  refine (inStep_evaluate hruns ht hdisjoint _ _).bind fun e e' hagree => ?_
  refine inStep_readClock.bind fun stop stop' _ => ?_
  rw [attemptOf_eq, attemptOf_eq]
  refine InStep.bind (P := Matches test)
    (inStep_prints (Prints.ofExcept rfl) (Prints.ofExcept rfl) (hagree.matches _))
    fun a a' hmatch => ?_
  exact InStep.pure ⟨rfl, rfl, hmatch⟩

omit hruns ht hdisjoint hqueries

theorem inStep_writeDraft (plan : Plan) (current : String)
    (hhistory : Forall₂ (Matches test) history history') (hne : history ≠ []) :
    InStep (Alike runs train test) (fun _ _ => True)
      (writeDraft plan (splitOf train test) current history)
      (writeDraft plan (splitOf train test) current history') := by
  unfold writeDraft
  cases plan.reportPath with
  | none => exact InStep.pure trivial
  | some path =>
    have hlists : ∀ history, Page.Lists
        (partialValue plan (splitOf train test) current history) history := fun history =>
      ⟨⟨_, rfl⟩, rfl, ⟨_, rfl⟩, ⟨_, rfl⟩⟩
    have hne' : history' ≠ [] := by
      rintro rfl
      exact hne (forall₂_nil_right_iff.mp hhistory)
    obtain ⟨hfacts, hfacts'⟩ := facts_of_matches hhistory
    dsimp only
    by_cases htest : test = []
    · rw [pageOf_error (hlists history) (fun a ha => (hfacts a ha).1) hne
          fun a ha => (hfacts a ha).2.mpr htest,
        pageOf_error (hlists history') (fun a ha => (hfacts' a ha).1) hne'
          fun a ha => (hfacts' a ha).2.mpr htest]
      exact InStep.bind (InStep.ofExcept_refl _) fun text text' htext => by
        subst htext
        exact (inStep_writeText _ _ _).mono fun _ _ _ => trivial
    · obtain ⟨page, hpage⟩ := pageOf_ok (hlists history) (fun a ha => (hfacts a ha).1) hne
        (fun a ha h => htest ((hfacts a ha).2.mp h)) true plan.skill.name
      obtain ⟨page', hpage'⟩ := pageOf_ok (hlists history') (fun a ha => (hfacts' a ha).1) hne'
        (fun a ha h => htest ((hfacts' a ha).2.mp h)) true plan.skill.name
      refine InStep.bind (P := fun _ _ => True)
        (inStep_prints (Prints.ofExcept hpage) (Prints.ofExcept hpage') trivial) fun _ _ _ => ?_
      exact (inStep_writeText _ _ _).mono fun _ _ _ => trivial

include hruns ht hdisjoint hqueries

theorem inStep_tryDescription (hhistory : Forall₂ (Matches test) history history')
    (description : String) :
    InStep (Alike runs train test)
      (fun x y => x.1 = splitOf train test ∧ y.1 = splitOf train test ∧ Matches test x.2 y.2)
      (tryDescription plan queries history description)
      (tryDescription plan queries history' description) := by
  unfold tryDescription
  refine (inStep_evaluateDescription hruns ht hdisjoint hqueries hhistory description).bind ?_
  rintro ⟨split, a, elapsed⟩ ⟨split', a', elapsed'⟩ ⟨rfl, rfl, hmatch⟩
  have hboth := rel_append hhistory (.cons hmatch .nil)
  refine (inStep_writeDraft plan description hboth (by simp)).bind fun _ _ _ => ?_
  refine InStep.bind (P := fun _ _ => True) (inStep_prints (prints_tellAttempt plan hmatch.sound _)
    (prints_tellAttempt plan hmatch.sound' _) trivial) fun _ _ _ => ?_
  exact InStep.pure ⟨rfl, rfl, hmatch⟩

/-- Where two runs of the turns ended: for the same reason, with the same description, after
attempts that match. -/
structure EndedAlike (test : List Item) (x y : Ended) : Prop where
  reason : x.reason = y.reason
  description : x.description = y.description
  history : Forall₂ (Matches test) x.history y.history
  split : x.split = y.split

theorem inStep_turns (hhistory : Forall₂ (Matches test) history history')
    (description : String) (left : Nat) :
    InStep (Alike runs train test) (EndedAlike test)
      (turns plan queries history description left)
      (turns plan queries history' description left) := by
  induction left generalizing history history' description with
  | zero => exact InStep.pure ⟨rfl, rfl, hhistory, rfl⟩
  | succ left ih =>
    unfold turns
    refine (inStep_tryDescription hruns ht hdisjoint hqueries hhistory description).bind ?_
    rintro ⟨split, a⟩ ⟨split', a'⟩ ⟨rfl, rfl, hmatch⟩
    have hboth := rel_append hhistory (.cons hmatch .nil)
    dsimp only at hmatch ⊢
    rw [hmatch.train, hmatch.iteration]
    split
    · exact inStep_told (InStep.pure ⟨rfl, rfl, hboth, rfl⟩)
    · split
      · exact inStep_told (InStep.pure ⟨rfl, rfl, hboth, rfl⟩)
      · refine (inStep_improve plan hboth hmatch).bind fun next next' hnext => ?_
        subst hnext
        exact ih hboth next

omit hqueries

/-! ## Optimisations in step -/

/-- Results that differ in nothing but what is known about held out queries and which attempt was
the best. -/
structure SameButHeldOut (r r' : Result) : Prop where
  exitReason : r.exitReason = r'.exitReason
  finalDescription : r.finalDescription = r'.finalDescription
  iterations : r.history.length = r'.history.length
  history : r.history.map (fun a => { a with test := none }) =
    r'.history.map (fun a => { a with test := none })
  split : r.split = r'.split

theorem inStep_optimize {set : Value} (hplan : Prints (planSplit plan set) queries)
    (hqueries : allQueries queries = .ok (splitOf train test)) :
    InStep (Alike runs train test) SameButHeldOut (optimize plan set) (optimize plan set) := by
  unfold optimize
  refine InStep.bind (P := fun x y => x = queries ∧ y = queries)
    (inStep_prints hplan hplan ⟨rfl, rfl⟩) ?_
  rintro _ _ ⟨rfl, rfl⟩
  refine (inStep_turns hruns ht hdisjoint hqueries .nil _ _).bind ?_
  rintro ⟨reason, description, history, split⟩ ⟨_, _, history', _⟩ ⟨rfl, rfl, hhistory, rfl⟩
  have hsame : ∀ best best', SameButHeldOut ⟨reason, best, description, history, split⟩
      ⟨reason, best', description, history', split⟩ := fun _ _ =>
    ⟨rfl, rfl, hhistory.length_eq, map_eq_of_matches hhistory fun _ _ => Matches.untested_eq, rfl⟩
  -- there is a best attempt on both sides or on none
  cases hhistory with
  | nil => exact InStep.throw _
  | cons _ _ => exact inStep_told (inStep_told (InStep.pure (hsame _ _)))

end Turns

end Steps

theorem Divides.disjoint {plan : Plan} {items train test : List Item}
    (h : Divides plan items train test) (hdistinct : (items.map (·.query)).Nodup) :
    ∀ i ∈ train, ∀ j ∈ test, i.query ≠ j.query := by
  have hboth : ((train ++ test).map (·.query)).Nodup := (h.perm.map _).nodup_iff.mpr hdistinct
  rw [map_append, nodup_append] at hboth
  intro i hi j hj
  exact hboth.2.2 _ (mem_map_of_mem hi) _ (mem_map_of_mem hj)

/-- Held out queries never matter to an optimisation.  Two hosts that are the same but for what
calls come to and when these are done, and that agree on the calls for queries to learn from and on
the order among these, take the same outside steps: the same prompts are sent and the same
descriptions are evaluated.  The results are the same, but for what they know about held out queries
and for the best attempt. -/
theorem optimize_blind_to_held_out (plan : Plan) (items : List Item) (runs : Nat) (t : Number)
    (hruns : countOf plan.settings.runsPerQuery = .ok runs)
    (ht : Number.ofValue? plan.settings.threshold = some t)
    (hdistinct : (items.map (·.query)).Nodup)
    (hholdout : Value.before (.int 0) plan.holdout = .ok true) (host : Host)
    (trigger trigger' : List Value → Nat → Verdict) (schedule schedule' : Nat → Option (List Nat))
    (htrigger : ∀ s, split (querySet items) plan.holdout defaultSeed = .ok s →
      ∀ item ∈ items, item.value ∈ s.train → ∀ arguments steps,
        trigger (.text item.query :: arguments) steps =
          trigger' (.text item.query :: arguments) steps)
    (hschedule : ∀ s, split (querySet items) plan.holdout defaultSeed = .ok s → ∀ steps,
      placesBelow (runs * s.train.length) (runs * items.length) (schedule steps) =
        placesBelow (runs * s.train.length) (runs * items.length) (schedule' steps)) :
    EndAlike (fun h k => h.events = k.events) SameButHeldOut
      (exec (optimize plan (querySet items)) { host with trigger, schedule })
      (exec (optimize plan (querySet items))
        { host with trigger := trigger', schedule := schedule' }) := by
  rcases planSplit_cases plan items with
    ⟨queries, train, test, hprints, hall, hdivides, hsplit⟩ | ⟨f, hf⟩
  · have hlength : (train ++ test).length = items.length := hdivides.perm.length_eq
    have htrain : (splitOf train test).train.length = train.length := length_map _
    have halike : Alike runs train test { host with trigger, schedule }
        { host with trigger := trigger', schedule := schedule' } := by
      refine ⟨rfl, rfl, rfl, rfl, rfl, rfl, rfl, rfl, fun item hitem => ?_, fun steps => ?_⟩
      · have hmem : item ∈ items := hdivides.perm.subset (mem_append_left _ hitem)
        exact htrigger _ (hsplit hholdout) item hmem (mem_map_of_mem hitem)
      · have horder := hschedule _ (hsplit hholdout) steps
        rw [htrain, ← hlength] at horder
        exact horder
    have hends := inStep_optimize hruns ht (hdivides.disjoint hdistinct) hprints hall _ _ halike
    exact hends.mono (fun _ _ => id) fun _ _ halike => halike.events
  · unfold optimize
    rw [exec_bind_error (hf _), exec_bind_error (hf _)]
    exact .error rfl

def triggeringFor (query : String) : List Value → Nat → Verdict
  | .atom (.text q) :: _, _ => .triggered (q == query)
  | _, _ => .triggered false

theorem optimize_blind_to_held_out_alone :
    let plan := { samplePlan (.float 0.4) with maxIterations := 2 }
    let items := [sampleItem "a" true, sampleItem "b" true, sampleItem "c" false]
    (triggeringFor "" [.text "c"] 0 = .triggered false ∧
      triggeringFor "c" [.text "c"] 0 = .triggered true) ∧
    EndAlike (fun h k => h.events = k.events) SameButHeldOut
      (exec (optimize plan (querySet items))
        { trigger := triggeringFor "", schedule := fun _ => some [0, 1, 2] })
      (exec (optimize plan (querySet items))
        { trigger := triggeringFor "c", schedule := fun _ => some [2, 0, 1] }) := by
  intro plan items
  have hdistinct : (items.map (·.query)).Nodup := by decide
  have hholdout : Value.before (.int 0) plan.holdout = .ok true := rfl
  have htrigger : ∀ s, split (querySet items) plan.holdout defaultSeed = .ok s →
      ∀ item ∈ items, item.value ∈ s.train → ∀ arguments steps,
        triggeringFor "" (.text item.query :: arguments) steps =
          triggeringFor "c" (.text item.query :: arguments) steps := by
    intro s hs item hitem htrain arguments steps
    have halone := not_mem_train_of_filter_eq (q := (sampleItem "c" false).value) hs rfl
    simp only [items, mem_cons, not_mem_nil, or_false] at hitem
    rcases hitem with rfl | rfl | rfl
    · rfl
    · rfl
    · exact absurd htrain halone
  have hschedule : ∀ s, split (querySet items) plan.holdout defaultSeed = .ok s → ∀ steps : Nat,
      placesBelow (1 * s.train.length) (1 * items.length) (some [0, 1, 2]) =
        placesBelow (1 * s.train.length) (1 * items.length) (some [2, 0, 1]) := by
    intro s hs _
    have hperm := (split_perm hs).length_eq
    have htest : s.test ≠ [] := fun h => by cases (split_test_eq_nil_iff hs).mp h
    have hpos := length_pos_iff.mpr htest
    rw [length_append, length_map, show items.length = 3 from rfl] at hperm
    obtain h | h | h : s.train.length = 0 ∨ s.train.length = 1 ∨ s.train.length = 2 := by omega
    all_goals
      rw [h]
      rfl
  exact ⟨⟨rfl, rfl⟩, optimize_blind_to_held_out plan items 1 (.float 0.5) rfl rfl hdistinct hholdout
    {} _ _ _ _ htrigger hschedule⟩

end SkillKit.Optimize
