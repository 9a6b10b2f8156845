import SkillKit.Proofs.Knowledge.Memory
import SkillKit.Proofs.Knowledge.Shelf

/-!
# Two processes that learn

Two calls that learn a concept take their steps in any order (`Scene.run`); of the files it is enough
to know what is on the shelf of concepts (`Outline`, `Scene.run_eq`).  When one call ends before the
other begins, both concepts are learned (`Outline.run_inTurn`).  When both have loaded before one of
them saves, what the first one saves is lost (`Outline.run_crossed`).
-/

namespace SkillKit.Knowledge

open Act Time Fields Json

/-! ## Calls by steps -/

/-- A call to learn a concept. -/
structure Lesson where
  name : String
  table : Document
  keyColumn : Document
  dateColumn : Document

namespace Lesson

def key (l : Lesson) : String := nameKey l.name

def entry (l : Lesson) (now : Stamp) : Value :=
  conceptEntry l.table l.keyColumn l.dateColumn now

def perform (l : Lesson) : Act Value :=
  learnConcept (.text l.name) l.table l.keyColumn l.dateColumn

/-- What the call does once the concepts have been loaded. -/
def finish (l : Lesson) (data : Value) : Act Value :=
  learnFrom data (.text l.name) l.table l.keyColumn l.dateColumn

theorem perform_eq (l : Lesson) : l.perform = load .concepts >>= l.finish := rfl

theorem isJson_entry (l : Lesson) (now : Stamp) : isJson (l.entry now) = true := by
  simp [entry, conceptEntry, Value.object, isJson, fieldsAreJson, isTextKey,
    atomIsJson, Atom.same, l.table.2, l.keyColumn.2, l.dateColumn.2]

theorem isRead_entry (l : Lesson) (now : Stamp) : isRead (l.entry now) = true :=
  isRead_of_isJson (l.isJson_entry now)

theorem exec_finish (l : Lesson) {host : Host} {fields saved : Fields}
    (h : Opens .concepts host saved) (hfields : isRead (.dict fields) = true) :
    ∃ files, exec (l.finish (.dict fields)) host = (.ok (l.entry host.now), { host with files }) ∧
      Opens .concepts { host with files } (put fields (.text l.key) (l.entry host.now)) :=
  h.exec_learnFrom hfields rfl (l.isRead_entry host.now)

theorem opens_of_perform (l : Lesson) {host host' : Host} {v : Value}
    (h : exec l.perform host = (.ok v, host')) : ∃ before, Opens .concepts host before := by
  obtain ⟨before, -, hopens, -⟩ := opens_of_learnConcept (l.isRead_entry host.now) h
  exact ⟨before, hopens⟩

end Lesson

/-- How far a call has come. -/
inductive Stage where
  | ready
  | loaded (data : Value)
  | finished (answer : Except Fault Value)

def Stage.ofLoad : Except Fault Value → Stage
  | .ok data => .loaded data
  | .error f => .finished (.error f)

/-- The next step of a call, at a time: it loads the concepts, and then it saves them. -/
def Lesson.step (l : Lesson) (now : Stamp) (host : Host) : Stage → Stage × Host
  | .ready =>
    let (r, host) := exec (load .concepts) { host with now }
    (.ofLoad r, host)
  | .loaded data =>
    let (r, host) := exec (l.finish data) { host with now }
    (.finished r, host)
  | .finished r => (.finished r, host)

inductive Party where
  | one
  | two
deriving DecidableEq

def Party.other : Party → Party
  | .one => .two
  | .two => .one

@[simp] theorem Party.other_other (p : Party) : p.other.other = p := by
  cases p <;> rfl

theorem Party.other_ne (p : Party) : p.other ≠ p := by
  cases p <;> decide

theorem Party.eq_or_eq_other (p q : Party) : q = p ∨ q = p.other := by
  cases p <;> cases q <;> decide

/-- Two calls on the files of one host. -/
structure Scene where
  stage : Party → Stage
  host : Host

namespace Scene

def start (host : Host) : Scene := ⟨fun _ => .ready, host⟩

/-- One of the calls takes its next step, at a time. -/
def step (calls : Party → Lesson) (s : Scene) (p : Party × Stamp) : Scene :=
  let (stage, host) := (calls p.1).step p.2 s.host (s.stage p.1)
  ⟨fun q => if q = p.1 then stage else s.stage q, host⟩

def run (calls : Party → Lesson) (s : Scene) (steps : List (Party × Stamp)) : Scene :=
  steps.foldl (step calls) s

end Scene

theorem Lesson.step_step (l : Lesson) (now : Stamp) (host : Host) :
    let (stage, host') := l.step now host .ready
    l.step now host' stage =
      (.finished (exec l.perform { host with now }).1, (exec l.perform { host with now }).2) := by
  have hkeeps := (keeps_load .concepts : Keeps id _) { host with now }
  rw [Lesson.perform_eq, exec_bind, Lesson.step]
  cases hload : exec (load .concepts) { host with now } with
  | mk r host₁ =>
    obtain rfl : host₁ = { host with now } := by
      rwa [hload] at hkeeps
    cases r <;> rfl

/-! ## What is on the shelf -/

/-- What the next step of a call makes of its stage and of the fields on the shelf. -/
def Lesson.advance (l : Lesson) (now : Stamp) (saved : Fields) : Stage → Stage × Fields
  | .ready => (.loaded (.dict saved), saved)
  | .loaded (.dict fields) =>
    (.finished (.ok (l.entry now)), put fields (.text l.key) (l.entry now))
  | stage => (stage, saved)

/-- What was loaded can be saved. -/
def Stage.IsSound : Stage → Prop
  | .loaded data => ∃ fields, data = .dict fields ∧ isRead data = true
  | _ => True

/-- The stages of the two calls, and the fields on the shelf. -/
abbrev Outline := (Party → Stage) × Fields

namespace Outline

def step (calls : Party → Lesson) (o : Outline) (p : Party × Stamp) : Outline :=
  let next := (calls p.1).advance p.2 o.2 (o.1 p.1)
  (Function.update o.1 p.1 next.1, next.2)

def run (calls : Party → Lesson) (o : Outline) (steps : List (Party × Stamp)) : Outline :=
  steps.foldl (step calls) o

end Outline

section Steps

variable {calls : Party → Lesson} {host : Host} {saved : Fields}

theorem Lesson.step_eq (l : Lesson) (now : Stamp) (h : Opens .concepts host saved) {stage : Stage}
    (hstage : stage.IsSound) :
    ∃ host', l.step now host stage = ((l.advance now saved stage).1, host') ∧
      (l.advance now saved stage).1.IsSound ∧
        Opens .concepts host' (l.advance now saved stage).2 := by
  have hnow : Opens .concepts { host with now } saved := ⟨h.load, h.room⟩
  cases stage with
  | ready =>
    refine ⟨{ host with now }, ?_, ⟨saved, rfl, h.isRead⟩, hnow⟩
    rw [Lesson.step, hnow.exec_load]
    rfl
  | loaded data =>
    obtain ⟨fields, rfl, hread⟩ := hstage
    obtain ⟨files, hfinish, hafter⟩ := l.exec_finish hnow hread
    exact ⟨_, congrArg (fun r => (Stage.finished r.1, r.2)) hfinish, trivial, hafter⟩
  | finished r => exact ⟨host, rfl, trivial, h⟩

theorem Scene.run_eq {s : Scene} (h : Opens .concepts s.host saved) (hstages : ∀ p, (s.stage p).IsSound)
    (steps : List (Party × Stamp)) :
    (s.run calls steps).stage = (Outline.run calls (s.stage, saved) steps).1 ∧
      Opens .concepts (s.run calls steps).host (Outline.run calls (s.stage, saved) steps).2 := by
  induction steps generalizing s saved with
  | nil => exact ⟨rfl, h⟩
  | cons step rest ih =>
    obtain ⟨p, now⟩ := step
    obtain ⟨host', hstep, hsound, hafter⟩ := (calls p).step_eq now h (hstages p)
    have hnext : s.step calls (p, now) =
        ⟨Function.update s.stage p ((calls p).advance now saved (s.stage p)).1, host'⟩ := by
      rw [Scene.step, hstep]
      exact congrArg (Scene.mk · host') (funext fun q => (Function.update_apply _ _ _ _).symm)
    rw [Scene.run, List.foldl_cons, hnext]
    exact ih (s := ⟨_, host'⟩) hafter
      ((Function.forall_update_iff s.stage fun _ stage => stage.IsSound).mpr
        ⟨hsound, fun q _ => hstages q⟩)

end Steps

/-! ## Whole runs -/

/-- The call that begins also saves before the other one loads. -/
def InTurn (turns : List Party) : Prop :=
  ∃ p rest, turns = p :: p :: rest

/-- Both calls load before one of them saves, and the call of the process is the last to save. -/
def SavesLast (turns : List Party) (p : Party) : Prop :=
  ∃ q rest, turns = q :: q.other :: p.other :: rest

namespace Outline

variable {calls : Party → Lesson} {o : Outline} {stage : Party → Stage} {saved fields : Fields}
  {p : Party} {r : Except Fault Value}

theorem run_cons (o : Outline) (step : Party × Stamp) (rest : List (Party × Stamp)) :
    run calls o (step :: rest) = run calls (o.step calls step) rest := rfl

theorem step_of_finished (h : o.1 p = .finished r) (now : Stamp) : o.step calls (p, now) = o := by
  have hnext : (calls p).advance now o.2 (o.1 p) = (o.1 p, o.2) := by
    rw [h]
    rfl
  rw [step, hnext, Function.update_eq_self]

theorem run_of_finished (h : ∀ p, ∃ r, o.1 p = .finished r) (steps : List (Party × Stamp)) :
    run calls o steps = o := by
  induction steps with
  | nil => rfl
  | cons step rest ih =>
    obtain ⟨r, hr⟩ := h step.1
    rw [run_cons, step_of_finished hr, ih]

/-- When the other call is over, a call saves its concept among the fields that it has loaded or finds
on the shelf. -/
theorem run_of_other_finished (hother : stage p.other = .finished r) {steps : List (Party × Stamp)}
    (hstage : stage p = .loaded (.dict fields) ∧ 1 ≤ (steps.map Prod.fst).count p ∨
      stage p = .ready ∧ saved = fields ∧ 2 ≤ (steps.map Prod.fst).count p) :
    ∃ now, run calls (stage, saved) steps =
      (Function.update stage p (.finished (.ok ((calls p).entry now))),
        put fields (.text (calls p).key) ((calls p).entry now)) := by
  induction steps generalizing stage with
  | nil => simp at hstage
  | cons step rest ih =>
    obtain ⟨q, now⟩ := step
    rw [run_cons]
    rcases p.eq_or_eq_other q with rfl | rfl
    · rw [List.map_cons, List.count_cons_self] at hstage
      have hother' : ∀ next, Function.update stage q next q.other = .finished r :=
        fun _ => (Function.update_of_ne q.other_ne _ _).trans hother
      rcases hstage with ⟨hloaded, -⟩ | ⟨hready, rfl, hmore⟩
      · refine ⟨now, ?_⟩
        simp only [Outline.step, hloaded]
        refine run_of_finished (fun q' => ?_) rest
        rcases q.eq_or_eq_other q' with rfl | rfl
        · exact ⟨_, Function.update_self _ _ _⟩
        · exact ⟨r, hother' _⟩
      · simp only [Outline.step, hready]
        obtain ⟨now', hrun⟩ := ih (hother' (.loaded (.dict saved)))
          (.inl ⟨Function.update_self _ _ _, Nat.le_of_succ_le_succ hmore⟩)
        exact ⟨now', hrun.trans (by rw [Function.update_idem])⟩
    · rw [step_of_finished (o := (stage, saved)) hother]
      rw [List.map_cons, List.count_cons_of_ne p.other_ne] at hstage
      exact ih hother hstage

def start (before : Fields) : Outline := (fun _ => .ready, before)

theorem run_inTurn (before : Fields) (now now' : Stamp) {rest : List (Party × Stamp)}
    (hmore : 2 ≤ (rest.map Prod.fst).count p.other) :
    ∃ entries : Party → Value, (∀ q, ∃ now, entries q = (calls q).entry now) ∧
      run calls (start before) ((p, now) :: (p, now') :: rest) =
        (fun q => .finished (.ok (entries q)),
          put (put before (.text (calls p).key) (entries p))
            (.text (calls p.other).key) (entries p.other)) := by
  have hsaved : ((start before).step calls (p, now)).step calls (p, now') =
      (Function.update (fun _ => .ready) p (.finished (.ok ((calls p).entry now'))),
        put before (.text (calls p).key) ((calls p).entry now')) := by
    simp [Outline.step, start, Lesson.advance]
  rw [run_cons, run_cons, hsaved]
  have hfirst : Function.update (fun _ => Stage.ready) p (.finished (.ok ((calls p).entry now')))
      p.other.other = .finished (.ok ((calls p).entry now')) := by
    rw [Party.other_other, Function.update_self]
  obtain ⟨now₂, hrun⟩ := @run_of_other_finished calls _ _ _ p.other _ hfirst rest
    (.inr ⟨Function.update_of_ne p.other_ne _ _, rfl, hmore⟩)
  refine ⟨fun q => (calls q).entry (if q = p then now' else now₂), fun q => ⟨_, rfl⟩, hrun.trans ?_⟩
  refine Prod.ext (funext fun q => ?_) (by simp [p.other_ne])
  rcases p.eq_or_eq_other q with rfl | rfl
  · simp [q.other_ne.symm]
  · simp [p.other_ne]

theorem run_crossed (before : Fields) (q : Party) (now now' now'' : Stamp)
    {rest : List (Party × Stamp)} (hmore : 1 ≤ (rest.map Prod.fst).count p) :
    ∃ entries : Party → Value, (∀ q, ∃ now, entries q = (calls q).entry now) ∧
      run calls (start before) ((q, now) :: (q.other, now') :: (p.other, now'') :: rest) =
        (fun q => .finished (.ok (entries q)),
          put before (.text (calls p).key) (entries p)) := by
  -- Nothing was saved when the second call loads, and so it loads the same.
  have hloaded : ((start before).step calls (q, now)).step calls (q.other, now') =
      (fun _ => .loaded (.dict before), before) := by
    refine Prod.ext (funext fun r => ?_) ?_
    · rcases q.eq_or_eq_other r with rfl | rfl
      · simp [Outline.step, start, Lesson.advance, r.other_ne.symm]
      · simp [Outline.step, start, Lesson.advance, q.other_ne]
    · simp [Outline.step, start, Lesson.advance, q.other_ne]
  have hsaved : Outline.step calls (fun _ => .loaded (.dict before), before) (p.other, now'') =
      (Function.update (fun _ => .loaded (.dict before)) p.other
        (.finished (.ok ((calls p.other).entry now''))),
          put before (.text (calls p.other).key) ((calls p.other).entry now'')) := rfl
  rw [run_cons, run_cons, run_cons, hloaded, hsaved]
  obtain ⟨now₂, hrun⟩ := @run_of_other_finished calls _ _ before p _
    (Function.update_self p.other _ fun _ => .loaded (.dict before)) rest
      (.inl ⟨Function.update_of_ne p.other_ne.symm _ _, hmore⟩)
  refine ⟨fun r => (calls r).entry (if r = p then now₂ else now''), fun r => ⟨_, rfl⟩, hrun.trans ?_⟩
  refine Prod.ext (funext fun r => ?_) (by simp)
  rcases p.eq_or_eq_other r with rfl | rfl
  · simp
  · simp [p.other_ne]

end Outline

theorem Scene.run_start {host : Host} {before : Fields} (h : Opens .concepts host before)
    (calls : Party → Lesson) (steps : List (Party × Stamp)) :
    ((start host).run calls steps).stage = (Outline.run calls (.start before) steps).1 ∧
      Opens .concepts ((start host).run calls steps).host
        (Outline.run calls (.start before) steps).2 :=
  run_eq (s := start host) h (fun _ => trivial) steps

/-! ## What is found afterwards -/

theorem inTurn_or_crossed {steps : List (Party × Stamp)}
    (h : ∀ p, 2 ≤ (steps.map Prod.fst).count p) :
    (∃ p now now' rest, steps = (p, now) :: (p, now') :: rest ∧
      2 ≤ (rest.map Prod.fst).count p.other) ∨
    ∃ p q now now' now'' rest, steps = (q, now) :: (q.other, now') :: (p.other, now'') :: rest ∧
      1 ≤ (rest.map Prod.fst).count p := by
  match steps, h with
  | [], h => exact absurd (h .one) (by simp)
  | [(p, now)], h => exact absurd (h p) (by simp)
  | (p, now) :: (q, now') :: rest, h =>
    rcases p.eq_or_eq_other q with rfl | rfl
    · simpa [q.other_ne.symm] using h q.other
    · match rest, h with
      | [], h => exact absurd (h p) (by simp [p.other_ne])
      | (r, now'') :: rest, h =>
        refine .inr ⟨r.other, p, now, now', now'', rest, by rw [Party.other_other], ?_⟩
        -- Of the first two steps one is of the call that saves last, and the third one is not.
        have hcount := h r.other
        cases p <;> cases r <;> simp_all [Party.other]

/-- Two calls that would succeed by themselves take their steps in any order, until both are over.
Both succeed.  When one of them is over before the other one begins, both concepts are found, and all
that was there under other names.  When both load before one of them saves, the last to save leaves
its own concept and what was there, and the concept of the other one is lost. -/
theorem lookup_after_interleaving {calls : Party → Lesson} {host : Host}
    {steps : List (Party × Stamp)}
    (halone : ∀ p now, ∃ v host', exec (calls p).perform { host with now } = (.ok v, host'))
    (hkeys : (calls .one).key ≠ (calls .two).key)
    (hsteps : ∀ p, 2 ≤ (steps.map Prod.fst).count p) :
    let s := (Scene.start host).run calls steps
    ∃ (before after : Fields) (entries : Party → Value),
      exec (load .concepts) host = (.ok (.dict before), host) ∧
      (∀ p, (∃ now, entries p = (calls p).entry now) ∧ s.stage p = .finished (.ok (entries p))) ∧
      exec (load .concepts) s.host = (.ok (.dict after), s.host) ∧
      (InTurn (steps.map Prod.fst) → (∀ p, Fields.get? after (calls p).key = some (entries p)) ∧
        ∀ name, (∀ p, name ≠ (calls p).key) → Fields.get? after name = Fields.get? before name) ∧
      (¬ InTurn (steps.map Prod.fst) → ∃ p, SavesLast (steps.map Prod.fst) p ∧
        ∀ name, Fields.get? after name =
          if name = (calls p).key then some (entries p) else Fields.get? before name) := by
  obtain ⟨_, _, hlearn⟩ := halone .one host.now
  obtain ⟨before, hopens⟩ := (calls .one).opens_of_perform hlearn
  obtain ⟨hstage, hafter⟩ := Scene.run_start hopens calls steps
  rcases inTurn_or_crossed hsteps with ⟨p, now, now', rest, rfl, hmore⟩ |
    ⟨p, q, now, now', now'', rest, rfl, hmore⟩
  · have hother : (calls p).key ≠ (calls p.other).key := by
      cases p
      · exact hkeys
      · exact hkeys.symm
    obtain ⟨entries, hentries, hrun⟩ := @Outline.run_inTurn calls p before now now' rest hmore
    rw [hrun] at hstage hafter
    refine ⟨before, _, entries, hopens.exec_load, fun p => ⟨hentries p, congrFun hstage p⟩,
      hafter.exec_load, fun _ => ⟨fun q => ?_, fun name hname => ?_⟩, fun hcrossed => ?_⟩
    · rcases p.eq_or_eq_other q with rfl | rfl
      · rw [get?_put, if_neg hother, get?_put, if_pos rfl]
      · rw [get?_put, if_pos rfl]
    · rw [get?_put, if_neg (hname _), get?_put, if_neg (hname _)]
    · exact absurd ⟨p, rest.map Prod.fst, rfl⟩ hcrossed
  · obtain ⟨entries, hentries, hrun⟩ := @Outline.run_crossed calls p before q now now' now'' rest hmore
    rw [hrun] at hstage hafter
    refine ⟨before, _, entries, hopens.exec_load, fun p => ⟨hentries p, congrFun hstage p⟩,
      hafter.exec_load, fun hturn => ?_, fun _ => ⟨p, ⟨q, rest.map Prod.fst, rfl⟩, fun name => ?_⟩⟩
    · obtain ⟨r, others, heq⟩ := hturn
      injection heq with hfirst heq
      injection heq with hsecond
      exact absurd (hsecond.trans hfirst.symm) q.other_ne
    · rw [get?_put]

/-! ## Examples -/

def sampleLessons : Party → Lesson
  | .one => ⟨"users", textDocument "HQ.USERS", noDocument, noDocument⟩
  | .two => ⟨"orders", textDocument "HQ.ORDERS", noDocument, noDocument⟩

def sampleTime : Stamp := ⟨⟨2024, 1, 1⟩, ⟨9, 30, 0, 0⟩, none⟩

theorem sampleLessons_key_ne : (sampleLessons .one).key ≠ (sampleLessons .two).key := by
  decide +kernel

theorem exec_sampleLessons (p : Party) (now : Stamp) :
    ∃ v host', exec (sampleLessons p).perform { ({} : Host) with now } = (.ok v, host') := by
  have hopens := (vacant_new now).opens .concepts
  obtain ⟨files, hlearn, -⟩ := (sampleLessons p).exec_finish hopens hopens.isRead
  exact ⟨_, _, (exec_bind_ok hopens.exec_load).trans hlearn⟩

/-- In turn, both are learned. -/
theorem lookup_after_interleaving_inTurn :
    let s := (Scene.start {}).run sampleLessons
      [(.two, sampleTime), (.two, sampleTime), (.one, sampleTime), (.one, sampleTime)]
    ∃ (after : Fields) (entries : Party → Value), (∀ p, s.stage p = .finished (.ok (entries p))) ∧
      exec (load .concepts) s.host = (.ok (.dict after), s.host) ∧
      ∀ p, Fields.get? after (sampleLessons p).key = some (entries p) := by
  obtain ⟨_, after, entries, -, hended, hload, hturn, -⟩ := @lookup_after_interleaving sampleLessons {}
    [(.two, sampleTime), (.two, sampleTime), (.one, sampleTime), (.one, sampleTime)]
    exec_sampleLessons sampleLessons_key_ne (fun p => by cases p <;> decide)
  exact ⟨after, entries, fun p => (hended p).2, hload, (hturn ⟨.two, _, rfl⟩).1⟩

/-- When they cross, both calls succeed, and what the first one to save has learned is not there. -/
theorem crossing_loses_concept :
    let s := (Scene.start {}).run sampleLessons
      [(.one, sampleTime), (.two, sampleTime), (.one, sampleTime), (.two, sampleTime)]
    ∃ (after : Fields) (entries : Party → Value), (∀ p, s.stage p = .finished (.ok (entries p))) ∧
      exec (load .concepts) s.host = (.ok (.dict after), s.host) ∧
      Fields.get? after (sampleLessons .one).key = none := by
  obtain ⟨hstage, hafter⟩ := @Scene.run_start {} _ ((vacant_new _).opens .concepts) sampleLessons
    [(.one, sampleTime), (.two, sampleTime), (.one, sampleTime), (.two, sampleTime)]
  obtain ⟨entries, -, hrun⟩ := @Outline.run_crossed sampleLessons .two [] .one sampleTime sampleTime
    sampleTime [(.two, sampleTime)] (by decide)
  simp only [Party.other] at hrun
  rw [hrun] at hstage hafter
  refine ⟨_, entries, fun p => congrFun hstage p, hafter.exec_load, ?_⟩
  rw [get?_put, if_neg sampleLessons_key_ne]
  rfl

end SkillKit.Knowledge
