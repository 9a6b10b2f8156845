import SkillKit.Optimize.Page
import SkillKit.Optimize.Propose
import SkillKit.Optimize.Split
import SkillKit.Skill.Header
import SkillKit.Trigger.Evaluate

/-!
# Optimising a description

The description of a skill is evaluated and improved in turns, until every query to learn from
passes or the turns are used up.  The assistant that proposes descriptions never sees what
became of the held out queries; those decide which description was best.
-/

namespace SkillKit.Optimize

open Text Trigger

structure Part where
  outcomes : List Outcome

namespace Part

def passed (p : Part) : Nat := Trigger.passed p.outcomes

def total (p : Part) : Nat := p.outcomes.length

def failed (p : Part) : Nat := p.total - p.passed

def score (p : Part) : String := s!"{p.passed}/{p.total}"

def results (p : Part) : Value := .list (p.outcomes.map (·.toValue))

def toValue (p : Part) : Value :=
  .object [
    ("results", p.results),
    ("summary", .object [
      ("passed", .nat p.passed), ("failed", .nat p.failed), ("total", .nat p.total)])]

end Part

structure Attempt where
  iteration : Nat
  description : String
  train : Part
  test : Option Part

namespace Attempt

def testScore (a : Attempt) : String :=
  (a.test.map (·.score)).getD "None/None"

def trainFields (a : Attempt) : List (String × Value) := [
  ("iteration", .nat a.iteration),
  ("description", .text a.description),
  ("train_passed", .nat a.train.passed),
  ("train_failed", .nat a.train.failed),
  ("train_total", .nat a.train.total),
  ("train_results", a.train.results)]

def testFields (a : Attempt) : List (String × Value) :=
  let field (f : Part → Value) : Value := (a.test.map f).getD .null
  [("test_passed", field (.nat ·.passed)),
    ("test_failed", field (.nat ·.failed)),
    ("test_total", field (.nat ·.total)),
    ("test_results", field (·.results))]

def plainFields (a : Attempt) : List (String × Value) := [
  ("passed", .nat a.train.passed),
  ("failed", .nat a.train.failed),
  ("total", .nat a.train.total),
  ("results", a.train.results)]

def toValue (a : Attempt) : Value :=
  .object (a.trainFields ++ a.testFields ++ a.plainFields)

def blinded (a : Attempt) : Value :=
  .object (a.trainFields ++ a.plainFields)

def rank (hasTest : Bool) (a : Attempt) : Nat :=
  if hasTest then (a.test.map (·.passed)).getD 0 else a.train.passed

end Attempt

def bestAttempt? (hasTest : Bool) : List Attempt → Option Attempt
  | [] => none
  | first :: rest => some (rest.foldl (fun best a =>
      if best.rank hasTest < a.rank hasTest then a else best) first)

structure Plan where
  settings : Settings
  skill : Skill.Header
  override : Option String
  maxIterations : Int
  holdout : Value
  verbose : Bool
  reportPath : Option Path
  logDir : Option Path

def Plan.start (p : Plan) : String :=
  match p.override with
  | some d => if d.isEmpty then p.skill.description else d
  | none => p.skill.description

structure Result where
  exitReason : String
  best : Attempt
  finalDescription : String
  history : List Attempt
  split : Split

def sizeFields (plan : Plan) (split : Split) (history : List Attempt) : List (String × Value) := [
  ("iterations_run", .nat history.length),
  ("holdout", plan.holdout),
  ("train_size", .nat split.train.length),
  ("test_size", .nat split.test.length),
  ("history", .list (history.map (·.toValue)))]

def partialValue (plan : Plan) (split : Split) (current : String) (history : List Attempt) :
    Value :=
  .object ([
    ("original_description", .text plan.skill.description),
    ("best_description", .text current),
    ("best_score", .text "in progress")] ++ sizeFields plan split history)

namespace Result

def hasTest (r : Result) : Bool := !r.split.test.isEmpty

def bestScore (r : Result) : String :=
  if r.hasTest then r.best.testScore else r.best.train.score

def toValue (plan : Plan) (r : Result) : Value :=
  .object ([
    ("exit_reason", .text r.exitReason),
    ("original_description", .text plan.skill.description),
    ("best_description", .text r.best.description),
    ("best_score", .text r.bestScore),
    ("best_train_score", .text r.best.train.score),
    ("best_test_score", if r.hasTest then .text r.best.testScore else .null),
    ("final_description", .text r.finalDescription)]
    ++ sizeFields plan r.split r.history)

end Result

/-! ## What is told on the way -/

def tell (plan : Plan) (line : String) : Act Unit :=
  if plan.verbose then Act.warnLine line else pure ()

def ratioOr (num den : Nat) (other : Float) : Except Fault Float :=
  if den == 0 then .ok other else Number.divInt num den

def statsLine (label : String) (outcomes : List Outcome) (elapsed : Float) :
    Except Fault String := do
  let wanted := outcomes.filter (·.shouldTrigger.truthy)
  let unwanted := outcomes.filter (!·.shouldTrigger.truthy)
  let sum (f : Outcome → Nat) (os : List Outcome) : Nat := (os.map f).foldl (· + ·) 0
  let hits := sum (·.triggers) wanted
  let misses := sum (·.runs) wanted - hits
  let falseHits := sum (·.triggers) unwanted
  let rejections := sum (·.runs) unwanted - falseHits
  let total := hits + rejections + falseHits + misses
  let precision := Decimal.percent 0 (← ratioOr hits (hits + falseHits) 1.0)
  let found := Decimal.percent 0 (← ratioOr hits (hits + misses) 1.0)
  let accuracy := Decimal.percent 0 (← ratioOr (hits + rejections) total 0.0)
  let seconds := Decimal.fixed 1 elapsed
  return s!"{label}: {hits + rejections}/{total} correct, precision={precision} "
    ++ s!"recall={found} accuracy={accuracy} ({seconds}s)"

def outcomeLine (queryChars : Nat) (o : Outcome) : Except Fault String := do
  let status := passWord o.pass
  let query ← firstItems queryChars (.atom o.query)
  return s!"  [{status}] rate={o.triggers}/{o.runs} expected={o.shouldTrigger.display}: "
    ++ query.display

def tellPart (plan : Plan) (label : String) (part : Part) (elapsed : Float) : Act Unit := do
  if plan.verbose then
    Act.warnLine (← Act.ofExcept (statsLine label part.outcomes elapsed))
    for o in part.outcomes do
      Act.warnLine (← Act.ofExcept (outcomeLine 60 o))

/-! ## The turns -/

def planSplit (plan : Plan) (queries : Value) : Act (Except Value Split) := do
  if ← Act.ofExcept (Value.before (.int 0) plan.holdout) then
    let s ← Act.ofExcept (split queries plan.holdout defaultSeed)
    tell plan s!"Split: {s.train.length} train, {s.test.length} test (holdout={plan.holdout.display})"
    return .ok s
  else return .error queries

def allQueries : Except Value Split → Except Fault Split
  | .ok s => .ok s
  | .error (.list items) => .ok ⟨items, []⟩
  | .error _ => .error .wrongKind

def queryKeys (queries : List Value) : Except Fault (List Atom) :=
  queries.mapM fun q => do
    match ← q.entry "query" with
    | .atom a => return a
    | _ => throw .wrongKind

def attemptOf (iteration : Nat) (split : Split) (e : Evaluation) : Except Fault Attempt := do
  let keys ← queryKeys split.train
  let isTrain (o : Outcome) : Bool := keys.any (·.same o.query)
  let train : Part := ⟨e.outcomes.filter isTrain⟩
  let test : Part := ⟨e.outcomes.filter (!isTrain ·)⟩
  return { iteration, description := e.description, train
           test := if split.test.isEmpty then none else some test }

def evaluateDescription (plan : Plan) (queries : Except Value Split) (history : List Attempt)
    (description : String) : Act (Split × Attempt × Float) := do
  let iteration := history.length + 1
  let bar := repeated 60 "="
  tell plan s!"\n{bar}"
  tell plan s!"Iteration {iteration}/{plan.maxIterations}"
  tell plan s!"Description: {description}"
  tell plan bar
  let split ← Act.ofExcept (allQueries queries)
  let start ← Act.readClock
  let evaluation ← evaluate plan.settings plan.skill.name description
    (.list (split.train ++ split.test))
  let stop ← Act.readClock
  let attempt ← Act.ofExcept (attemptOf iteration split evaluation)
  return (split, attempt, stop - start)

def writeDraft (plan : Plan) (split : Split) (current : String) (history : List Attempt) :
    Act Unit := do
  if let some path := plan.reportPath then
    let data := partialValue plan split current history
    Act.writeText path (← Act.ofExcept (pageOf data true (.text plan.skill.name)))

def tellAttempt (plan : Plan) (attempt : Attempt) (elapsed : Float) : Act Unit := do
  tellPart plan "Train" attempt.train elapsed
  if let some test := attempt.test then tellPart plan "Test " test 0.0

def tryDescription (plan : Plan) (queries : Except Value Split) (history : List Attempt)
    (description : String) : Act (Split × Attempt) := do
  let (split, attempt, elapsed) ← evaluateDescription plan queries history description
  writeDraft plan split description (history ++ [attempt])
  tellAttempt plan attempt elapsed
  return (split, attempt)

def improve (plan : Plan) (history : List Attempt) (last : Attempt) : Act String := do
  tell plan "\nImproving description..."
  let start ← Act.readClock
  let description ← propose {
    skillName := .text plan.skill.name
    skillContent := .text plan.skill.content
    current := .text last.description
    results := last.train.toValue
    history := .list (history.map (·.blinded))
    model := plan.settings.model
    logDir := plan.logDir
    iteration := .nat last.iteration }
  let stop ← Act.readClock
  let seconds := Decimal.fixed 1 (stop - start)
  tell plan s!"Proposed ({seconds}s): {description}"
  return description

structure Ended where
  reason : String
  description : String
  history : List Attempt
  split : Split

def turns (plan : Plan) (queries : Except Value Split) (history : List Attempt)
    (description : String) : (left : Nat) → Act Ended
  | 0 => return ⟨"unknown", description, history, (queries.toOption).getD ⟨[], []⟩⟩
  | left + 1 => do
    let (split, attempt) ← tryDescription plan queries history description
    let history := history ++ [attempt]
    if attempt.train.failed == 0 then
      tell plan s!"\nAll train queries passed on iteration {attempt.iteration}!"
      return ⟨s!"all_passed (iteration {attempt.iteration})", description, history, split⟩
    else if left == 0 then
      tell plan s!"\nMax iterations reached ({plan.maxIterations})."
      return ⟨s!"max_iterations ({plan.maxIterations})", description, history, split⟩
    else
      let next ← improve plan history attempt
      turns plan queries history next left

def optimize (plan : Plan) (queries : Value) : Act Result := do
  let queries ← planSplit plan queries
  let ended ← turns plan queries [] plan.start plan.maxIterations.toNat
  let some best := bestAttempt? (!ended.split.test.isEmpty) ended.history
    | throw .unusable
  let result : Result :=
    ⟨ended.reason, best, ended.description, ended.history, ended.split⟩
  tell plan s!"\nExit reason: {result.exitReason}"
  tell plan s!"Best score: {result.bestScore} (iteration {best.iteration})"
  return result

end SkillKit.Optimize
