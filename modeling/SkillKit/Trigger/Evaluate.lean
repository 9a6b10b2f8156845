import SkillKit.Trigger.Query

/-!
# Evaluating a set of queries

Every query of the set is run a number of times by a pool of workers, which may finish in any
order.  A query passes when its share of triggers reaches a threshold, or stays below it when
the skill is not wanted.
-/

namespace SkillKit.Trigger

structure Settings where
  workers : Value
  timeout : Value
  runsPerQuery : Value
  threshold : Value
  model : Value

structure Group where
  query : Atom
  item : Value
  triggers : List Bool

structure Outcome where
  query : Atom
  shouldTrigger : Value
  rate : Float
  triggers : Nat
  runs : Nat
  pass : Bool

structure Evaluation where
  skillName : String
  description : String
  outcomes : List Outcome

namespace Outcome

def toValue (o : Outcome) : Value :=
  .object [
    ("query", .atom o.query),
    ("should_trigger", o.shouldTrigger),
    ("trigger_rate", .float o.rate),
    ("triggers", .nat o.triggers),
    ("runs", .nat o.runs),
    ("pass", .bool o.pass)]

end Outcome

def passed (outcomes : List Outcome) : Nat :=
  (outcomes.filter (·.pass)).length

namespace Evaluation

def summary (e : Evaluation) : Value :=
  let total := e.outcomes.length
  .object [
    ("total", .nat total),
    ("passed", .nat (passed e.outcomes)),
    ("failed", .nat (total - passed e.outcomes))]

def toValue (e : Evaluation) : Value :=
  .object [
    ("skill_name", .text e.skillName),
    ("description", .text e.description),
    ("results", .list (e.outcomes.map (·.toValue))),
    ("summary", e.summary)]

end Evaluation

/-! ## Collecting -/

structure Done where
  item : Value
  query : Value
  verdict : Verdict

def addTo (query : Atom) (item : Value) (b : Bool) : List Group → List Group
  | [] => [⟨query, item, [b]⟩]
  | g :: rest =>
    if g.query.same query then ⟨g.query, item, g.triggers ++ [b]⟩ :: rest
    else g :: addTo query item b rest

def collect (groups : List Group) (done : Done) : Act (List Group) := do
  match done.query with
  | .atom query =>
    match done.verdict with
    | .triggered b => return addTo query done.item b groups
    | .failed reason =>
      Act.warnLine s!"Warning: query failed: {reason}"
      return addTo query done.item false groups
  | _ => throw .wrongKind

/-- Whether a rate passes: it reaches the threshold when triggers are wanted, and stays below it
otherwise. -/
def passes (wanted : Bool) (threshold : Value) (rate : Float) : Except Fault Bool := do
  if wanted then
    return (← Value.before threshold (.float rate)) || threshold.same (.float rate)
  Value.before (.float rate) threshold

def judge (threshold : Value) (g : Group) : Except Fault Outcome := do
  let triggers := (g.triggers.filter id).length
  let runs := g.triggers.length
  let rate ← Number.divInt triggers runs
  let shouldTrigger ← g.item.entry "should_trigger"
  let pass ← passes shouldTrigger.truthy threshold rate
  return { query := g.query, shouldTrigger, rate, triggers, runs, pass }

/-! ## Running -/

def countOf : Value → Except Fault Nat
  | .int n => .ok n.toNat
  | .bool b => .ok (if b then 1 else 0)
  | _ => .error .wrongKind

def submitRun (s : Settings) (skillName description : String) (item : Value) : Act Done := do
  let query ← Act.ofExcept (item.entry "query")
  let arguments := [query, .text skillName, .text description, s.timeout, s.model]
  Act.record (.submitted arguments)
  return ⟨item, query, ← Act.nextVerdict arguments⟩

def submit (s : Settings) (skillName description : String) (item : Value) : Act (List Done) := do
  let runs ← Act.ofExcept (countOf s.runsPerQuery)
  (List.range runs).mapM fun _ => submitRun s skillName description item

def inOrder (order : Option (List Nat)) (calls : List α) : List α :=
  match order with
  | some places => places.filterMap (calls[·]?)
  | none => calls

def evaluate (s : Settings) (skillName description : String) (queries : Value) :
    Act Evaluation := do
  Act.record (.pool s.workers)
  let calls ← (← Act.ofExcept queries.parts).mapM (submit s skillName description)
  let groups ← (inOrder (← get).order calls.flatten).foldlM collect []
  let outcomes ← Act.ofExcept (groups.mapM (judge s.threshold))
  return ⟨skillName, description, outcomes⟩

end SkillKit.Trigger
