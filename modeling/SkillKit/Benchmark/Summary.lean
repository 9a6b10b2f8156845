import SkillKit.Benchmark.Runs
import SkillKit.Benchmark.Stats

/-!
# Summary of a benchmark

Every configuration gets the statistics of its pass rate, time and tokens.  The delta tells by
how much the means of the first configuration lie above those of the second one.
-/

namespace SkillKit.Benchmark

structure Columns where
  passRates : List Value
  times : List Value
  tokens : List Value

structure Summary where
  passRate : Stats
  timeSeconds : Stats
  tokens : Stats

structure Delta where
  passRate : String
  timeSeconds : String
  tokens : String

namespace Columns

def ofRuns (runs : List Run) : Columns where
  passRates := runs.map (·.measures.passRate)
  times := runs.map (·.measures.timeSeconds)
  tokens := runs.map (·.measures.tokens)

def ofValue (runs : Value) : Except Fault Columns := do
  if !runs.truthy then return ⟨[], [], []⟩
  let runs ← runs.parts
  return {
    passRates := ← runs.mapM (·.entry "pass_rate")
    times := ← runs.mapM (·.entry "time_seconds")
    tokens := ← runs.mapM (·.lookupD "tokens" (.int 0)) }

end Columns

namespace Summary

def toValue (s : Summary) : Value :=
  .object [("pass_rate", s.passRate.toValue), ("time_seconds", s.timeSeconds.toValue),
    ("tokens", s.tokens.toValue)]

def empty : Summary :=
  ⟨.constant (.float 0.0), .constant (.float 0.0), .constant (.int 0)⟩

def ofColumns (c : Columns) : Except Fault Summary := do
  if c.passRates.isEmpty then return empty
  return {
    passRate := ← statsOf c.passRates
    timeSeconds := ← statsOf c.times
    tokens := ← statsOf c.tokens }

end Summary

namespace Delta

def shown (places : Nat) (mean : Summary → Number) (primary baseline : Option Summary) :
    Except Fault String := do
  let of (s : Option Summary) : Number := (s.map mean).getD (.int 0)
  let difference ← (of primary).sub (of baseline)
  return Decimal.fixedSigned places (← difference.toFloat)

def between (primary baseline : Option Summary) : Except Fault Delta := do
  let passRate ← shown 2 (·.passRate.mean) primary baseline
  let timeSeconds ← shown 1 (·.timeSeconds.mean) primary baseline
  let tokens ← shown 0 (·.tokens.mean) primary baseline
  return { passRate, timeSeconds, tokens }

def toValue (d : Delta) : Value :=
  .object [("pass_rate", .text d.passRate), ("time_seconds", .text d.timeSeconds),
    ("tokens", .text d.tokens)]

end Delta

structure Overview where
  configs : List (String × Summary)
  delta : Delta

namespace Overview

def deltaName : String := "delta"

/-- The overview as a document; the delta takes the place of a configuration of its name. -/
def toValue (o : Overview) : Value :=
  .dict (Fields.put (o.configs.map fun (name, s) => (.text name, s.toValue))
    (.text deltaName) o.delta.toValue)

end Overview

def overviewWith (configs : List (String × Except Fault Columns)) : Except Fault Overview := do
  let summaries ← configs.mapM fun (name, columns) => do
    return (name, ← Summary.ofColumns (← columns))
  let delta ← Delta.between (summaries[0]?.map (·.2)) (summaries[1]?.map (·.2))
  return ⟨summaries, delta⟩

def overview (results : Results) : Except Fault Overview :=
  overviewWith (results.map fun (name, runs) => (name, .ok (.ofRuns runs)))

def overviewOfValue (results : Value) : Except Fault Overview := do
  let fields ← results.fieldsFor "keys"
  overviewWith (fields.map fun (name, runs) => (name.display, Columns.ofValue runs))

end SkillKit.Benchmark
