import SkillKit.Data.Number

/-!
# Verdicts on benches

The facts that were gathered about a bench decide whether comparing its results is a check of the
project's code.
-/

namespace SkillKit.Gauge

inductive Verdict where
  | failing
  | returnsNothing
  | unstable
  | returnsInput
  | mostlyElsewhere
  | tooFast
  | sameForAll
  | repoModified
  | fineUnvaried
  | fine
deriving Repr, DecidableEq

namespace Verdict

def text : Verdict → String
  | .failing => "error"
  | .returnsNothing => "returns-none"
  | .unstable => "unstable"
  | .returnsInput => "returns-input"
  | .mostlyElsewhere => "low-repo-time"
  | .tooFast => "too-fast"
  | .sameForAll => "param-invariant"
  | .repoModified => "repo-modified"
  | .fineUnvaried => "ok-unparam"
  | .fine => "ok"

def isFine : Verdict → Bool
  | .fineUnvaried | .fine => true
  | _ => false

end Verdict

structure Judged where
  name : String
  verdict : Verdict
  returned : String
  share : Float
  millis : Float

def figures (facts : Value) (key : String) : Except Fault (List Float) := do
  let fields ← (← facts.lookupD key (.dict [])).fieldsFor "values"
  fields.mapM fun (_, v) => do (← Number.ofValue v).toFloat

def listed (facts : Value) (key : String) : Except Fault (List Value) := do
  (← facts.lookupD key (.list [])).parts

def least : List Float → Float
  | [] => 0.0
  | x :: xs => xs.foldl (fun a b => if b < a then b else a) x

def median (xs : List Float) : Float :=
  let sorted := xs.mergeSort (· ≤ ·)
  let half := sorted.length / 2
  if sorted.isEmpty then 0.0
  else if sorted.length % 2 == 1 then sorted.getD half 0.0
  else (sorted.getD (half - 1) 0.0 + sorted.getD half 0.0) / 2.0

def kinds (vs : List Value) : List Value :=
  vs.foldl (fun seen v => if seen.any (·.same v) then seen else seen ++ [v]) []

def judge (facts : Value) (returned : Value) (shares times : List Float) :
    Except Fault Verdict := do
  let stable ← listed facts "fp_stable"
  let inputs ← listed facts "param_fps"
  let byParam ← (← facts.lookupD "fp_by_param" (.dict [])).fieldsFor "values"
  if !returned.truthy || Text.startsWith returned.display "<" then return .failing
  if returned.isText "NoneType" then return .returnsNothing
  if (kinds stable).length != 1 then return .unstable
  if stable.any fun told => inputs.any (·.same told) then return .returnsInput
  if !shares.isEmpty && least shares < 0.5 then return .mostlyElsewhere
  if !times.isEmpty && median times < 1.0 then return .tooFast
  if byParam.length < 2 then return .fineUnvaried
  if (kinds (byParam.map (·.2))).length == 1 then return .sameForAll
  return .fine

def judged (edited : Bool) (name : String) (facts : Value) : Except Fault Judged := do
  let returned ← facts.lookupD "ret_type" .null
  let shares ← figures facts "repo_frac"
  let times ← figures facts "repo_tt_ms"
  let verdict ← judge facts returned shares times
  return {
    name
    verdict := if edited then .repoModified else verdict
    returned := if returned.truthy then returned.display else "?"
    share := least shares
    millis := Decimal.roundTo 2 (median times) }

end SkillKit.Gauge
