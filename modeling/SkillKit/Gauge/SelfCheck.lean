import SkillKit.Gauge.Bench
import SkillKit.Json.Writer

/-!
# Do benches check themselves?

A bench that hands back what it computed can be checked by comparing fingerprints: two calls have
to agree, and other parameters should give another result.  The facts about each bench are
gathered here; `Gauge.Round` judges them.
-/

namespace SkillKit.Gauge

structure Facts where
  returned : String := ""
  stable : List String := []
  byParam : List (String × String) := []
  times : List (String × Profile) := []
  paramPrints : List String := []

def distinct (xs : List String) : List String :=
  (xs.foldl (fun seen x => if seen.contains x then seen else seen ++ [x]) []).mergeSort (· ≤ ·)

def enter (name : String) (x : α) (pairs : List (String × α)) : List (String × α) :=
  if pairs.any (·.1 == name) then pairs.map fun p => if p.1 == name then (name, x) else p
  else pairs ++ [(name, x)]

def addParam (bench : Bench) (facts : Facts) (profiles : List Profile) (count : Nat)
    (arguments : Fields) : Facts × List Profile :=
  let label := paramLabel arguments
  let (told, profiles, times) := match bench.call count arguments with
    | .value s =>
      let (p, ps) := nextProfile profiles
      (fingerprint s, ps, enter label p facts.times)
    | .failed kind _ => ("<" ++ kind ++ ">", profiles, facts.times)
    | .timedOut => ("<timeout>", profiles, facts.times)
  ({ facts with byParam := enter label told facts.byParam, times }, profiles)

def addParams (bench : Bench) (facts : Facts) (profiles : List Profile) (count : Nat) :
    List Fields → Facts × List Profile
  | [] => (facts, profiles)
  | arguments :: rest =>
    let (facts, profiles) := addParam bench facts profiles count arguments
    addParams bench facts profiles (count + 1) rest

def examine (bench : Bench) (profiles : List Profile) : Facts × List Profile :=
  match bench.call 1 [] with
  | .failed kind _ => ({ returned := "<" ++ kind ++ ">" }, profiles)
  | .timedOut => ({ returned := "<timeout>" }, profiles)
  | .value first =>
    let (p, profiles) := nextProfile profiles
    let again := match bench.call 2 [] with
      | .value s => [fingerprint s]
      | _ => []
    let prints := bench.params.flatMap fun arguments =>
      arguments.map fun (_, v) => fingerprint (.ofMarked v)
    let facts : Facts :=
      { returned := first.kind, stable := fingerprint first :: again
        times := [("<default>", p)], paramPrints := distinct prints }
    addParams bench facts profiles 3 bench.params

def examineAll (profiles : List Profile) : List Bench → List (String × Facts)
  | [] => []
  | bench :: rest =>
    let (facts, profiles) := examine bench profiles
    (bench.name, facts) :: examineAll profiles rest

def Facts.toValue (root : Path) (f : Facts) : Value :=
  let figures (figure : Profile → Float) : Value :=
    .object (f.times.map fun (label, p) => (label, .float (Decimal.roundTo 3 (figure p))))
  .object [
    ("ret_type", .text f.returned),
    ("fp_stable", .texts f.stable),
    ("fp_by_param", .object (f.byParam.map fun (label, told) => (label, .text told))),
    ("repo_tt_ms", figures fun p => p.own root * 1000.0),
    ("repo_frac", figures fun p => p.share (p.own root)),
    ("ext_frac", figures fun p => p.share p.native),
    ("param_fps", .texts f.paramPrints)]

def selfCheck (root : Path) (profiles : List Profile) : Suite → Value
  | .error failure => importTrouble failure
  | .ok benches =>
    .object [("semcheck", .object ((examineAll profiles benches).map fun (name, facts) =>
      (name, facts.toValue root)))]

end SkillKit.Gauge
