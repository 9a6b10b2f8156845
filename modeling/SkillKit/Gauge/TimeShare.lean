import SkillKit.Gauge.Bench

/-!
# Where the time of a bench goes

For each bench, the percentage of its time that was spent in the files of the project, and the
foreign modules that took most of the rest.
-/

namespace SkillKit.Gauge

def moduleName (file : String) : String :=
  if file == "~" then "builtins" else (Path.ofString file).stem

def addTime (times : List (String × Float)) (e : Entry) : List (String × Float) :=
  let name := moduleName e.file
  if times.any (·.1 == name) then
    times.map fun t => if t.1 == name then (name, t.2 + e.seconds) else t
  else times ++ [(name, e.seconds)]

def Profile.percentage (p : Profile) (seconds : Float) : Float :=
  if p.total == 0.0 then 0.0 else Decimal.roundTo 1 (100.0 * seconds / p.total)

def isHotter (a b : Float × String) : Bool :=
  if a.1 == b.1 then b.2 ≤ a.2 else b.1 ≤ a.1

def namedModules : Nat := 3

def Profile.hot (root : Path) (p : Profile) : List (Float × String) :=
  let foreign := p.entries.filter fun e => !isOwnFile root e.file
  let shares := (foreign.foldl addTime []).map fun (name, t) => (p.percentage t, name)
  (shares.mergeSort isHotter).take namedModules

def measureShare (root : Path) (bench : Bench) (profiles : List Profile) :
    Float × Option (List (Float × String)) × List Profile :=
  match bench.call 1 [] with
  | .value _ =>
    let (p, profiles) := nextProfile profiles
    (p.percentage (p.own root), some (p.hot root), profiles)
  | _ => (-1.0, none, profiles)

def measureShares (root : Path) (profiles : List Profile) :
    List Bench → List (String × Value) × List (String × Value)
  | [] => ([], [])
  | bench :: rest =>
    let (percentage, hot, profiles) := measureShare root bench profiles
    let (percentages, hots) := measureShares root profiles rest
    let hotEntry := match hot with
      | some modules =>
        [(bench.name, Value.list (modules.map fun (t, name) => .list [.float t, .text name]))]
      | none => []
    ((bench.name, .float percentage) :: percentages, hotEntry ++ hots)

def timeShares (root : Path) (profiles : List Profile) : Suite → Value
  | .error failure => importTrouble failure
  | .ok benches =>
    let (percentages, hots) := measureShares root profiles benches
    .object [("repo_time_pct", .object percentages), ("hot_ext", .object hots)]

end SkillKit.Gauge
