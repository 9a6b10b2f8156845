import SkillKit.Gauge.Fingerprint

/-!
# Benches and profiles

A bench is a piece of work that can be called without arguments and with each of its sets of
parameters.  A profile tells how long the functions of each file took during a call.
-/

namespace SkillKit.Gauge

inductive Outcome where
  | value (s : Sample)
  | failed (kind message : String)
  | timedOut

structure Bench where
  name : String
  params : List Fields := []
  call : (count : Nat) → (arguments : Fields) → Outcome

abbrev Suite := Except (String × String) (List Bench)

def isBenchName (name : String) : Bool :=
  Text.startsWith name "bench_"

def paramLabel (arguments : Fields) : String :=
  if arguments.isEmpty then "-"
  else ",".intercalate (arguments.map fun (k, v) => k.display ++ "=" ++ v.display)

/-- The bench that a document tells by how its calls end. -/
def Bench.ofDocument (name : String) (told : Value) : Bench where
  name
  params := (Sample.partsOf ((told.field? "params").getD .null)).map fun
    | .dict fields => fields
    | _ => []
  call := fun count arguments =>
    let flag := fun key => ((told.field? key).map Value.truthy).getD false
    match told.field? "raise" with
    | some (.text "exit") => .failed "SystemExit" "3"
    | some (.text reason) => .failed "ValueError" reason
    | _ =>
      if flag "timeout" then .timedOut
      else if flag "unstable" then .value (.int count)
      else
        let echoed := (told.field? "echo").bind fun name => Fields.get? arguments name.display
        let value := echoed.getD ((told.field? "returns").getD .null)
        .value (.ofMarked value)

def benchesOf (members : Fields) : List Bench :=
  let named := members.map fun (name, told) => (name.display, told)
  let marked := named.filter fun (name, _) => isBenchName name
  (marked.mergeSort fun a b => a.1 ≤ b.1).map fun (name, told) => Bench.ofDocument name told

/-! ## Profiles -/

structure Entry where
  file : String
  seconds : Float

structure Profile where
  total : Float := 0.0
  entries : List Entry := []

def Profile.ofDocument (told : Value) : Profile where
  total := Sample.doubleOf ((told.field? "total").getD .null)
  entries := (Sample.partsOf ((told.field? "stats").getD .null)).map fun row =>
    let cells := Sample.partsOf row
    ⟨(cells.getD 0 .null).display, Sample.doubleOf (cells.getD 3 .null)⟩

def foreignDirectories : List String :=
  ["site-packages", "dist-packages", "node_modules", "vendor", "third_party", ".venv", "venv"]

/-- Whether a file is one of the project at a root: not one of others that is kept below it, and
not one of those that measure it. -/
def isOwnFile (root : Path) (file : String) : Bool :=
  let path := root.resolve (Path.ofString file)
  match path.relativeTo? root with
  | none => false
  | some inner =>
    !Text.startsWith file "<" && file != "~"
      && !inner.parts.any foreignDirectories.contains
      && path.name != "microbench.py" && !Text.startsWith path.name "_pti_"

def isNativeFile (file : String) : Bool :=
  file == "~" || Text.endsWith file ".so" || Text.endsWith file ".pyd"

def sumSeconds (entries : List Entry) : Float :=
  entries.foldl (fun sum e => sum + e.seconds) 0.0

def Profile.own (root : Path) (p : Profile) : Float :=
  sumSeconds (p.entries.filter fun e => isOwnFile root e.file)

def Profile.native (p : Profile) : Float :=
  sumSeconds (p.entries.filter fun e => isNativeFile e.file)

def Profile.share (p : Profile) (seconds : Float) : Float :=
  if p.total == 0.0 then 0.0 else seconds / p.total

def nextProfile : List Profile → Profile × List Profile
  | [] => ({}, [])
  | p :: ps => (p, ps)

def importTrouble (failure : String × String) : Value :=
  .object [("_import_error", .text (failure.1 ++ ": " ++ failure.2))]

end SkillKit.Gauge
