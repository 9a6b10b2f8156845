import SkillKit.Knowledge.Import
import SkillKit.Workload.Basic

/-!
# Workload: what was learned

Concepts, patterns and tables are learned once.  Measured are questions that no pattern fits,
lookups that find something and that find nothing, and tests of age.
-/

namespace SkillKit.Workload

namespace Learning

def questionStarts : List String :=
  ["how many", "count of", "total of", "sum over", "list all", "average of"]

def questionTypes : Value :=
  .texts (questionStarts.zipIdx.map fun (start, i) => s!"{start} thing{i}")

def entries : Nat := 4

def rounds : Nat := 20

def questions : List Value :=
  (List.range rounds).map (fun i => .text s!"what about item {i}") ++ [.text "zzz nomatch"]

def table (i : Nat) : Value :=
  .text s!"DB.S.T{i}"

def page : String :=
  "| Concept | Table | Key | Date |\n|---|---|---|---|\n"
    ++ "| c0 | DB.SCH.TBL0 | id | created_at |\n| c1 | DB.SCH.TBL1 | - | - |\n"
    ++ "| c2 | DB.SCH.TBL2 |\n| bad | notable | - | - |\n"

def useStore (dir : Path) : Act Unit :=
  modify fun host => { host with store := some dir }

def learn (patterns : Nat) : Act Unit := do
  for i in List.range entries do
    discard (Knowledge.learnConcept (.text s!"cust{i}") (table i) (.text "id") (.text "dt"))
    discard (Knowledge.setTable (table i)
      (.list [.object [("name", .text "id"), ("type", .text "INT")]]) (.int 100) (.text "cmt"))
  for i in List.range patterns do
    discard (Knowledge.learnPattern (.text s!"pat{i}") questionTypes (.texts ["s"])
      (.texts ["T"]) (.texts ["g"]) (.text "Q"))
  discard (Knowledge.recordOutcome (.text "pat0") (.bool true))
  discard (Knowledge.recordOutcome (.text "pat0") (.bool false))
  discard (Knowledge.deletePattern (.text "pat1"))
  discard (Knowledge.deleteTable (table 1))

def fieldOf (found : Value) (key : String) : Value :=
  (found.field? key).getD .null

def times : List Value :=
  [.text "2020-01-01T00:00:00", .text "bad", .text "", .null]

def answerCounts : Act (List Value) :=
  questions.mapM fun question => do
    let found ← Knowledge.lookupPattern question
    return .nat (← Act.ofExcept found.size)

def count (shelf : Knowledge.Shelf) : Act Value := do
  return .nat (← Act.ofExcept (← Knowledge.load shelf).size)

def ages : Act (List Value) := do
  let now ← Act.now
  (List.replicate rounds times).flatten.mapM fun time => do
    return .bool (← Act.ofExcept (Knowledge.isStale now time (.int Knowledge.lifetimeDays)))

def work : Act Value := do
  let counts ← answerCounts
  let concept ← Knowledge.lookupConcept (.text "cust0")
  let noConcept ← Knowledge.lookupConcept (.text "missing")
  let known ← Knowledge.getTable (table 0)
  let noTable ← Knowledge.getTable (.text "missing")
  let sizes := [← count .concepts, ← count .patterns, ← count .tables]
  let (concepts, patterns) ← Knowledge.clear (.text "all") true
  return .list (counts
    ++ [fieldOf concept "table", noConcept, fieldOf known "row_count", noTable]
    ++ sizes ++ [.list [.nat concepts, .nat patterns]] ++ (← ages))

def prepare (base : Path) (patterns : Nat) : Act (Act Value) := do
  let file := base / "warehouse.md"
  place file page
  useStore (base / "mdcache")
  discard (Knowledge.importConcepts (some file))
  useStore (base / "cache")
  learn patterns
  return work

end Learning

def learning : Workload where
  name := "cache_roundtrip"
  parameter := "n_patterns"
  sizes := [100, 300, 700]
  prepare := Learning.prepare

end SkillKit.Workload
