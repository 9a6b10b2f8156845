import SkillKit.Analysis.Commands
import SkillKit.Workload.Connections

/-!
# Workload: sessions at the console

A long session at the console is held once, with something in place of the kernel that is well
at first, then fails, and with settings that are missing, refused and empty in the end.
Measured are the places of settings, connection code in turn, and the choice of a warehouse.
-/

namespace SkillKit.Workload

namespace Sessions

open Analysis

/-! ## What serves the sessions -/

def runner (outcome : Execution) (installs : Bool) : Runner where
  isRunning := return false
  start := fun _ _ => return
  stop := return
  execute := fun _ _ => return outcome
  install := fun packages =>
    let names := ",".intercalate packages
    return if installs then (true, s!"Installed: {names}") else (false, "bad")
  status := return .object [
    ("running", .bool false), ("responsive", .bool false), ("connection_file", .text "cf")]

def well : Runner :=
  runner { success := true, output := "output line" } true

def ill : Runner :=
  runner { success := false, output := "", error := some "err" } false

def service (r : Runner) (warehouses : Act Warehouse.Config) : Service where
  runner := return r
  warehouses := warehouses

/-! ## A session -/

def command (service : Service) (words : List String) : Act Unit := do
  let before := (← get).printed
  modify fun host => { host with printed := [] }
  let code ← orElse (runWith service words) fun _ => 1
  let output := String.join ((← get).printed.map (·.2))
  modify fun host => { host with printed := before }
  Act.record (.consoled words code output)

def calmLines (page : Path) : List (List String) := [
  ["--help"],
  ["warehouse", "list"],
  ["status"],
  ["status", "--json"],
  ["stop"],
  ["install", "pkg1", "pkg2"],
  ["concept", "learn", "cust", "DB.S.T", "-k", "id", "-d", "dt"],
  ["concept", "lookup", "cust"],
  ["concept", "lookup", "missing"],
  ["concept", "list"],
  ["concept", "import", "-p", page.toString],
  ["pattern", "learn", "p1", "-q", "how many x", "-s", "s1", "-t", "T", "-g", "g",
    "-e", "SELECT 1"],
  ["pattern", "lookup", "how many customers"],
  ["pattern", "lookup", "zzz nomatch"],
  ["pattern", "record", "p1", "--success"],
  ["pattern", "record", "missing", "--failure"],
  ["pattern", "list"],
  ["pattern", "delete", "p1"],
  ["pattern", "delete", "missing"],
  ["cache", "status"],
  ["cache", "clear", "--yes", "--type", "all"],
  ["cache", "clear", "--yes", "--stale-only"],
  ["table", "cache", "DB.S.T", "-c", "[\x7b\"name\":\"id\",\"type\":\"INT\"\x7d]", "-r", "10",
    "--comment", "c"],
  ["table", "cache", "DB.S.T2"],
  ["table", "lookup", "DB.S.T"],
  ["table", "lookup", "missing"],
  ["table", "list"],
  ["table", "delete", "DB.S.T"],
  ["table", "delete", "missing"],
  ["start"],
  ["restart"],
  ["ensure"],
  ["exec", "print(1)"]]

def illLines : List (List String) :=
  [["start"], ["restart"], ["exec", "x"], ["install", "x"]]

def unsetLines : List (List String) :=
  [["warehouse", "list"], ["start"], ["exec", "x"], ["restart"], ["ensure"]]

def refusedLines : List (List String) :=
  [["warehouse", "list"], ["start"]]

def session (page : Path) : Act Unit := do
  let phases : List (Service × List (List String)) := [
    (service well (Warehouse.load none), calmLines page),
    (service ill (Warehouse.load none), illLines),
    (service well (throw (.missingFile "no cfg")), unsetLines),
    (service well (throw (.refused "boom")), refusedLines),
    (service well (return {}), [["warehouse", "list"]])]
  for (s, lines) in phases do
    for words in lines do
      command s words

/-! ## The workload -/

def settingsOf (i : Nat) : Value :=
  match i % 4 with
  | 0 => Connections.settings "snowflake" (Connections.textFields [("account", s!"acct{i}"),
      ("user", "u"), ("password", "p"), ("warehouse", "w"), ("role", "r"), ("query_tag", "t")]
      ++ [("databases", .texts ["D"])])
  | 1 => Connections.settings "postgres" (Connections.textFields [("host", "h"), ("user", "u"),
      ("password", "p"), ("database", "d"), ("sslmode", "require"), ("application_name", "a")])
  | 2 => Connections.settings "bigquery" (Connections.textFields [("project", "p"),
      ("location", "US")] ++ [("labels", .object [("team", .text "data")])])
  | _ => Connections.settings "sqlalchemy" [("url", .text "duckdb:///x"),
      ("databases", .texts ["d"]), ("connect_args", .object [("a", .int 1)])]

def warehouses (count : Nat) : Except Fault Warehouse.Config :=
  Warehouse.ofFields {} ((List.range count).map fun i => (.text s!"wh{i}", settingsOf i))

def settingsFile : String :=
  "sf:\n  account: a\n  password: p\n  type: snowflake\n  user: u\n"
    ++ "wh0:\n  database: db0\n  host: h\n  password: p\n  type: postgres\n  user: u\n"

def page : String :=
  "| Concept | Table | K | D |\n|---|---|---|---|\n| c | DB.S.T | id | dt |\n"

def work (count : Nat) : Act Value := do
  let places := [← Warehouse.settingsDir, ← Warehouse.kernelEnvironmentDir,
    ← Warehouse.kernelConnectionFile]
  let config ← Act.ofExcept (warehouses count)
  let described ← config.connectors.mapM fun (_, c) => Act.ofExcept (Connections.described c)
  let (first, _) ← Act.ofExcept config.default
  let (chosen, _) ← Act.ofExcept (← Warehouse.load none).default
  let kernel ← Kernel.usual
  let outcome : Execution := { success := true, output := "o" }
  return .list (places.map (.text ·.name) ++ described.flatten ++ [
    .atom first, .atom chosen, .text kernel.interpreter.name,
    .list [.bool outcome.success, .text outcome.output, .ofText? outcome.error]])

def prepare (base : Path) (count : Nat) : Act (Act Value) := do
  modify fun host => { host with home := base, store := some (base / "cache") }
  Act.makeDirs (Warehouse.oldDir base)
  discard Warehouse.settingsDir
  let dir := Warehouse.newDir base
  place (dir / ".env") "MB_PW=s3cret\n"
  place (dir / "warehouse.yml") settingsFile
  place (base / "wh.md") page
  place (base / "empty.yml") ""
  orElse (discard (Warehouse.load (some (base / "empty.yml")))) fun _ => ()
  session (base / "wh.md")
  return work count

end Sessions

def sessions : Workload where
  name := "warehouse_and_cli"
  parameter := "n_entries"
  sizes := [60, 200, 500]
  prepare := Sessions.prepare

end SkillKit.Workload
