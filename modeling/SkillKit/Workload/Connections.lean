import SkillKit.Connector.Prelude
import SkillKit.Connector.Check
import SkillKit.Workload.Basic

/-!
# Workload: connection code

Measured is the making of the code that connects to a warehouse, for settings that take their
secrets from the environment and for settings of all kinds in turn.
-/

namespace SkillKit.Workload

namespace Connections

def settings (type : String) (fields : List (String × Value)) : Value :=
  .object (("type", .text type) :: fields)

def textFields (fields : List (String × String)) : List (String × Value) :=
  fields.map fun (key, s) => (key, .text s)

def held (name : String) : String :=
  "$\x7b" ++ name ++ "\x7d"

def secrets : List (String × String) := [
  ("MB_PW", "secret"),
  ("MB_PK", "KEY"),
  ("MB_PP", "pp"),
  ("MB_URL", "postgresql://u:p@h/d")]

def secretSettings : List Value := [
  settings "snowflake" (textFields [("account", "a"), ("user", "u"),
    ("password", held "MB_PW")]),
  settings "snowflake" (textFields [("account", "a"), ("user", "u"),
    ("auth_type", "private_key"), ("private_key", held "MB_PK"),
    ("private_key_passphrase", held "MB_PP")]),
  settings "postgres" (textFields [("host", "h"), ("user", "u"),
    ("password", held "MB_PW"), ("database", "d")]),
  settings "sqlalchemy" [("url", .text (held "MB_URL")), ("databases", .texts ["d"])]]

def plainSettings (i : Nat) : Value :=
  match i % 9 with
  | 0 => settings "snowflake" (textFields [("account", s!"acct{i}"), ("user", "user"),
      ("password", "p"), ("warehouse", "WH"), ("role", "R"), ("query_tag", "qt")]
      ++ [("databases", .texts ["D"])])
  | 1 => settings "snowflake" (textFields [("account", "a"), ("user", "u"),
      ("auth_type", "private_key"), ("private_key_path", "/k"), ("private_key_passphrase", "p")]
      ++ [("databases", .texts ["D"])])
  | 2 => settings "snowflake" (textFields [("account", "a"), ("user", "u"),
      ("auth_type", "private_key"), ("private_key", "KEY"), ("private_key_passphrase", "pp"),
      ("role", "R"), ("query_tag", "t")])
  | 3 => settings "postgres" (textFields [("host", "h"), ("user", "u"), ("password", "p"),
      ("database", s!"db{i}"), ("sslmode", "prefer"), ("application_name", "mb")])
  | 4 => settings "postgres" (textFields [("host", "h"), ("user", "u"), ("password", "p"),
      ("database", s!"db{i}")])
  | 5 => settings "bigquery" (textFields [("project", "proj"),
      ("credentials_path", "/tmp/creds.json"), ("location", "US")]
      ++ [("labels", .object [("team", .text "data"), ("env", .text "prod")])])
  | 6 => settings "bigquery" (textFields [("project", "proj")])
  | 7 => settings "sqlalchemy" [("url", .text "duckdb:///:memory:"), ("databases", .texts ["d"]),
      ("connect_args", .object [("read_only", .bool true)])]
  | _ => settings "sqlalchemy" [("url", .text "sqlite:///tmp.db"), ("databases", .texts ["d"])]

def connector (env : Environment) (config : Value) : Except Fault Connector := do
  let c ← Connector.ofConfig env config
  Connector.check "wh" c
  return c

def variableNames (c : Connector) : Value :=
  .list (c.kernelVariables.map fun (name, _) => .atom name)

def described (c : Connector) : Except Fault (List Value) := do
  let code ← c.connectionCode
  return [.nat code.length, .texts (← c.packages), variableNames c]

def outlined (c : Connector) : Except Fault (List Value) := do
  let code ← c.connectionCode
  return [.nat code.length, variableNames c]

def work (env : Environment) (count : Nat) : Except Fault Value := do
  let secret ← secretSettings.mapM fun config => do outlined (← connector env config)
  let plain ← (List.range count).mapM fun i => do
    described (← connector env (plainSettings i))
  return .list (.texts ConnectorType.words :: secret.flatten ++ plain.flatten)

def prepare (_base : Path) (count : Nat) : Act (Act Value) := do
  for (name, value) in secrets do
    modify fun host => { host with environment := host.environment.set name value }
  return do Act.ofExcept (work (← get).environment count)

end Connections

def connections : Workload where
  name := "connectors_prelude"
  parameter := "n_configs"
  sizes := [100, 400, 1200]
  prepare := Connections.prepare

end SkillKit.Workload
