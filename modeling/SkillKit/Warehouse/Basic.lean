import SkillKit.Warehouse.Settings
import SkillKit.Environment.File
import SkillKit.Connector.Check
import SkillKit.Yaml.Reader

/-!
# Warehouses

A file of settings names warehouses and gives each a connector.  All of them are checked when
the file is read; the first one is the default.
-/

namespace SkillKit.Warehouse

structure Config where
  connectors : List (Atom × Connector) := []

def Config.default (config : Config) : Except Fault (Atom × Connector) :=
  match config.connectors with
  | first :: _ => .ok first
  | [] => .error (.refused "No warehouse configs")

/-- The warehouses, unless a field of one holds itself: such a field cannot be told whole. -/
def Config.told (config : Config) : Except Fault Config :=
  if config.connectors.any fun c => c.2.fields.any fun f => f.2.holdsItself then .error .tooDeep
  else .ok config

def ofFields (env : Environment) (fields : Fields) : Except Fault Config := do
  let connectors ← fields.mapM fun (name, config) => do
    let connector ← Connector.ofConfig env config
    Connector.check name.display connector
    return (name, connector)
  return ⟨connectors⟩

/-- Sets the variables of the environment files, those of the working directory in any case. -/
def loadVariables : Act Unit := do
  let shared := (← settingsDir).child ".env"
  if ← Act.pathExists shared then
    Act.loadEnvironmentFile shared false
  let own := Path.ofString ".env"
  if ← Act.pathExists own then
    Act.loadEnvironmentFile own true

def load (path : Option Path) : Act Config := do
  loadVariables
  let path ← match path with
    | some p => pure p
    | none => do pure ((← settingsDir).child "warehouse.yml")
  if !(← Act.pathExists path) then
    throw (.missingFile s!"Config not found: {path}")
  let data ← Act.ofExcept (Yaml.read (← Act.readText path))
  if !data.truthy then
    throw (.refused s!"No configs in {path}")
  let fields ← Act.ofExcept (data.fieldsFor "items")
  Act.ofExcept (ofFields (← get).environment fields)

end SkillKit.Warehouse
