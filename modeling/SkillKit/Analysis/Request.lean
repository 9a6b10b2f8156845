import SkillKit.Analysis.Service
import SkillKit.Connector.Prelude
import SkillKit.Console.Dialog
import SkillKit.Knowledge.Import

/-!
# Requests of an analyst

What can be asked for: to run code in a kernel that is connected to a warehouse, and to keep
what was learned about concepts, patterns and tables.  Every request ends with an exit code.
-/

namespace SkillKit.Analysis

open Console (echo echoOpen complain)

inductive Request where
  | warehouses
  | start (warehouse : Option String)
  | execute (code : String) (timeout : Value)
  | stop
  | restart
  | status (json : Bool)
  | install (packages : List String)
  | ensure
  | lookupConcept (name : String)
  | learnConcept (name table : String) (keyColumn dateColumn : Value)
  | concepts
  | importConcepts (path : Option String)
  | lookupPattern (question : String)
  | learnPattern (name : String) (questionTypes strategy tables gotchas query : Value)
  | recordPattern (name : String) (success : Bool)
  | patterns
  | deletePattern (name : String)
  | storeStatus
  | clearStore (type : Value) (staleOnly : Bool)
  | lookupTable (name : String)
  | storeTable (name : String) (columns : Option String) (rowCount comment : Value)
  | tables
  | deleteTable (name : String)

def echoJson (v : Value) : Act Unit := do
  echo (← Act.ofExcept (Json.writeIndented v))

def echoJsonOr (v : Value) (other : String) : Act Nat := do
  if v.truthy then echoJson v else echo other
  return 0

/-! ## Warehouses and the kernel -/

def connectTimeout : Value := .float 60.0

def chooseWarehouse (service : Service) (name : Option String) : Act (Atom × Connector) := do
  let config ← service.warehouses
  match name.filter (!·.isEmpty) with
  | none => Act.ofExcept config.default
  | some name =>
    match config.connectors.find? fun c => c.1.same (.text name) with
    | some (_, connector) => return (.text name, connector)
    | none => throw (.missingKey (.text name))

def startConnected (k : Runner) (c : Connector) : Act Execution := do
  let packages ← Act.ofExcept c.packages
  k.start c.kernelVariables packages
  k.execute (← Act.ofExcept c.connectionCode) connectTimeout

def complainConnection (r : Execution) : Act Unit :=
  complain ("Connection error:\n" ++ r.error.getD "None")

def complainOutput (r : Execution) : Act Unit :=
  if r.output.isEmpty then return else complain r.output

def hasInstaller : Act Bool := do
  if (← get).hasUv then return true
  complain "Error: uv is not installed."
  complain "Install with: curl -LsSf https://astral.sh/uv/install.sh | sh"
  return false

def warehouses (service : Service) : Act Nat := do
  let listing : Act Unit := do
    let config ← service.warehouses
    if config.connectors.isEmpty then
      echo "No warehouses configured"
      return
    let (first, _) ← Act.ofExcept config.default
    for (name, c) in config.connectors do
      let marker := if name.same first then " (default)" else ""
      echo s!"{name.display}: {c.type.word}{marker}"
  match ← Act.result listing with
  | .ok _ => return 0
  | .error f =>
    if f.isMissing then echo "No warehouse config found at ~/.astro/agents/warehouse.yml"
    else complain s!"Error: {f.message}"
    return 0

def start (service : Service) (warehouse : Option String) : Act Nat := do
  if !(← hasInstaller) then return 1
  let k ← service.runner
  if ← k.isRunning then
    echo "Kernel already running"
    return 0
  let choice : Act Connector := do
    let (name, c) ← chooseWarehouse service warehouse
    echo s!"Using warehouse: {name.display}"
    return c
  match ← Act.result choice with
  | .error f =>
    complain s!"Error: {f.message}"
    if f.isMissing then
      complain "Create ~/.astro/agents/warehouse.yml with your Snowflake credentials"
    return 1
  | .ok c =>
    let r ← startConnected k c
    if !r.success then
      complainConnection r
      k.stop
      return 1
    echo r.output
    return 0

def autoStart (service : Service) (k : Runner) : Act Bool := do
  let (name, c) ← chooseWarehouse service none
  complain s!"Starting kernel with: {name.display}"
  let r ← startConnected k c
  complainOutput r
  if !r.success then
    complainConnection r
    k.stop
  return r.success

def runCode (k : Runner) (code : String) (timeout : Value) : Act Nat := do
  let r ← k.execute code timeout
  echoOpen r.output
  match r.error.filter (!·.isEmpty) with
  | some error =>
    complain error
    return 1
  | none => return 0

def execute (service : Service) (code : String) (timeout : Value) : Act Nat := do
  let k ← service.runner
  if ← k.isRunning then runCode k code timeout
  else if !(← hasInstaller) then return 1
  else
    match ← Act.result (autoStart service k) with
    | .ok true => runCode k code timeout
    | .ok false => return 1
    | .error f =>
      complain s!"Error starting kernel: {f.message}"
      return 1

def restart (service : Service) : Act Nat := do
  let k ← service.runner
  k.stop
  let again : Act Bool := do
    let (name, c) ← chooseWarehouse service none
    echo s!"Restarting kernel with: {name.display}"
    let r ← startConnected k c
    if !r.output.isEmpty then echo r.output
    if !r.success then complainConnection r
    return r.success
  match ← Act.result again with
  | .ok done => return if done then 0 else 1
  | .error f =>
    complain s!"Error: {f.message}"
    return 1

def status (service : Service) (json : Bool) : Act Nat := do
  let k ← service.runner
  let s ← k.status
  let flag := fun key => ((s.field? key).map Value.truthy).getD false
  if json then echoJson s
  else if !flag "running" then echo "Kernel: not running"
  else echo ("Kernel: " ++ if flag "responsive" then "running" else "running (unresponsive)")
  return 0

def install (service : Service) (packages : List String) : Act Nat := do
  let k ← service.runner
  let (done, text) ← k.install packages
  if done then
    echo text
    return 0
  complain s!"Error: {text}"
  return 1

/-- Starts the kernel if it does not run: with the default warehouse, or else without one. -/
def ensure (service : Service) : Act Nat := do
  if !(← hasInstaller) then return 1
  let k ← service.runner
  if ← k.isRunning then return 0
  let connected : Act Unit := do
    let (name, c) ← chooseWarehouse service none
    complain s!"Starting kernel with: {name.display}"
    complainOutput (← startConnected k c)
  match ← Act.result connected with
  | .ok _ => return 0
  | .error f =>
    complain s!"Warning: {f.message}"
    k.start [] []
    return 0

/-! ## What was learned -/

def leading (n : Nat) : Value → Except Fault Value
  | .text s => .ok (.text (Text.takeChars n s))
  | .list vs => .ok (.list (vs.take n))
  | _ => .error .wrongKind

def tableLine (name : Atom) (info : Value) : Except Fault String := do
  let columns ← (← info.lookupD "columns" (.list [])).size
  let cached ← leading 10 (← info.lookupD "cached_at" (.text "unknown"))
  return s!"{name.display}: {columns} columns (cached {cached.display})"

def tables : Act Nat := do
  let all ← Knowledge.load .tables
  if !all.truthy then
    echo "No tables cached yet"
    return 0
  for (name, info) in ← Act.ofExcept (all.fieldsFor "items") do
    echo (← Act.ofExcept (tableLine name info))
  return 0

def storeTable (name : String) (columns : Option String) (rowCount comment : Value) : Act Nat := do
  let columns ← match columns.filter (!·.isEmpty) with
    | some text => Act.ofExcept (Json.read text)
    | none => pure (.list [])
  let _ ← Knowledge.setTable (.text name) columns rowCount comment
  echo s!"Cached table: '{name}'"
  return 0

def importConcepts (path : Option String) : Act Nat := do
  let count ← Knowledge.importConcepts ((path.filter (!·.isEmpty)).map Path.ofString)
  if 0 < count then echo s!"Imported {count} concepts from warehouse.md"
  else echo "No concepts found in warehouse.md"
  return 0

def Request.perform (service : Service) : Request → Act Nat
  | .warehouses => Analysis.warehouses service
  | .start warehouse => Analysis.start service warehouse
  | .execute code timeout => Analysis.execute service code timeout
  | .stop => do
    let k ← service.runner
    k.stop
    return 0
  | .restart => Analysis.restart service
  | .status json => Analysis.status service json
  | .install packages => Analysis.install service packages
  | .ensure => Analysis.ensure service
  | .lookupConcept name => do
    echoJsonOr (← Knowledge.lookupConcept (.text name)) s!"Concept '{name}' not found"
  | .learnConcept name table key date => do
    let _ ← Knowledge.learnConcept (.text name) (.text table) key date
    echo s!"Learned: '{name}' -> {table}"
    return 0
  | .concepts => do echoJsonOr (← Knowledge.load .concepts) "No concepts cached yet"
  | .importConcepts path => Analysis.importConcepts path
  | .lookupPattern question => do
    echoJsonOr (← Knowledge.lookupPattern (.text question)) "No matching patterns found"
  | .learnPattern name types strategy used gotchas query => do
    let _ ← Knowledge.learnPattern (.text name) types strategy used gotchas query
    echo s!"Learned pattern: '{name}'"
    return 0
  | .recordPattern name success => do
    let found ← Knowledge.recordOutcome (.text name) (.bool success)
    let word := if success then "success" else "failure"
    echo (if found.truthy then s!"Recorded {word} for '{name}'" else s!"Pattern '{name}' not found")
    return 0
  | .patterns => do echoJsonOr (← Knowledge.load .patterns) "No patterns cached yet"
  | .deletePattern name => do
    let found ← Knowledge.deletePattern (.text name)
    echo (if found then s!"Deleted pattern: '{name}'" else s!"Pattern '{name}' not found")
    return 0
  | .storeStatus => do
    echoJson (← Knowledge.stats).toValue
    return 0
  | .clearStore type staleOnly => do
    let (nConcepts, nPatterns) ← Knowledge.clear type staleOnly
    echo s!"Cleared {nConcepts} concepts, {nPatterns} patterns"
    return 0
  | .lookupTable name => do
    echoJsonOr (← Knowledge.getTable (.text name)) s!"Table '{name}' not in cache"
  | .storeTable name columns rowCount comment => Analysis.storeTable name columns rowCount comment
  | .tables => Analysis.tables
  | .deleteTable name => do
    let found ← Knowledge.deleteTable (.text name)
    echo (if found then s!"Deleted table: '{name}'" else s!"Table '{name}' not found")
    return 0

end SkillKit.Analysis
