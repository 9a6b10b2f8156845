import SkillKit.Connector.Basic

/-!
# Checking connectors

A connector is usable when the fields that it needs are filled in and no placeholder is left in
them.
-/

namespace SkillKit.Connector

open Text

def isUnset (v : Value) : Except Fault Bool :=
  if !v.truthy then .ok true
  else match v with
    | .text s => .ok (startsWith s "$\x7b")
    | .atom (.bytes _) => .error .wrongKind
    | _ => .error (.noPart v.kind "startswith")

def fault (name problem : String) : Fault :=
  .refused (s!"warehouse '{name}': " ++ problem)

def need (name : String) (v : Value) (problem : String) : Except Fault Unit := do
  if ← isUnset v then throw (fault name problem)

def isLabelChar (c : Char) : Bool :=
  ('a' ≤ c && c ≤ 'z') || ('0' ≤ c && c ≤ '9') || c == '_' || c == '-'

def isLabelKey (s : String) : Bool :=
  match dropFinalBreak s.toList with
  | c :: cs => 'a' ≤ c && c ≤ 'z' && cs.all isLabelChar && cs.length ≤ 62
  | [] => false

def isLabelValue (s : String) : Bool :=
  let cs := dropFinalBreak s.toList
  cs.all isLabelChar && cs.length ≤ 63

def checkLabel (name : String) (label : Atom × Value) : Except Fault Unit := do
  let (key, value) := label
  let keyOk := match key with
    | .text k => isLabelKey k
    | _ => false
  if !keyOk then
    throw (fault name (s!"invalid BigQuery label key {key.literal} "
      ++ "(must match [a-z][a-z0-9_-]\x7b0,62\x7d)"))
  match value with
  | .text v =>
    if !isLabelValue v then
      throw (fault name (s!"invalid BigQuery label value {value.literal} for key {key.literal} "
        ++ "(must match [a-z0-9_-]\x7b0,63\x7d)"))
  | _ =>
    throw (fault name
      s!"label value for {key.literal} must be a string, got {value.kind}")

def checkSnowflake (name : String) (c : Snowflake) : Except Fault Unit := do
  need name c.account "account required"
  need name c.user "user required"
  if c.authType.isText "password" then
    need name c.password "password required"
  else if c.authType.isText "private_key" then
    if !c.privateKeyPath.truthy && !c.privateKey.truthy then
      throw (fault name "private_key required")
  if 2000 < (← c.queryTag.size) then
    throw (fault name "query_tag exceeds Snowflake's 2000 character limit")

def checkPostgres (name : String) (c : Postgres) : Except Fault Unit := do
  need name c.host "host required for postgres"
  need name c.user "user required for postgres"
  need name c.database "database required for postgres"

def checkBigQuery (name : String) (c : BigQuery) : Except Fault Unit := do
  need name c.project "project required for bigquery"
  let count ← c.labels.size
  if 64 < count then
    throw (fault name s!"BigQuery supports at most 64 labels, got {count}")
  let labels ← c.labels.fieldsFor "items"
  labels.forM (checkLabel name)

def checkByUrl (name : String) (c : UrlDatabase) : Except Fault Unit := do
  need name c.url "url required for sqlalchemy"
  if !c.databases.truthy then
    throw (fault name "databases list required for sqlalchemy")

def check (name : String) : Connector → Except Fault Unit
  | .snowflake c => checkSnowflake name c
  | .postgres c => checkPostgres name c
  | .bigquery c => checkBigQuery name c
  | .byUrl c => checkByUrl name c

end SkillKit.Connector
