import SkillKit.Connector.Placeholder
import SkillKit.Connector.Dialect

/-!
# Connectors

A connector describes how to reach one warehouse.  Its fields hold what the config gave, with
the placeholders of some of them replaced, so they may be documents of any kind until
`Connector.check` has looked at them.
-/

namespace SkillKit

open Connector

structure Snowflake where
  account : Value
  user : Value
  authType : Value
  password : Value
  privateKeyPath : Value
  passphrase : Value
  privateKey : Value
  warehouse : Value
  role : Value
  schema : Value
  databases : Value
  keepAlive : Value
  passwordVar : Option String
  privateKeyVar : Option String
  passphraseVar : Option String
  queryTag : Value

structure Postgres where
  host : Value
  port : Value
  user : Value
  password : Value
  database : Value
  sslmode : Value
  databases : Value
  passwordVar : Option String
  applicationName : Value

structure BigQuery where
  project : Value
  credentialsPath : Value
  location : Value
  databases : Value
  labels : Value

structure UrlDatabase where
  url : Value
  databases : Value
  poolSize : Value
  echo : Value
  urlVar : Option String
  connectArgs : Value

inductive Connector where
  | snowflake (c : Snowflake)
  | postgres (c : Postgres)
  | bigquery (c : BigQuery)
  | byUrl (c : UrlDatabase)

inductive ConnectorType where
  | snowflake
  | postgres
  | bigquery
  | byUrl
deriving Repr, DecidableEq

namespace ConnectorType

def word : ConnectorType → String
  | .snowflake => "snowflake"
  | .postgres => "postgres"
  | .bigquery => "bigquery"
  | .byUrl => "sqlalchemy"

def all : List ConnectorType := [.bigquery, .postgres, .snowflake, .byUrl]

def words : List String := all.map word

def ofValue (v : Value) : Except Fault ConnectorType :=
  match v with
  | .atom a =>
    match all.find? fun t => a.same (.text t.word) with
    | some t => .ok t
    | none => .error (.refused
        (s!"Unknown connector type: {a.literal}. Available: " ++ ", ".intercalate words))
  | _ => .error .wrongKind

end ConnectorType

namespace Snowflake

def ofFields (env : Environment) (data : Fields) : Snowflake :=
  let get (key : String) (other : Value) : Value := (Fields.get? data key).getD other
  let password := resolve env (get "password" (.text ""))
  let privateKey := resolve env (get "private_key" (.text ""))
  let passphrase := resolve env (get "private_key_passphrase" (.text ""))
  { account := (resolve env (get "account" (.text ""))).1
    user := (resolve env (get "user" (.text ""))).1
    authType := get "auth_type" (.text "password")
    password := password.1
    privateKeyPath := get "private_key_path" (.text "")
    passphrase := passphrase.1
    privateKey := privateKey.1
    warehouse := get "warehouse" (.text "")
    role := get "role" (.text "")
    schema := get "schema" (.text "")
    databases := get "databases" (.list [])
    keepAlive := get "client_session_keep_alive" (.bool false)
    passwordVar := password.2
    privateKeyVar := privateKey.2
    passphraseVar := passphrase.2
    queryTag := get "query_tag" (.text "") }

end Snowflake

namespace Postgres

def ofFields (env : Environment) (data : Fields) : Postgres :=
  let get (key : String) (other : Value) : Value := (Fields.get? data key).getD other
  let password := resolve env (get "password" (.text ""))
  let database := (resolve env (get "database" (.text ""))).1
  { host := (resolve env (get "host" (.text ""))).1
    port := get "port" (.int 5432)
    user := (resolve env (get "user" (.text ""))).1
    password := password.1
    database
    sslmode := get "sslmode" (.text "")
    databases := get "databases" (.list (if database.truthy then [database] else []))
    passwordVar := password.2
    applicationName := get "application_name" (.text "") }

end Postgres

namespace BigQuery

def ofFields (env : Environment) (data : Fields) : BigQuery :=
  let get (key : String) (other : Value) : Value := (Fields.get? data key).getD other
  let project := (resolve env (get "project" (.text ""))).1
  { project
    credentialsPath := (resolve env (get "credentials_path" (.text ""))).1
    location := get "location" (.text "")
    databases := get "databases" (.list (if project.truthy then [project] else []))
    labels := get "labels" (.dict []) }

end BigQuery

namespace UrlDatabase

def ofFields (env : Environment) (data : Fields) : UrlDatabase :=
  let get (key : String) (other : Value) : Value := (Fields.get? data key).getD other
  let url := resolve env (get "url" (.text ""))
  { url := url.1
    databases := get "databases" (.list [])
    poolSize := get "pool_size" (.int 5)
    echo := get "echo" (.bool false)
    urlVar := url.2
    connectArgs := get "connect_args" (.dict []) }

end UrlDatabase

namespace Connector

/-- The connector that a config describes; without a type it is a Snowflake account. -/
def ofConfig (env : Environment) (config : Value) : Except Fault Connector := do
  let type ← ConnectorType.ofValue (← config.lookupD "type" (.text "snowflake"))
  let data ← config.fieldsFor "get"
  return match type with
    | .snowflake => .snowflake (.ofFields env data)
    | .postgres => .postgres (.ofFields env data)
    | .bigquery => .bigquery (.ofFields env data)
    | .byUrl => .byUrl (.ofFields env data)

def type : Connector → ConnectorType
  | .snowflake _ => .snowflake
  | .postgres _ => .postgres
  | .bigquery _ => .bigquery
  | .byUrl _ => .byUrl

def fields : Connector → List (String × Value)
  | .snowflake c => [
    ("account", c.account), ("user", c.user), ("auth_type", c.authType),
    ("password", c.password), ("private_key_path", c.privateKeyPath),
    ("private_key_passphrase", c.passphrase), ("private_key", c.privateKey),
    ("warehouse", c.warehouse), ("role", c.role), ("schema", c.schema),
    ("databases", c.databases), ("client_session_keep_alive", c.keepAlive),
    ("password_env_var", .ofText? c.passwordVar),
    ("private_key_env_var", .ofText? c.privateKeyVar),
    ("private_key_passphrase_env_var", .ofText? c.passphraseVar), ("query_tag", c.queryTag)]
  | .postgres c => [
    ("host", c.host), ("port", c.port), ("user", c.user), ("password", c.password),
    ("database", c.database), ("sslmode", c.sslmode), ("databases", c.databases),
    ("password_env_var", .ofText? c.passwordVar), ("application_name", c.applicationName)]
  | .bigquery c => [
    ("project", c.project), ("credentials_path", c.credentialsPath), ("location", c.location),
    ("databases", c.databases), ("labels", c.labels)]
  | .byUrl c => [
    ("url", c.url), ("databases", c.databases), ("pool_size", c.poolSize), ("echo", c.echo),
    ("url_env_var", .ofText? c.urlVar), ("connect_args", c.connectArgs)]

def packages : Connector → Except Fault (List String)
  | .snowflake c =>
    .ok ("snowflake-connector-python[pandas]"
      :: (if c.authType.isText "private_key" then ["cryptography"] else []))
  | .postgres _ => .ok ["psycopg[binary,pool]"]
  | .bigquery _ => .ok ["google-cloud-bigquery[pandas,pyarrow]", "db-dtypes"]
  | .byUrl c =>
    match c.url with
    | .text url =>
      .ok ("sqlalchemy" :: (((dialectOf? url).bind dialectNamed?).map (·.packages)).getD [])
    | _ => .error .wrongKind

def binding (name : Option String) (value : Value) : Fields :=
  match name with
  | some name => if !name.isEmpty && value.truthy then [(.text name, value)] else []
  | none => []

def kernelVariables : Connector → Fields
  | .snowflake c =>
    Fields.merge [] (binding c.passwordVar c.password ++ binding c.privateKeyVar c.privateKey
      ++ binding c.passphraseVar c.passphrase)
  | .postgres c => binding c.passwordVar c.password
  | .bigquery c => binding (some "GOOGLE_APPLICATION_CREDENTIALS") c.credentialsPath
  | .byUrl c => binding c.urlVar c.url

end Connector

end SkillKit
