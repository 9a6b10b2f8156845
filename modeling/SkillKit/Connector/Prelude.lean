import SkillKit.Connector.Basic

/-!
# Code that connects

For a connector the kernel is given code that imports what it needs, opens the connection,
defines two query functions and prints what it has connected to.  A value that came from an
environment variable is not written into the code: the code reads the variable.
-/

namespace SkillKit.Connector

open Text

/-! ## Parts that are the same for all connectors of a type -/

def snowflakeHelpers : List String := [
  "def run_sql(query: str, limit: int = 100):",
  "    \"\"\"Execute SQL and return Polars DataFrame.\"\"\"",
  "    cursor = _conn.cursor()",
  "    try:",
  "        cursor.execute(query)",
  "        try:",
  "            df = cursor.fetch_pandas_all()",
  "            result = pl.from_pandas(df)",
  "        except Exception:",
  "            rows = cursor.fetchall()",
  "            columns = (",
  "                [desc[0] for desc in cursor.description] if cursor.description else []",
  "            )",
  "            result = pl.DataFrame(rows, schema=columns, orient=\"row\")",
  "        return result.head(limit) if limit > 0 and len(result) > limit else result",
  "    finally:",
  "        cursor.close()",
  "",
  "",
  "def run_sql_pandas(query: str, limit: int = 100):",
  "    \"\"\"Execute SQL and return Pandas DataFrame.\"\"\"",
  "    cursor = _conn.cursor()",
  "    try:",
  "        cursor.execute(query)",
  "        try:",
  "            df = cursor.fetch_pandas_all()",
  "        except Exception:",
  "            rows = cursor.fetchall()",
  "            columns = (",
  "                [desc[0] for desc in cursor.description] if cursor.description else []",
  "            )",
  "            df = pd.DataFrame(rows, columns=columns)",
  "        return df.head(limit) if limit > 0 and len(df) > limit else df",
  "    finally:",
  "        cursor.close()"]

def postgresHelpers : List String := [
  "def run_sql(query: str, limit: int = 100):",
  "    \"\"\"Execute SQL and return Polars DataFrame.\"\"\"",
  "    with _conn.cursor() as cursor:",
  "        cursor.execute(query)",
  "        if cursor.description is None:",
  "            return pl.DataFrame()",
  "        columns = [desc[0] for desc in cursor.description]",
  "        rows = cursor.fetchall()",
  "        result = pl.DataFrame(rows, schema=columns, orient=\"row\")",
  "        return result.head(limit) if limit > 0 and len(result) > limit else result",
  "",
  "",
  "def run_sql_pandas(query: str, limit: int = 100):",
  "    \"\"\"Execute SQL and return Pandas DataFrame.\"\"\"",
  "    with _conn.cursor() as cursor:",
  "        cursor.execute(query)",
  "        if cursor.description is None:",
  "            return pd.DataFrame()",
  "        columns = [desc[0] for desc in cursor.description]",
  "        rows = cursor.fetchall()",
  "        df = pd.DataFrame(rows, columns=columns)",
  "        return df.head(limit) if limit > 0 and len(df) > limit else df"]

def urlHelpers : List String := [
  "def run_sql(query: str, limit: int = 100):",
  "    \"\"\"Execute SQL and return Polars DataFrame.\"\"\"",
  "    result = _conn.execute(text(query))",
  "    if result.returns_rows:",
  "        columns = list(result.keys())",
  "        rows = result.fetchall()",
  "        df = pl.DataFrame(rows, schema=columns, orient=\"row\")",
  "        return df.head(limit) if limit > 0 and len(df) > limit else df",
  "    return pl.DataFrame()",
  "",
  "",
  "def run_sql_pandas(query: str, limit: int = 100):",
  "    \"\"\"Execute SQL and return Pandas DataFrame.\"\"\"",
  "    result = _conn.execute(text(query))",
  "    if result.returns_rows:",
  "        columns = list(result.keys())",
  "        rows = result.fetchall()",
  "        df = pd.DataFrame(rows, columns=columns)",
  "        return df.head(limit) if limit > 0 and len(df) > limit else df",
  "    return pd.DataFrame()"]

def availableLine : String :=
  "print(\"\\nAvailable: run_sql(query) -> polars, run_sql_pandas(query) -> pandas\")"

/-! ## Pieces -/

def readVariable (name : String) : String :=
  "os.environ.get(" ++ quoted name ++ ")"

def valueCode (name : Option String) (v : Value) : String :=
  match name with
  | some name => readVariable name
  | none => v.literal

def argument (name : String) (code : String) : String :=
  "    " ++ name ++ "=" ++ code ++ ","

def argumentIf (name : String) (v : Value) : List String :=
  if v.truthy then [argument name v.literal] else []

def printLine (text : String) : String :=
  "print(\"" ++ text ++ "\")"

def printFilledLine (text : String) : String :=
  "print(f\"" ++ text ++ "\")"

def printFilledIf (label : String) (v : Value) : List String :=
  if v.truthy then [printFilledLine ("   " ++ label ++ ": " ++ v.display)] else []

/-! ## Snowflake -/

def passphraseCode (c : Snowflake) : String :=
  match c.passphraseVar with
  | some name => "os.environ.get(" ++ quoted name ++ ", '').encode() or None"
  | none => if c.passphrase.truthy then c.passphrase.literal ++ ".encode()" else "None"

def privateBytesLines : List String := [
  "    return p_key.private_bytes(",
  "        encoding=serialization.Encoding.DER,",
  "        format=serialization.PrivateFormat.PKCS8,",
  "        encryption_algorithm=serialization.NoEncryption(),",
  "    )"]

def keyLoader (c : Snowflake) : List String :=
  let start := [
    "",
    "def _load_private_key():",
    "    from cryptography.hazmat.backends import default_backend",
    "    from cryptography.hazmat.primitives import serialization"]
  let load :=
    if c.privateKeyPath.truthy then [
      "    from pathlib import Path",
      "",
      "    with open(Path(" ++ c.privateKeyPath.literal ++ ").expanduser(), \"rb\") as f:",
      "        p_key = serialization.load_pem_private_key(",
      "            f.read(), password=" ++ passphraseCode c ++ ", backend=default_backend()",
      "        )"]
    else [
      "",
      "    key_content = " ++ valueCode c.privateKeyVar c.privateKey,
      "    p_key = serialization.load_pem_private_key(",
      "        key_content.encode(), password=" ++ passphraseCode c
        ++ ", backend=default_backend()",
      "    )"]
  start ++ load ++ privateBytesLines ++ [""]

def snowflakeConnect (c : Snowflake) (database : Option Value) : List String :=
  let auth :=
    if c.authType.isText "password" then [argument "password" (valueCode c.passwordVar c.password)]
    else if c.authType.isText "private_key" then ["    private_key=_load_private_key(),"]
    else []
  let session :=
    if c.queryTag.truthy then
      ["    session_parameters=\x7b'QUERY_TAG': " ++ c.queryTag.literal ++ "\x7d,"]
    else []
  ["_conn = snowflake.connector.connect(",
    argument "account" c.account.literal,
    argument "user" c.user.literal]
    ++ auth ++ argumentIf "warehouse" c.warehouse ++ argumentIf "role" c.role
    ++ (database.map fun d => argument "database" d.literal).toList
    ++ session
    ++ [argument "client_session_keep_alive" c.keepAlive.display, ")"]

def snowflakeStatus (c : Snowflake) (database : Option Value) : List String :=
  [printLine "Snowflake connection established",
    printFilledLine "   Account: \x7b_conn.account\x7d",
    printFilledLine "   User: \x7b_conn.user\x7d"]
    ++ printFilledIf "Warehouse" c.warehouse ++ printFilledIf "Role" c.role
    ++ (database.map fun d => printFilledLine ("   Database: " ++ d.display)).toList
    ++ printFilledIf "Query Tag" c.queryTag ++ [availableLine]

def snowflakePrelude (c : Snowflake) : Except Fault String := do
  let database ← if c.databases.truthy then some <$> c.databases.first else pure none
  let imports := [
    "import snowflake.connector", "import polars as pl", "import pandas as pd", "import os"]
  let loader := if c.authType.isText "private_key" then [keyLoader c] else []
  let sections := [imports] ++ loader
    ++ [snowflakeConnect c database, snowflakeHelpers, snowflakeStatus c database]
  return "\n\n".intercalate (sections.map ("\n".intercalate ·))

/-! ## PostgreSQL -/

def postgresConnect (c : Postgres) : List String :=
  let password :=
    match c.passwordVar with
    | some name => [argument "password" (readVariable name)]
    | none => argumentIf "password" c.password
  ["_conn = psycopg.connect(",
    argument "host" c.host.literal,
    argument "port" c.port.display,
    argument "user" c.user.literal]
    ++ password ++ [argument "dbname" c.database.literal]
    ++ argumentIf "sslmode" c.sslmode ++ argumentIf "application_name" c.applicationName
    ++ ["    autocommit=True,", ")"]

def postgresStatus (c : Postgres) : List String :=
  [printLine "PostgreSQL connection established",
    printLine ("   Host: " ++ c.host.display ++ ":" ++ c.port.display),
    printLine ("   User: " ++ c.user.display),
    printLine ("   Database: " ++ c.database.display)]
    ++ (if c.applicationName.truthy then
        [printLine ("   Application: " ++ c.applicationName.display)] else [])
    ++ [availableLine]

def postgresPrelude (c : Postgres) : String :=
  let imports := ["import psycopg", "import polars as pl", "import pandas as pd", "import os"]
  "\n\n".intercalate
    ([imports, postgresConnect c, postgresHelpers, postgresStatus c].map ("\n".intercalate ·))

/-! ## BigQuery -/

def bigQueryConnect (c : BigQuery) : List String :=
  if c.credentialsPath.truthy then [
    "from google.oauth2 import service_account",
    "_credentials = service_account.Credentials.from_service_account_file("
      ++ c.credentialsPath.literal ++ ")",
    "_client = bigquery.Client(project=" ++ c.project.literal ++ ", credentials=_credentials)"]
  else ["_client = bigquery.Client(project=" ++ c.project.literal ++ ")"]

def bigQueryHelpers (c : BigQuery) : List String :=
  let config := if c.labels.truthy then "labels=" ++ c.labels.literal else ""
  let extra := if c.location.truthy then ", location=" ++ c.location.literal else ""
  let query := [
    "    job_config = bigquery.QueryJobConfig(" ++ config ++ ")",
    "    query_job = _client.query(query, job_config=job_config" ++ extra ++ ")",
    "    df = query_job.to_dataframe()"]
  ["def run_sql(query: str, limit: int = 100):",
    "    \"\"\"Execute SQL and return Polars DataFrame.\"\"\""]
    ++ query ++ [
    "    result = pl.from_pandas(df)",
    "    return result.head(limit) if limit > 0 and len(result) > limit else result",
    "",
    "",
    "def run_sql_pandas(query: str, limit: int = 100):",
    "    \"\"\"Execute SQL and return Pandas DataFrame.\"\"\""]
    ++ query ++ ["    return df.head(limit) if limit > 0 and len(df) > limit else df"]

def bigQueryStatus (c : BigQuery) : List String :=
  let auth :=
    if c.credentialsPath.truthy then "Service Account" else "Application Default Credentials"
  [printLine "BigQuery client initialized",
    printFilledLine ("   Project: " ++ c.project.display)]
    ++ printFilledIf "Location" c.location ++ [printLine ("   Auth: " ++ auth)]
    ++ (if c.labels.truthy then [printFilledLine ("   Labels: " ++ c.labels.literal)] else [])
    ++ [availableLine]

def bigQueryPrelude (c : BigQuery) : String :=
  let imports := ["from google.cloud import bigquery", "import polars as pl",
    "import pandas as pd", "import os"]
  "\n\n".intercalate
    ([imports, bigQueryConnect c, bigQueryHelpers c, bigQueryStatus c].map ("\n".intercalate ·))

/-! ## Databases by URL -/

def textItems (v : Value) : Except Fault (List String) := do
  (← v.parts).mapM fun
    | .text s => .ok s
    | _ => .error .wrongKind

def urlConnect (c : UrlDatabase) : List String :=
  let extra :=
    if c.connectArgs.truthy then ", connect_args=" ++ c.connectArgs.literal else ""
  ["_engine = create_engine(" ++ valueCode c.urlVar c.url ++ ", pool_size=" ++ c.poolSize.display
      ++ ", echo=" ++ c.echo.display ++ extra ++ ")",
    "_conn = _engine.connect()",
    "atexit.register(lambda: (_conn.close(), _engine.dispose()))"]

def urlStatus (product : String) (databases : List String) : List String :=
  [printLine (product ++ " connection established (via SQLAlchemy)"),
    printFilledLine ("   Database(s): " ++ ", ".intercalate databases),
    availableLine]

def urlPrelude (c : UrlDatabase) : Except Fault String := do
  let url ← match c.url with
    | .text url => pure url
    | _ => throw .wrongKind
  let product := (((dialectOf? url).bind dialectNamed?).map (·.displayName)).getD "Database"
  let databases ← textItems c.databases
  let imports := ["from sqlalchemy import create_engine, text", "import polars as pl",
    "import pandas as pd", "import os", "import atexit"]
  return "\n\n".intercalate
    ([imports, urlConnect c, urlHelpers, urlStatus product databases].map ("\n".intercalate ·))

def connectionCode : Connector → Except Fault String
  | .snowflake c => snowflakePrelude c
  | .postgres c => .ok (postgresPrelude c)
  | .bigquery c => .ok (bigQueryPrelude c)
  | .byUrl c => urlPrelude c

end SkillKit.Connector
