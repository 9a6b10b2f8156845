import SkillKit.Text.Basic
import SkillKit.Text.LetterCase

/-!
# Database dialects

A database URL starts `dialect://` or `dialect+driver://`.  The dialect decides the name shown
for the database and the packages that connecting to it needs.
-/

namespace SkillKit.Connector

open Text

structure Dialect where
  displayName : String
  packages : List String
deriving Repr, DecidableEq

def dialects : List (String × Dialect) := [
  ("postgresql", ⟨"PostgreSQL", ["psycopg[binary]"]⟩),
  ("postgres", ⟨"PostgreSQL", ["psycopg[binary]"]⟩),
  ("psycopg", ⟨"PostgreSQL", ["psycopg[binary]"]⟩),
  ("psycopg2", ⟨"PostgreSQL", ["psycopg2-binary"]⟩),
  ("pg8000", ⟨"PostgreSQL", ["pg8000"]⟩),
  ("asyncpg", ⟨"PostgreSQL", ["asyncpg"]⟩),
  ("mysql", ⟨"MySQL", ["pymysql"]⟩),
  ("pymysql", ⟨"MySQL", ["pymysql"]⟩),
  ("mysqlconnector", ⟨"MySQL", ["mysql-connector-python"]⟩),
  ("mysqldb", ⟨"MySQL", ["mysqlclient"]⟩),
  ("mariadb", ⟨"MariaDB", ["mariadb"]⟩),
  ("sqlite", ⟨"SQLite", []⟩),
  ("oracle", ⟨"Oracle", ["oracledb"]⟩),
  ("oracledb", ⟨"Oracle", ["oracledb"]⟩),
  ("mssql", ⟨"SQL Server", ["pyodbc"]⟩),
  ("pyodbc", ⟨"SQL Server", ["pyodbc"]⟩),
  ("pymssql", ⟨"SQL Server", ["pymssql"]⟩),
  ("redshift", ⟨"Redshift", ["redshift_connector"]⟩),
  ("redshift_connector", ⟨"Redshift", ["redshift_connector"]⟩),
  ("snowflake", ⟨"Snowflake", ["snowflake-sqlalchemy", "snowflake-connector-python"]⟩),
  ("bigquery", ⟨"BigQuery", ["sqlalchemy-bigquery"]⟩),
  ("duckdb", ⟨"DuckDB", ["duckdb", "duckdb-engine"]⟩),
  ("trino", ⟨"Trino", ["trino"]⟩),
  ("clickhouse", ⟨"ClickHouse", ["clickhouse-driver", "clickhouse-sqlalchemy"]⟩),
  ("cockroachdb", ⟨"CockroachDB", ["sqlalchemy-cockroachdb", "psycopg[binary]"]⟩),
  ("databricks", ⟨"Databricks", ["databricks-sql-connector"]⟩),
  ("teradata", ⟨"Teradata", ["teradatasqlalchemy"]⟩),
  ("vertica", ⟨"Vertica", ["vertica-python"]⟩),
  ("hana", ⟨"SAP HANA", ["hdbcli"]⟩),
  ("db2", ⟨"IBM Db2", ["ibm_db_sa"]⟩),
  ("firebird", ⟨"Firebird", ["fdb"]⟩),
  ("awsathena", ⟨"Amazon Athena", ["pyathena"]⟩),
  ("spanner", ⟨"Cloud Spanner", ["sqlalchemy-spanner"]⟩)]

def dialectNamed? (name : String) : Option Dialect :=
  dialects.lookup name

def isSchemeChar (c : Char) : Bool :=
  c.isAlphanum || c == '_' || c == '-'

/-- The dialect word and the driver word, if any, in front of a URL's `://`. -/
def schemeWords? (url : List Char) : Option (List Char × Option (List Char)) :=
  let dialect := url.takeWhile isSchemeChar
  let rest := url.dropWhile isSchemeChar
  if dialect.isEmpty then none
  else match rest with
    | ':' :: '/' :: '/' :: _ => some (dialect, none)
    | '+' :: rest =>
      let driver := rest.takeWhile isSchemeChar
      match driver.isEmpty, rest.dropWhile isSchemeChar with
      | false, ':' :: '/' :: '/' :: _ => some (dialect, some driver)
      | _, _ => none
    | _ => none

/-- The word by which a URL's database goes: its driver if that is a known one, and its dialect
otherwise, in lower case. -/
def dialectOf? (url : String) : Option String :=
  match schemeWords? url.toList with
  | none => none
  | some (dialect, driver) =>
    let dialect := lower (String.ofList dialect)
    match driver.map fun d => lower (String.ofList d) with
    | some driver => if (dialectNamed? driver).isSome then some driver else some dialect
    | none => some dialect

end SkillKit.Connector
