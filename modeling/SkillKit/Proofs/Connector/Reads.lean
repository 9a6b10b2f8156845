import SkillKit.Proofs.Connector.Written

/-!
# Variables that the code reads

Which variables the code for a connector reads hangs on how it proves who it is (`variablesRead`).
Every function that writes a part of the code reads those of the fields that the part is about, and
together they give the code as a whole (`written_connectionCode`).
-/

namespace SkillKit.Connector

open Text

variable {code : String}

/-! ## Code of each type of connector -/

/-- The variables that the code for a connector reads, in order. -/
def variablesRead : Connector → List String
  | .snowflake c =>
    (if c.authType.isText "private_key" then
        (if c.privateKeyPath.truthy then [] else c.privateKeyVar.toList) ++ c.passphraseVar.toList
      else [])
      ++ if c.authType.isText "password" then c.passwordVar.toList else []
  | .postgres c => c.passwordVar.toList
  | .bigquery _ => []
  | .byUrl c => c.urlVar.toList

def firstOf (v : Value) : Option Value :=
  if v.truthy then v.first.toOption else none

theorem first_of_mem {v first : Value} (h : first ∈ firstOf v) : v.first = .ok first := by
  unfold firstOf at h
  split at h
  · exact Result.eq_ok_of_toOption h
  · cases h

section Pieces

variable {c : Connector} {s : String} {key label : List Char} {ns : List String} {v : Value}

theorem heldBy_field (name : String) (h : c.fields.lookup name = some v) : HeldBy c v := by
  obtain ⟨before, after, hfields, -⟩ := List.lookup_eq_some_iff.mp h
  exact ⟨(name, v), by simp [hfields], .inl rfl⟩

theorem written_argument (h : Written c s ns) (hkey : isInfix environ key = false) :
    Written c (argument (String.ofList key) s) ns :=
  (((Written.fixed hkey).before rfl).glue rfl rfl h).behind rfl

theorem written_argumentIf (name : String) (h : c.fields.lookup name = some v)
    (hkey : isInfix environ key = false) :
    WrittenLines c (argumentIf (String.ofList key) v) [] := by
  unfold argumentIf
  split
  · exact .single (written_argument (.literal (heldBy_field name h)) hkey)
  · exact .nil

theorem written_readVariable {name : String} (h : HeldBy c (.text name)) :
    Written c (readVariable name) [name] :=
  (Written.read h).behind rfl

theorem written_valueCode {name : Option String} (hname : HeldBy c (.ofText? name))
    (hv : HeldBy c v) : Written c (valueCode name v) name.toList := by
  cases name with
  | none => exact .literal hv
  | some name => exact written_readVariable hname

theorem written_printLine (h : Written c s ns) : Written c (printLine s) ns :=
  (h.before rfl).behind rfl

theorem written_printFilledLine (h : Written c s ns) : Written c (printFilledLine s) ns :=
  (h.before rfl).behind rfl

theorem written_printFilledIf (name : String) (h : c.fields.lookup name = some v)
    (hlabel : isInfix environ label = false) :
    WrittenLines c (printFilledIf (String.ofList label) v) [] := by
  unfold printFilledIf
  split
  · have htext : Written c ("   " ++ String.ofList label ++ ": " ++ v.display) [] :=
      ((Written.fixed hlabel).before rfl).trail rfl rfl (.shown (heldBy_field name h))
    exact .single (written_printFilledLine htext)
  · exact .nil

theorem written_imports (hkey : isInfix environ key = false) : WrittenLines c
    [String.ofList key, "import polars as pl", "import pandas as pd", "import os"] [] :=
  .text hkey <| .text rfl <| .text rfl <| .text rfl .nil

end Pieces

/-! ## Snowflake -/

section Snowflake

variable (c : Snowflake)

theorem written_passphraseCode :
    Written (.snowflake c) (passphraseCode c) c.passphraseVar.toList := by
  have hvar : HeldBy (.snowflake c) (.ofText? c.passphraseVar) :=
    heldBy_field "private_key_passphrase_env_var" rfl
  unfold passphraseCode
  cases hname : c.passphraseVar with
  | some name =>
    rw [hname] at hvar
    exact (Written.read hvar).behind rfl
  | none =>
    simp only []
    split
    · exact (Written.literal (heldBy_field "private_key_passphrase" rfl)).behind rfl
    · exact .fixed rfl

theorem written_keyLoader :
    WrittenLines (.snowflake c) (keyLoader c)
      ((if c.privateKeyPath.truthy then [] else c.privateKeyVar.toList)
        ++ c.passphraseVar.toList) := by
  have hkey : Written (.snowflake c) (valueCode c.privateKeyVar c.privateKey)
      c.privateKeyVar.toList :=
    written_valueCode (heldBy_field "private_key_env_var" rfl) (heldBy_field "private_key" rfl)
  have hphrase := written_passphraseCode c
  refine .behind (.behind (.after ?_ ?_) ?_) ?_
  · repeat refine .text rfl ?_
    exact .nil
  · split
    · have hpath := Written.literal (heldBy_field "private_key_path" (c := .snowflake c) rfl)
      exact .text rfl <| .text rfl <| .before ((hpath.before rfl).behind rfl) <|
        .text rfl <| .ahead ((hphrase.before rfl).behind rfl) <| .text rfl .nil
    · exact .text rfl <| .cons (hkey.before rfl) <| .text rfl <|
        .ahead ((hphrase.before rfl).behind rfl) <| .text rfl .nil
  · repeat refine .text rfl ?_
    exact .nil
  · exact .text rfl .nil

theorem written_snowflakeConnect {database : Option Value}
    (hdb : ∀ d ∈ database, HeldBy (.snowflake c) d) :
    WrittenLines (.snowflake c) (snowflakeConnect c database)
      (if c.authType.isText "password" then c.passwordVar.toList else []) := by
  have hpassword : Written (.snowflake c) (valueCode c.passwordVar c.password)
      c.passwordVar.toList :=
    written_valueCode (heldBy_field "password_env_var" rfl) (heldBy_field "password" rfl)
  refine .behind (.behind (.behind (.behind (.behind (.after ?_ ?_) ?_) ?_) ?_) ?_) ?_
  · exact .text rfl <| .before (written_argument (.literal (heldBy_field "account" rfl)) rfl) <|
      .before (written_argument (.literal (heldBy_field "user" rfl)) rfl) .nil
  · split
    · exact .single (written_argument hpassword rfl)
    · split
      · exact .text rfl .nil
      · exact .nil
  · exact written_argumentIf "warehouse" rfl rfl
  · exact written_argumentIf "role" rfl rfl
  · cases database with
    | none => exact .nil
    | some d => exact .single (written_argument (.literal (hdb d rfl)) rfl)
  · split
    · exact .single (((Written.literal (heldBy_field "query_tag" rfl)).before rfl).behind rfl)
    · exact .nil
  · exact .before (written_argument (.shown (heldBy_field "client_session_keep_alive" rfl)) rfl) <|
      .text rfl .nil

theorem written_snowflakeHelpers : WrittenLines (.snowflake c) snowflakeHelpers [] := by
  repeat refine .text rfl ?_
  exact .nil

theorem written_snowflakeStatus {database : Option Value}
    (hdb : ∀ d ∈ database, HeldBy (.snowflake c) d) :
    WrittenLines (.snowflake c) (snowflakeStatus c database) [] := by
  refine .behind (.behind (.behind (.behind (.after ?_ ?_) ?_) ?_) ?_) ?_
  · exact .before (written_printLine (.fixed rfl)) <|
      .before (written_printFilledLine (.fixed rfl)) <|
      .before (written_printFilledLine (.fixed rfl)) .nil
  · exact written_printFilledIf "warehouse" rfl rfl
  · exact written_printFilledIf "role" rfl rfl
  · cases database with
    | none => exact .nil
    | some d => exact .single (written_printFilledLine ((Written.shown (hdb d rfl)).before rfl))
  · exact written_printFilledIf "query_tag" rfl rfl
  · exact .text rfl .nil

/-- The sections of the code for Snowflake in front of the lines that tell about the connection. -/
def snowflakeFront (database : Option Value) : List (List String) :=
  [["import snowflake.connector", "import polars as pl", "import pandas as pd", "import os"]]
    ++ (if c.authType.isText "private_key" then [keyLoader c] else [])
    ++ [snowflakeConnect c database, snowflakeHelpers]

theorem eq_of_snowflakePrelude (h : snowflakePrelude c = .ok code) :
    code = "\n\n".intercalate ((snowflakeFront c (firstOf c.databases)
      ++ [snowflakeStatus c (firstOf c.databases)]).map ("\n".intercalate ·)) := by
  unfold snowflakePrelude at h
  unfold firstOf snowflakeFront
  rw [List.append_assoc]
  by_cases htruthy : c.databases.truthy = true
  · simp only [htruthy] at h ⊢
    obtain ⟨database, hfirst, hcode⟩ := Result.bind_eq_ok.1 h
    cases hvalue : c.databases.first with
    | error f =>
      rw [hvalue] at hfirst
      cases hfirst
    | ok first =>
      rw [hvalue] at hfirst
      cases hfirst
      cases hcode
      rfl
  · simp only [htruthy] at h ⊢
    cases h
    rfl

theorem written_snowflakePrelude (h : snowflakePrelude c = .ok code) :
    Written (.snowflake c) code (variablesRead (.snowflake c)) := by
  have hdb : ∀ d ∈ firstOf c.databases, HeldBy (.snowflake c) d := by
    intro d hd
    exact ⟨("databases", c.databases), by simp [fields], .inr (.inl (first_of_mem hd))⟩
  rw [eq_of_snowflakePrelude c h]
  refine WrittenLines.intercalate ?_ rfl rfl
  rw [snowflakeFront, List.append_assoc, List.map_append, List.map_append]
  refine .append (.after (.single (written_imports rfl).section) ?_) ?_
  · split
    · exact .single (written_keyLoader c).section
    · exact .nil
  · exact .ahead (written_snowflakeConnect c hdb).section <|
      .before (written_snowflakeHelpers c).section <|
      .before (written_snowflakeStatus c hdb).section .nil

end Snowflake

/-! ## PostgreSQL -/

section Postgres

variable (c : Postgres)

theorem written_postgresConnect :
    WrittenLines (.postgres c) (postgresConnect c) c.passwordVar.toList := by
  have hvar : HeldBy (.postgres c) (.ofText? c.passwordVar) := heldBy_field "password_env_var" rfl
  refine .behind (.behind (.behind (.behind (.after ?_ ?_) ?_) ?_) ?_) ?_
  · exact .text rfl <| .before (written_argument (.literal (heldBy_field "host" rfl)) rfl) <|
      .before (written_argument (.shown (heldBy_field "port" rfl)) rfl) <|
      .before (written_argument (.literal (heldBy_field "user" rfl)) rfl) .nil
  · cases hname : c.passwordVar with
    | none => exact written_argumentIf "password" rfl rfl
    | some name =>
      rw [hname] at hvar
      exact .single (written_argument (written_readVariable hvar) rfl)
  · exact .single (written_argument (.literal (heldBy_field "database" rfl)) rfl)
  · exact written_argumentIf "sslmode" rfl rfl
  · exact written_argumentIf "application_name" rfl rfl
  · exact .text rfl <| .text rfl .nil

theorem written_postgresHelpers : WrittenLines (.postgres c) postgresHelpers [] := by
  repeat refine .text rfl ?_
  exact .nil

theorem written_postgresStatus : WrittenLines (.postgres c) (postgresStatus c) [] := by
  have hplace : Written (.postgres c) ("   Host: " ++ c.host.display ++ ":" ++ c.port.display) [] :=
    ((Written.shown (heldBy_field "host" rfl)).before rfl).trail rfl rfl
      (.shown (heldBy_field "port" rfl))
  refine .behind (.behind ?_ ?_) ?_
  · exact .before (written_printLine (.fixed rfl)) <| .before (written_printLine hplace) <|
      .before (written_printLine ((Written.shown (heldBy_field "user" rfl)).before rfl)) <|
      .before (written_printLine ((Written.shown (heldBy_field "database" rfl)).before rfl)) .nil
  · split
    · exact .single (written_printLine
        ((Written.shown (heldBy_field "application_name" rfl)).before rfl))
    · exact .nil
  · exact .text rfl .nil

theorem written_postgresPrelude :
    Written (.postgres c) (postgresPrelude c) c.passwordVar.toList := by
  unfold postgresPrelude
  refine WrittenLines.intercalate ?_ rfl rfl
  exact .before (written_imports rfl).section <| .ahead (written_postgresConnect c).section <|
    .before (written_postgresHelpers c).section <| .before (written_postgresStatus c).section .nil

end Postgres

/-! ## BigQuery -/

section BigQuery

variable (c : BigQuery)

theorem written_bigQueryConnect : WrittenLines (.bigquery c) (bigQueryConnect c) [] := by
  unfold bigQueryConnect
  split
  · exact .text rfl <|
      .before (((Written.literal (heldBy_field "credentials_path" rfl)).before rfl).behind rfl) <|
      .before (((Written.literal (heldBy_field "project" rfl)).before rfl).behind rfl) .nil
  · exact .single (((Written.literal (heldBy_field "project" rfl)).before rfl).behind rfl)

theorem written_bigQueryHelpers : WrittenLines (.bigquery c) (bigQueryHelpers c) [] := by
  have hconfig : Written (.bigquery c)
      (if c.labels.truthy then "labels=" ++ c.labels.literal else "") [] := by
    split
    · exact (Written.literal (heldBy_field "labels" rfl)).before rfl
    · exact .fixed rfl
  have hcall : Written (.bigquery c)
      ("    query_job = _client.query(query, job_config=job_config" ++
        (if c.location.truthy then ", location=" ++ c.location.literal else "")) [] := by
    split
    · rw [← String.append_assoc]
      exact (Written.fixed rfl).trail rfl rfl (.literal (heldBy_field "location" rfl))
    · rw [String.append_empty]
      exact .fixed rfl
  have hquery : WrittenLines (.bigquery c) [
      "    job_config = bigquery.QueryJobConfig("
        ++ (if c.labels.truthy then "labels=" ++ c.labels.literal else "") ++ ")",
      "    query_job = _client.query(query, job_config=job_config"
        ++ (if c.location.truthy then ", location=" ++ c.location.literal else "") ++ ")",
      "    df = query_job.to_dataframe()"] [] :=
    .before ((hconfig.before rfl).behind rfl) <| .before (hcall.behind rfl) <| .text rfl .nil
  refine .behind (.behind (.behind (.after ?_ hquery) ?_) hquery) ?_
  · exact .text rfl <| .text rfl .nil
  · repeat refine .text rfl ?_
    exact .nil
  · exact .text rfl .nil

theorem written_bigQueryStatus : WrittenLines (.bigquery c) (bigQueryStatus c) [] := by
  refine .behind (.behind (.behind (.after ?_ ?_) ?_) ?_) ?_
  · exact .before (written_printLine (.fixed rfl)) <|
      .before (written_printFilledLine ((Written.shown (heldBy_field "project" rfl)).before rfl)) .nil
  · exact written_printFilledIf "location" rfl rfl
  · split <;> exact .single (written_printLine ((Written.fixed rfl).before rfl))
  · split
    · exact .single (written_printFilledLine
        ((Written.literal (heldBy_field "labels" rfl)).before rfl))
    · exact .nil
  · exact .text rfl .nil

theorem written_bigQueryPrelude : Written (.bigquery c) (bigQueryPrelude c) [] := by
  unfold bigQueryPrelude
  refine WrittenLines.intercalate ?_ rfl rfl
  exact .before (written_imports rfl).section <| .before (written_bigQueryConnect c).section <|
    .before (written_bigQueryHelpers c).section <| .before (written_bigQueryStatus c).section .nil

end BigQuery

/-! ## Databases by URL -/

section UrlDatabase

variable (c : UrlDatabase)

theorem written_urlConnect : WrittenLines (.byUrl c) (urlConnect c) c.urlVar.toList := by
  have hurl : Written (.byUrl c) (valueCode c.urlVar c.url) c.urlVar.toList :=
    written_valueCode (heldBy_field "url_env_var" rfl) (heldBy_field "url" rfl)
  have hcall : Written (.byUrl c) ("_engine = create_engine(" ++ valueCode c.urlVar c.url
      ++ ", pool_size=" ++ c.poolSize.display ++ ", echo=" ++ c.echo.display) c.urlVar.toList :=
    ((hurl.before rfl).trail rfl rfl (.shown (heldBy_field "pool_size" rfl))).trail rfl rfl
      (.shown (heldBy_field "echo" rfl))
  refine .ahead (Written.behind ?_ rfl) (.text rfl <| .text rfl .nil)
  split
  · rw [← String.append_assoc]
    exact hcall.trail rfl rfl (.literal (heldBy_field "connect_args" rfl))
  · rw [String.append_empty]
    exact hcall

theorem written_urlHelpers : WrittenLines (.byUrl c) urlHelpers [] := by
  repeat refine .text rfl ?_
  exact .nil

theorem written_displayName (url : String) :
    Written (.byUrl c)
      ((((dialectOf? url).bind dialectNamed?).map (·.displayName)).getD "Database") [] := by
  have hall : ∀ entry ∈ dialects, isInfix environ entry.2.displayName.toList = false := by
    decide +kernel
  cases hdialect : (dialectOf? url).bind dialectNamed? with
  | none => exact .fixed rfl
  | some dialect =>
    obtain ⟨name, _, hname⟩ := Option.bind_eq_some_iff.1 hdialect
    obtain ⟨front, back, hdialects, _⟩ := List.lookup_eq_some_iff.1 hname
    have hfixed := Written.fixed (c := .byUrl c) (hall (name, dialect) (by simp [hdialects]))
    rwa [String.ofList_toList] at hfixed

theorem written_urlStatus {product : String} {databases : List String}
    (hproduct : Written (.byUrl c) product [])
    (hdb : ∀ d ∈ databases, HeldBy (.byUrl c) (.text d)) :
    WrittenLines (.byUrl c) (urlStatus product databases) [] := by
  have hnames : WrittenLines (.byUrl c) databases [] := .of_forall fun d hd => .shown (hdb d hd)
  have hshown : Written (.byUrl c) (", ".intercalate databases) [] := hnames.intercalate rfl rfl
  exact .before (written_printLine (hproduct.behind rfl)) <|
    .before (written_printFilledLine (hshown.before rfl)) <| .text rfl .nil

theorem mem_of_textItems {v : Value} {texts : List String} (h : textItems v = .ok texts) :
    ∃ items, v.parts = .ok items ∧ ∀ s ∈ texts, .text s ∈ items := by
  obtain ⟨items, hitems, htexts⟩ := Result.bind_eq_ok.1 h
  refine ⟨items, hitems, fun s hs => ?_⟩
  obtain ⟨item, hitem, hread⟩ := Result.exists_of_mem_mapM htexts hs
  split at hread
  · cases hread
    exact hitem
  · cases hread

theorem exists_of_urlPrelude (h : urlPrelude c = .ok code) :
    ∃ url databases, c.url = .text url ∧ textItems c.databases = .ok databases ∧
      code = "\n\n".intercalate ([["from sqlalchemy import create_engine, text",
          "import polars as pl", "import pandas as pd", "import os", "import atexit"],
        urlConnect c, urlHelpers,
        urlStatus ((((dialectOf? url).bind dialectNamed?).map (·.displayName)).getD "Database")
          databases].map ("\n".intercalate ·)) := by
  unfold urlPrelude at h
  split at h
  · rename_i url hurl
    obtain ⟨url', hpure, h⟩ := Result.bind_eq_ok.1 h
    cases hpure
    obtain ⟨databases, hdb, hcode⟩ := Result.bind_eq_ok.1 h
    cases hcode
    exact ⟨url, databases, hurl, hdb, rfl⟩
  · cases h

theorem written_urlPrelude (h : urlPrelude c = .ok code) :
    Written (.byUrl c) code c.urlVar.toList := by
  obtain ⟨url, databases, _, htexts, rfl⟩ := exists_of_urlPrelude c h
  obtain ⟨items, hitems, hmem⟩ := mem_of_textItems htexts
  have hdb : ∀ d ∈ databases, HeldBy (.byUrl c) (.text d) := by
    intro d hd
    exact ⟨("databases", c.databases), by simp [fields], .inr (.inr ⟨items, hitems, hmem d hd⟩)⟩
  have himports : WrittenLines (.byUrl c) ["from sqlalchemy import create_engine, text",
      "import polars as pl", "import pandas as pd", "import os", "import atexit"] [] := by
    repeat refine .text rfl ?_
    exact .nil
  refine WrittenLines.intercalate ?_ rfl rfl
  exact .before himports.section <| .ahead (written_urlConnect c).section <|
    .before (written_urlHelpers c).section <|
    .before (written_urlStatus c (written_displayName c url) hdb).section .nil

end UrlDatabase

theorem written_connectionCode {c : Connector} (h : connectionCode c = .ok code) :
    Written c code (variablesRead c) := by
  cases c with
  | snowflake c => exact written_snowflakePrelude c h
  | postgres c =>
    cases h
    exact written_postgresPrelude c
  | bigquery c =>
    cases h
    exact written_bigQueryPrelude c
  | byUrl c => exact written_urlPrelude c h

end SkillKit.Connector
