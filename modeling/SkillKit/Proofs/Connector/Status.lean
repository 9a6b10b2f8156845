import SkillKit.Connector.Check
import SkillKit.Proofs.Connector.Config
import SkillKit.Proofs.Connector.Reads
import SkillKit.Proofs.Source.PrintCall

/-!
# Lines that tell about a connection

Values of the config stand in lines of code between quotes, as they are, and in some of them braces
are filled in.  So a line prints its value exactly if the value is free of the characters that mean
something there (`Told.intact_iff`).  The labels of a BigQuery client are shown in braces, and so the
line for them is never intact (`not_intact_labels`).
-/

namespace SkillKit.Connector

open Text List

variable {c : Connector} {code : String}

inductive Label where
  | warehouse | role | database | queryTag | host | user | application | project | location | labels
  | databases
deriving Repr, DecidableEq

def Label.word : Label → String
  | .warehouse => "Warehouse"
  | .role => "Role"
  | .database => "Database"
  | .queryTag => "Query Tag"
  | .host => "Host"
  | .user => "User"
  | .application => "Application"
  | .project => "Project"
  | .location => "Location"
  | .labels => "Labels"
  | .databases => "Database(s)"

/-- A value of the config in a line that tells about a connection. -/
structure Told where
  /-- Whether the line prints a text in which expressions are filled in. -/
  formatted : Bool
  label : Label
  value : String

namespace Told

/-- The text that the line is there to print. -/
def text (t : Told) : String :=
  "   " ++ t.label.word ++ ": " ++ t.value

def line (t : Told) : String :=
  if t.formatted then printFilledLine t.text else printLine t.text

/-- The line is one call that prints a literal, and the literal stands for the text: nothing in it
is escaped and nothing is filled in. -/
def Intact (t : Told) : Prop :=
  Source.tokens? (unifyBreaks t.line.toList) = some (Source.printCall t.formatted t.text.toList) ∧
    '\\' ∉ t.text.toList ∧
    (t.formatted = true → '\x7b' ∉ t.text.toList ∧ '\x7d' ∉ t.text.toList)

/-- The value is free of the characters that mean something in the line. -/
def Clean (t : Told) : Prop :=
  ∀ c ∈ t.value.toList, c ∉ Source.breakers ∧ (t.formatted = true → c ≠ '\x7b' ∧ c ≠ '\x7d')

theorem line_toList (t : Told) : t.line.toList = Source.printed t.formatted t.text.toList := by
  cases hformatted : t.formatted <;>
    simp [line, hformatted, printLine, printFilledLine, Source.printed, Source.marksOf]

/-- What stands in front of a value means nothing in the line. -/
def lead (l : Label) : List Char :=
  ' ' :: ' ' :: (l.word.toList ++ [':', ' '])

theorem text_toList (t : Told) : t.text.toList = ' ' :: (lead t.label ++ t.value.toList) := by
  simp [text, lead]

def plain (c : Char) : Bool :=
  !Source.breakers.elem c && c != '\x7b' && c != '\x7d'

theorem plain_iff {c : Char} :
    plain c = true ↔ c ∉ Source.breakers ∧ c ≠ '\x7b' ∧ c ≠ '\x7d' := by
  simp [plain, and_assoc]

theorem lead_clean (l : Label) : ∀ c ∈ lead l, c ∉ Source.breakers ∧ c ≠ '\x7b' ∧ c ≠ '\x7d' := by
  have hall : (lead l).all plain = true := by cases l <;> rfl
  exact fun c hc => plain_iff.1 (all_eq_true.1 hall c hc)

theorem intact_iff (t : Told) : t.Intact ↔ t.Clean := by
  have hlead := lead_clean t.label
  have hslash : '\\' ∉ t.text.toList ↔ '\\' ∉ lead t.label ++ t.value.toList := by
    rw [text_toList]
    simp
  unfold Intact Clean
  rw [line_toList, ← and_assoc, hslash, text_toList, Source.tokens?_printed_iff]
  constructor
  · rintro ⟨hfree, hfill⟩ c hc
    have hmem : c ∈ lead t.label ++ t.value.toList := mem_append_right _ hc
    refine ⟨hfree c hmem, fun hformatted => ⟨?_, ?_⟩⟩
    · rintro rfl
      exact (hfill hformatted).1 (mem_cons_of_mem _ hmem)
    · rintro rfl
      exact (hfill hformatted).2 (mem_cons_of_mem _ hmem)
  · intro hclean
    have hall : ∀ c ∈ lead t.label ++ t.value.toList,
        c ∉ Source.breakers ∧ (t.formatted = true → c ≠ '\x7b' ∧ c ≠ '\x7d') := by
      intro c hc
      rcases mem_append.1 hc with hc | hc
      · exact ⟨(hlead c hc).1, fun _ => (hlead c hc).2⟩
      · exact hclean c hc
    refine ⟨fun c hc => (hall c hc).1, fun hformatted => ⟨fun hbrace => ?_, fun hbrace => ?_⟩⟩
    · exact ((hall _ (by simpa using hbrace)).2 hformatted).1 rfl
    · exact ((hall _ (by simpa using hbrace)).2 hformatted).2 rfl

end Told

/-! ## The lines of each type of connector -/

def toldIf (formatted : Bool) (label : Label) (v : Value) : List Told :=
  if v.truthy then [⟨formatted, label, v.display⟩] else []

/-- The values that the lines for a connector tell. -/
def told : Connector → List Told
  | .snowflake c =>
    toldIf true .warehouse c.warehouse ++ toldIf true .role c.role
      ++ ((firstOf c.databases).map fun d => ⟨true, .database, d.display⟩).toList
      ++ toldIf true .queryTag c.queryTag
  | .postgres c =>
    [⟨false, .host, c.host.display ++ ":" ++ c.port.display⟩, ⟨false, .user, c.user.display⟩,
      ⟨false, .database, c.database.display⟩] ++ toldIf false .application c.applicationName
  | .bigquery c =>
    [⟨true, .project, c.project.display⟩] ++ toldIf true .location c.location
      ++ if c.labels.truthy then [⟨true, .labels, c.labels.literal⟩] else []
  | .byUrl c => [⟨true, .databases, ", ".intercalate ((textItems c.databases).toOption.getD [])⟩]

def productOf (c : UrlDatabase) : String :=
  (((c.url.asText?.bind dialectOf?).bind dialectNamed?).map (·.displayName)).getD "Database"

/-- The lines for a connector in which no value of the config stands. -/
def plainLines : Connector → List String
  | .snowflake _ => [printLine "Snowflake connection established",
      printFilledLine "   Account: \x7b_conn.account\x7d",
      printFilledLine "   User: \x7b_conn.user\x7d", availableLine]
  | .postgres _ => [printLine "PostgreSQL connection established", availableLine]
  | .bigquery c => [printLine "BigQuery client initialized",
      printLine ("   Auth: " ++ if c.credentialsPath.truthy then "Service Account"
        else "Application Default Credentials"), availableLine]
  | .byUrl c => [printLine (productOf c ++ " connection established (via SQLAlchemy)"),
      availableLine]

/-- The code ends with lines that tell the values. -/
def EndsTelling (c : Connector) (code : String) : Prop :=
  ∃ front status, code = front ++ "\n\n" ++ "\n".intercalate status ∧
    status.Perm (plainLines c ++ (told c).map Told.line)

theorem printFilledIf_eq (label : Label) (v : Value) :
    printFilledIf label.word v = (toldIf true label v).map Told.line := by
  unfold printFilledIf toldIf
  split <;> rfl

theorem endsTelling_of_sections {sections : List (List String)} {last : List String}
    (hne : sections ≠ []) (hlast : last.Perm (plainLines c ++ (told c).map Told.line)) :
    EndsTelling c ("\n\n".intercalate ((sections ++ [last]).map ("\n".intercalate ·))) := by
  refine ⟨"\n\n".intercalate (sections.map ("\n".intercalate ·)), last, ?_, hlast⟩
  rw [map_append, String.intercalate_append_of_ne_nil (by simpa using hne) (by simp)]
  simp

theorem endsTelling_snowflake {c : Snowflake} (h : snowflakePrelude c = .ok code) :
    EndsTelling (.snowflake c) code := by
  have hwarehouse : printFilledIf "Warehouse" c.warehouse = _ := printFilledIf_eq .warehouse _
  have hrole : printFilledIf "Role" c.role = _ := printFilledIf_eq .role _
  have htag : printFilledIf "Query Tag" c.queryTag = _ := printFilledIf_eq .queryTag _
  have hdatabase : ((firstOf c.databases).map fun d =>
      printFilledLine ("   Database: " ++ d.display)).toList =
      (((firstOf c.databases).map fun d => (⟨true, .database, d.display⟩ : Told)).toList).map
        Told.line := by
    cases firstOf c.databases <;> rfl
  rw [eq_of_snowflakePrelude c h]
  refine endsTelling_of_sections (by simp [snowflakeFront]) ?_
  unfold snowflakeStatus told plainLines
  rw [hwarehouse, hrole, htag, hdatabase, perm_iff_count]
  simp only [count_append, count_cons, count_nil, map_append]
  omega

theorem endsTelling_of_four {imports connect helpers status : List String}
    (hstatus : status.Perm (plainLines c ++ (told c).map Told.line)) :
    EndsTelling c ("\n\n".intercalate
      ([imports, connect, helpers, status].map ("\n".intercalate ·))) :=
  endsTelling_of_sections (cons_ne_nil imports [connect, helpers]) hstatus

theorem endsTelling_postgres (c : Postgres) : EndsTelling (.postgres c) (postgresPrelude c) := by
  have happ : (if c.applicationName.truthy then
      [printLine ("   Application: " ++ c.applicationName.display)] else []) =
      (toldIf false .application c.applicationName).map Told.line := by
    unfold toldIf
    split <;> rfl
  have hhost : printLine ("   Host: " ++ c.host.display ++ ":" ++ c.port.display) =
      Told.line ⟨false, .host, c.host.display ++ ":" ++ c.port.display⟩ := by
    have hassoc : "   Host: " ++ c.host.display ++ ":" ++ c.port.display =
        "   Host: " ++ (c.host.display ++ ":" ++ c.port.display) := by
      simp only [String.append_assoc]
    rw [hassoc]
    rfl
  have huser : printLine ("   User: " ++ c.user.display) =
      Told.line ⟨false, .user, c.user.display⟩ := rfl
  have hdatabase : printLine ("   Database: " ++ c.database.display) =
      Told.line ⟨false, .database, c.database.display⟩ := rfl
  unfold postgresPrelude
  refine endsTelling_of_four ?_
  unfold postgresStatus plainLines told
  rw [happ, hhost, huser, hdatabase, perm_iff_count]
  intro line
  simp only [count_append, count_cons, map_append, map_cons, map_nil]
  omega

theorem endsTelling_bigQuery (c : BigQuery) : EndsTelling (.bigquery c) (bigQueryPrelude c) := by
  have hproject : printFilledLine ("   Project: " ++ c.project.display) =
      Told.line ⟨true, .project, c.project.display⟩ := rfl
  have hlocation : printFilledIf "Location" c.location = _ := printFilledIf_eq .location _
  have hlabels : (if c.labels.truthy then [printFilledLine ("   Labels: " ++ c.labels.literal)]
      else []) = (if c.labels.truthy then [(⟨true, .labels, c.labels.literal⟩ : Told)]
      else []).map Told.line := by
    split <;> rfl
  unfold bigQueryPrelude
  refine endsTelling_of_four ?_
  unfold bigQueryStatus plainLines told
  rw [hproject, hlocation, hlabels, perm_iff_count]
  simp only [count_append, count_cons, count_nil, map_append, map_cons,
    map_nil]
  omega

theorem endsTelling_url {c : UrlDatabase} (h : urlPrelude c = .ok code) :
    EndsTelling (.byUrl c) code := by
  obtain ⟨url, databases, hurl, hdatabases, rfl⟩ := exists_of_urlPrelude c h
  refine endsTelling_of_four ?_
  unfold urlStatus plainLines told productOf
  dsimp only
  rw [hdatabases, hurl]
  exact (Perm.swap _ _ []).cons _

theorem endsTelling (h : connectionCode c = .ok code) : EndsTelling c code := by
  cases c with
  | snowflake c => exact endsTelling_snowflake h
  | postgres c =>
    cases h
    exact endsTelling_postgres c
  | bigquery c =>
    cases h
    exact endsTelling_bigQuery c
  | byUrl c => exact endsTelling_url h

/-! ## What a check lets through -/

theorem labels_of_check {name : String} {c : BigQuery} (h : check name (.bigquery c) = .ok ()) :
    ∃ labels, c.labels = .dict labels := by
  obtain ⟨_, _, h⟩ := Result.bind_eq_ok.1 h
  obtain ⟨count, _, h⟩ := Result.bind_eq_ok.1 h
  split at h
  · cases h
  · obtain ⟨labels, hlabels, _⟩ := Result.bind_eq_ok.1 h
    cases hvalue : c.labels with
    | dict fields => exact ⟨fields, rfl⟩
    | atom a =>
      rw [hvalue] at hlabels
      cases hlabels
    | list items =>
      rw [hvalue] at hlabels
      cases hlabels
    | pair first second =>
      rw [hvalue] at hlabels
      cases hlabels

theorem not_intact_labels {name : String} {c : BigQuery}
    (hcheck : check name (.bigquery c) = .ok ()) (hlabels : c.labels.truthy = true) :
    ∃ t ∈ told (.bigquery c), t.label = .labels ∧ ¬ t.Intact := by
  refine ⟨⟨true, .labels, c.labels.literal⟩, by simp [told, hlabels], rfl, ?_⟩
  rw [Told.intact_iff]
  intro hclean
  obtain ⟨labels, hdict⟩ := labels_of_check hcheck
  have hbrace : '\x7b' ∈ c.labels.literal.toList := by
    rw [hdict, Value.literal]
    simp
  exact ((hclean _ hbrace).2 rfl).1 rfl

/-- The lines that tell about a connection.  They stand at the end of the code, and besides those
that are the same for all connectors of a type each tells one value.  Such a line prints its value
exactly if the value is free of quotes, backslashes, line breaks and null characters, and of braces
where braces are filled in.  A check does not ask for that; the labels of a BigQuery client that it
lets through are never printed so. -/
theorem told_intact_iff_clean {c : Connector} {code : String} (h : connectionCode c = .ok code) :
    EndsTelling c code ∧ (∀ t ∈ told c, t.Intact ↔ t.Clean) ∧
      ∀ name b, c = .bigquery b → check name c = .ok () → b.labels.truthy = true →
        ∃ t ∈ told c, t.label = .labels ∧ ¬ t.Intact := by
  refine ⟨endsTelling h, fun t _ => t.intact_iff, ?_⟩
  rintro name b rfl hcheck hlabels
  exact not_intact_labels hcheck hlabels

def serverConfig : Fields :=
  [(.text "type", .text "postgres"), (.text "host", .text "localhost"), (.text "user", .text "me"),
    (.text "database", .text "shop")]

/-- Names of the usual kind are printed as they are. -/
theorem told_intact_iff_clean_server :
    ∃ c code, ofConfig {} (.dict serverConfig) = .ok c ∧ connectionCode c = .ok code ∧
      EndsTelling c code ∧ (told c).length = 3 ∧ ∀ t ∈ told c, t.Intact := by
  have hcode : connectionCode (ofType {} serverConfig .postgres) =
      .ok (postgresPrelude (.ofFields {} serverConfig)) := rfl
  obtain ⟨hends, hintact, _⟩ := told_intact_iff_clean hcode
  refine ⟨ofType {} serverConfig .postgres, _, rfl, hcode, hends, rfl, fun t ht => ?_⟩
  have hplain : (told (ofType {} serverConfig .postgres)).all (·.value.toList.all Told.plain) =
      true := rfl
  refine (hintact t ht).2 fun c hc => ?_
  have hfree := Told.plain_iff.1 (all_eq_true.1 (all_eq_true.1 hplain t ht) c hc)
  exact ⟨hfree.1, fun _ => hfree.2⟩

def labelledConfig : Fields :=
  [(.text "type", .text "bigquery"), (.text "project", .text "shop"),
    (.text "labels", .dict [(.text "team", .text "data")])]

/-- Its label is not printed: it is taken for an expression that is to be filled in. -/
theorem labels_told_not_intact :
    ∃ c code, ofConfig {} (.dict labelledConfig) = .ok c ∧ check "shop" c = .ok () ∧
      connectionCode c = .ok code ∧ EndsTelling c code ∧
      ∃ t ∈ told c, t.line = "print(f\"   Labels: \x7b'team': 'data'\x7d\")" ∧ ¬ t.Intact := by
  refine ⟨ofType {} labelledConfig .bigquery, _, rfl, rfl, rfl, endsTelling rfl,
    ⟨true, .labels, "\x7b'team': 'data'\x7d"⟩, mem_cons_of_mem _ (mem_singleton.2 ?_),
    by decide, ?_⟩
  · exact congrArg (Told.mk true .labels) (by decide +kernel)
  · rw [Told.intact_iff]
    exact fun hclean => ((hclean '\x7b' (by decide)).2 rfl).1 rfl

end SkillKit.Connector
