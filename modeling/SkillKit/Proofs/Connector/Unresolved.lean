import SkillKit.Warehouse.Basic
import SkillKit.Proofs.Connector.Config

/-!
# Placeholders that are left

A placeholder whose variable is unset or empty stays in its field.  A check is a list of demands on
fields, and a rest that does not hang on the environment (`check_ofType`).  So a placeholder that is
left is refused in a field demanded, and not noticed in another one, such as the password of
PostgreSQL (`ofFields_accepts_unresolved_password`).
-/

namespace SkillKit.Connector

open Act List Fields Result Ensures

variable {name key : String} {α : Type} {env : Environment} {data : Fields}

/-! ## Demands -/

def replacedFields : ConnectorType → List String
  | .snowflake => ["account", "user", "password", "private_key", "private_key_passphrase"]
  | .postgres => ["host", "user", "password", "database"]
  | .bigquery => ["project", "credentials_path"]
  | .byUrl => ["url"]

/-- Whether a config of Snowflake asks to connect with a password. -/
def asksPassword (data : Fields) : Bool :=
  ((get? data "auth_type").getD (.text "password")).isText "password"

/-- The fields that must be filled in and hold no placeholder, with what is told of those that do
not. -/
def demands (data : Fields) : ConnectorType → List (String × String)
  | .snowflake =>
    [("account", "account required"), ("user", "user required")]
      ++ if asksPassword data then [("password", "password required")] else []
  | .postgres =>
    [("host", "host required for postgres"), ("user", "user required for postgres"),
      ("database", "database required for postgres")]
  | .bigquery => [("project", "project required for bigquery")]
  | .byUrl => [("url", "url required for sqlalchemy")]

def demandedFields (data : Fields) (type : ConnectorType) : List String :=
  (demands data type).map (·.1)

def comesTo (env : Environment) (data : Fields) (key : String) : Value :=
  (resolve env (fieldOf data key)).1

def makeDemands (name : String) (env : Environment) (data : Fields) (type : ConnectorType) :
    Except Fault Unit :=
  forM (demands data type) fun d => need name (comesTo env data d.1) d.2

/-- What a check looks at beside its demands. -/
def checkRest (name : String) (data : Fields) : ConnectorType → Except Fault Unit
  | .snowflake => do
    let auth := (get? data "auth_type").getD (.text "password")
    let path := (get? data "private_key_path").getD (.text "")
    if !asksPassword data && auth.isText "private_key" then
      if !path.truthy && !(fieldOf data "private_key").truthy then
        throw (fault name "private_key required")
    if 2000 < (← ((get? data "query_tag").getD (.text "")).size) then
      throw (fault name "query_tag exceeds Snowflake's 2000 character limit")
  | .postgres => pure ()
  | .bigquery => do
    let labels := (get? data "labels").getD (.dict [])
    let count ← labels.size
    if 64 < count then
      throw (fault name s!"BigQuery supports at most 64 labels, got {count}")
    (← labels.fieldsFor "items").forM (checkLabel name)
  | .byUrl => do
    if !((get? data "databases").getD (.list [])).truthy then
      throw (fault name "databases list required for sqlalchemy")

/-- A check makes the demands of its type; what else it looks at does not hang on the
environment. -/
theorem check_ofType (name : String) (env : Environment) (data : Fields) (type : ConnectorType) :
    check name (ofType env data type) =
      makeDemands name env data type >>= fun _ => checkRest name data type := by
  cases type with
  | snowflake =>
    -- Whether a password is demanded is decided in the middle of the check.
    cases hauth : asksPassword data with
    | true =>
      simp only [makeDemands, demands, checkRest, hauth]
      unfold asksPassword at hauth
      simp [check, ofType, checkSnowflake, Snowflake.ofFields, comesTo, fieldOf, hauth]
    | false =>
      simp only [makeDemands, demands, checkRest, hauth]
      unfold asksPassword at hauth
      simp [check, ofType, checkSnowflake, Snowflake.ofFields, comesTo, fieldOf, hauth,
        truthy_resolve]
  | postgres =>
    simp [makeDemands, demands, checkRest, check, ofType, checkPostgres, Postgres.ofFields, comesTo,
      fieldOf, -pure_eq]
  | bigquery =>
    simp [makeDemands, demands, checkRest, check, ofType, checkBigQuery, BigQuery.ofFields, comesTo,
      fieldOf]
  | byUrl =>
    simp [makeDemands, demands, checkRest, check, ofType, checkByUrl, UrlDatabase.ofFields, comesTo,
      fieldOf]

theorem demandedFields_subset (data : Fields) (type : ConnectorType) :
    demandedFields data type ⊆ replacedFields type := by
  cases type <;> cases hauth : asksPassword data <;>
    simp [demandedFields, demands, replacedFields, hauth]

/-! ## Single demands -/

/-- The result is a refusal with a reason. -/
def Refused (r : Except Fault Unit) : Prop := ∃ reason, r = .error (.refused reason)

theorem need_of_unset {v : Value} (h : isUnset v = .ok true) (name problem : String) :
    need name v problem = .error (fault name problem) := by
  rw [need, h]
  rfl

theorem isUnset_of_need {problem : String} {v : Value} (h : need name v problem = .ok ()) :
    isUnset v = .ok false := by
  obtain ⟨unset, hunset, h⟩ := bind_eq_ok.mp h
  cases unset with
  | true => cases h
  | false => exact hunset

theorem need_text (name problem s : String) :
    need name (.text s) problem = .ok () ∨ Refused (need name (.text s) problem) := by
  have hunset : ∃ unset, isUnset (.text s) = .ok unset := by
    unfold isUnset
    split <;> exact ⟨_, rfl⟩
  obtain ⟨unset, hunset⟩ := hunset
  rw [need, hunset]
  cases unset with
  | true => exact .inr ⟨_, rfl⟩
  | false => exact .inl rfl

theorem refused_forM {f : α → Except Fault Unit} {xs : List α}
    (h : ∀ x ∈ xs, f x = .ok () ∨ Refused (f x)) (hunmet : ∃ x ∈ xs, f x ≠ .ok ()) :
    Refused (forM xs f) := by
  induction xs with
  | nil => simp at hunmet
  | cons x rest ih =>
    rw [forM_cons]
    rcases h x mem_cons_self with hmet | ⟨reason, hreason⟩
    · rw [hmet]
      apply ih fun y hy => h y (mem_cons_of_mem _ hy)
      obtain ⟨y, hy, hne⟩ := hunmet
      rcases mem_cons.mp hy with rfl | hy
      · exact absurd hmet hne
      · exact ⟨y, hy, hne⟩
    · exact ⟨reason, by rw [hreason]; rfl⟩

theorem eq_ok_of_forM {f : α → Except Fault Unit} {xs : List α} (h : forM xs f = .ok ()) :
    ∀ x ∈ xs, f x = .ok () := by
  induction xs with
  | nil => simp
  | cons x rest ih =>
    obtain ⟨_, hx, hrest⟩ := bind_eq_ok.mp h
    intro y hy
    rcases mem_cons.mp hy with rfl | hy
    · exact hx
    · exact ih hrest y hy

theorem forM_congr {f g : α → Except Fault Unit} {xs : List α} (h : ∀ x ∈ xs, f x = g x) :
    forM xs f = forM xs g := by
  induction xs with
  | nil => rfl
  | cons x rest ih =>
    rw [forM_cons, forM_cons, h x mem_cons_self,
      ih fun y hy => h y (mem_cons_of_mem _ hy)]

/-! ## Placeholders that are left -/

/-- The field is a placeholder for a variable that is unset or empty. -/
def Unresolved (env : Environment) (data : Fields) (key : String) : Prop :=
  ∃ name, Names data key name ∧ (env.get? name).getD "" = ""

theorem startsWith_of_placeholder {s : String} (h : placeholder? s = some name) :
    Text.startsWith s "$\x7b" = true := by
  unfold placeholder? at h
  unfold Text.startsWith
  have hmark : "$\x7b".toList = ['$', '\x7b'] := by decide
  rw [hmark]
  cases hdrop : Text.dropPrefix? ['$', '\x7b'] s.toList with
  | none =>
    rw [hdrop] at h
    cases h
  | some cs => rfl

theorem Unresolved.isUnset (h : Unresolved env data key) :
    isUnset (comesTo env data key) = .ok true := by
  obtain ⟨name, hnames, hunset⟩ := h
  obtain ⟨s, hfield, hs⟩ := hnames.fieldOf_eq
  rw [comesTo, hnames.resolve_of_unset hunset, hfield, Connector.isUnset,
    truthy_text (ne_empty_of_placeholder hs), startsWith_of_placeholder hs]
  rfl

theorem exists_comesTo_eq_text (h : (fieldOf data key).asText?.isSome) (env : Environment) :
    ∃ s, comesTo env data key = .text s := by
  have htext : (comesTo env data key).asText?.isSome := by
    rw [comesTo, isSome_asText?_resolve]
    exact h
  unfold Value.asText? at htext
  split at htext
  · exact ⟨_, by assumption⟩
  · cases htext

theorem refused_of_unresolved {type : ConnectorType} (name : String)
    (htexts : ∀ key ∈ replacedFields type, (fieldOf data key).asText?.isSome)
    (hkey : key ∈ demandedFields data type) (h : Unresolved env data key) :
    Refused (check name (ofType env data type)) := by
  have hdemands : Refused (makeDemands name env data type) := by
    apply refused_forM
    · intro d hd
      have hreplaced : d.1 ∈ replacedFields type :=
        demandedFields_subset data type (mem_map_of_mem hd)
      obtain ⟨s, hs⟩ := exists_comesTo_eq_text (htexts d.1 hreplaced) env
      rw [hs]
      exact need_text name d.2 s
    · obtain ⟨d, hd, rfl⟩ := mem_map.mp hkey
      refine ⟨d, hd, ?_⟩
      rw [need_of_unset h.isUnset]
      simp
  obtain ⟨reason, hreason⟩ := hdemands
  exact ⟨reason, by rw [check_ofType, hreason]; rfl⟩

theorem not_unresolved_of_check {type : ConnectorType}
    (h : check name (ofType env data type) = .ok ()) :
    ∀ key ∈ demandedFields data type, ¬ Unresolved env data key := by
  rw [check_ofType] at h
  obtain ⟨_, hdemands, -⟩ := bind_eq_ok.mp h
  intro key hkey hunresolved
  obtain ⟨d, hd, rfl⟩ := mem_map.mp hkey
  have hfilled := isUnset_of_need (eq_ok_of_forM hdemands d hd)
  rw [hunresolved.isUnset] at hfilled
  cases hfilled

theorem ensures_load (path : Option Path) :
    Ensures (fun _ => True) (Warehouse.load path) fun config host =>
      ∃ fields, Warehouse.ofFields host.environment fields = .ok config := by
  have hlast : ∀ fields, Ensures (fun _ => True)
      (do Act.ofExcept (Warehouse.ofFields (← get).environment fields)) fun config host =>
        ∃ fields, Warehouse.ofFields host.environment fields = .ok config := by
    intro fields
    refine bind (R := Eq) (get fun _ _ => rfl) fun host => ?_
    refine ofExcept fun config host' hconfig hsame => ⟨fields, ?_⟩
    rw [← hsame, hconfig]
  refine after fun _ => ?_
  -- On the way there are two tests, of the file and of the document in it.
  cases path with
  | some path =>
    exact after fun _ => after fun _ => guard <|
      after fun _ => after fun _ => guard (after hlast)
  | none =>
    exact after fun _ => after fun _ => after fun _ => guard <|
      after fun _ => after fun _ => guard (after hlast)

theorem accepted_of_load {path : Option Path} {host host' : Host} {config : Warehouse.Config}
    (h : exec (Warehouse.load path) host = (.ok config, host')) :
    ∀ entry ∈ config.connectors, ∃ data type,
      entry.2 = ofType host'.environment data type ∧
        check entry.1.display (ofType host'.environment data type) = .ok () := by
  obtain ⟨fields, hfields⟩ := ensures_load path host config host' trivial h
  obtain ⟨connectors, hmap, hpure⟩ := bind_eq_ok.mp hfields
  cases hpure
  intro entry hentry
  obtain ⟨field, -, hfield⟩ := exists_of_mem_mapM hmap hentry
  obtain ⟨c, hc, hfield⟩ := bind_eq_ok.mp hfield
  obtain ⟨_, hcheck, hpure⟩ := bind_eq_ok.mp hfield
  cases hpure
  obtain ⟨data, type, -, -, rfl⟩ := exists_of_ofConfig hc
  exact ⟨data, type, rfl, hcheck⟩

/-- A check notices placeholders in the fields demanded and no others.  A placeholder that is left
in a field demanded is refused, whatever else the config holds; a check comes to the same in two
environments that give the fields demanded the same values, so that it never notices one that is
left in another field; and warehouses that were loaded have none left in the fields demanded. -/
theorem check_notices_demanded_only (name : String) (data : Fields) (type : ConnectorType)
    (htexts : ∀ key ∈ replacedFields type, (fieldOf data key).asText?.isSome) :
    (∀ env, (∃ key ∈ demandedFields data type, Unresolved env data key) →
      ∃ reason, check name (ofType env data type) = .error (.refused reason)) ∧
    (∀ env env', (∀ key ∈ demandedFields data type, comesTo env data key = comesTo env' data key) →
      check name (ofType env data type) = check name (ofType env' data type)) ∧
    (∀ path host config host', exec (Warehouse.load path) host = (.ok config, host') →
      ∀ entry ∈ config.connectors, ∃ data type, entry.2 = ofType host'.environment data type ∧
        ∀ key ∈ demandedFields data type, ¬ Unresolved host'.environment data key) := by
  refine ⟨?_, ?_, ?_⟩
  · rintro env ⟨key, hkey, hunresolved⟩
    exact refused_of_unresolved name htexts hkey hunresolved
  · intro env env' hsame
    rw [check_ofType, check_ofType]
    have hdemands : makeDemands name env data type = makeDemands name env' data type := by
      refine forM_congr fun d hd => ?_
      rw [hsame d.1 (mem_map_of_mem hd)]
    rw [hdemands]
  · intro path host config host' hload entry hentry
    obtain ⟨data, type, heq, hcheck⟩ := accepted_of_load hload entry hentry
    exact ⟨data, type, heq, not_unresolved_of_check hcheck⟩

def shopConfig (host password : String) : Fields :=
  [(.text "type", .text "postgres"), (.text "host", .text host), (.text "user", .text "me"),
    (.text "password", .text password), (.text "database", .text "shop")]

/-- A host that comes from a variable which is not set is refused. -/
theorem check_notices_demanded_only_host :
    (∀ key ∈ replacedFields .postgres,
      (fieldOf (shopConfig "$\x7bDB_HOST\x7d" "secret") key).asText?.isSome) ∧
    Unresolved {} (shopConfig "$\x7bDB_HOST\x7d" "secret") "host" ∧
    ∃ reason, check "shop" (ofType {} (shopConfig "$\x7bDB_HOST\x7d" "secret") .postgres) =
      .error (.refused reason) := by
  have htexts : ∀ key ∈ replacedFields .postgres,
      (fieldOf (shopConfig "$\x7bDB_HOST\x7d" "secret") key).asText?.isSome := by decide
  have hhost : Unresolved {} (shopConfig "$\x7bDB_HOST\x7d" "secret") "host" :=
    ⟨"DB_HOST", ⟨_, rfl, by decide⟩, rfl⟩
  exact ⟨htexts, hhost,
    (check_notices_demanded_only "shop" _ .postgres htexts).1 {} ⟨"host", by decide, hhost⟩⟩

/-- A password that comes from a variable which is not set is accepted, and the placeholder itself
is handed on as the password. -/
theorem ofFields_accepts_unresolved_password :
    "password" ∈ replacedFields .postgres ∧
    Unresolved {} (shopConfig "localhost" "$\x7bDB_PASSWORD\x7d") "password" ∧
    Warehouse.ofFields {} [(.text "shop", .dict (shopConfig "localhost" "$\x7bDB_PASSWORD\x7d"))] =
      .ok ⟨[(.text "shop",
        ofType {} (shopConfig "localhost" "$\x7bDB_PASSWORD\x7d") .postgres)]⟩ ∧
    kernelVariables (ofType {} (shopConfig "localhost" "$\x7bDB_PASSWORD\x7d") .postgres) =
      [(.text "DB_PASSWORD", .text "$\x7bDB_PASSWORD\x7d")] :=
  ⟨by decide, ⟨"DB_PASSWORD", ⟨_, rfl, by decide⟩, rfl⟩, rfl, rfl⟩

end SkillKit.Connector
