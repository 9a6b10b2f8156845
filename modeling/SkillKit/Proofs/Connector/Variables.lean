import SkillKit.Proofs.Connector.Config
import SkillKit.Proofs.Connector.Reads

/-!
# Variables that are set for the code

When every placeholder of a config has a value, what the code reads is set to the value that it has in
the environment, and nothing is set that no placeholder names (`kernelVariables_supply_code`).
-/

namespace SkillKit.Connector

open List Fields

variable {type : ConnectorType}

/-- Every placeholder of the config names a variable that has a value. -/
def AllSet (env : Environment) (data : Fields) : Prop :=
  ∀ key name, Names data key name → ∃ value, env.get? name = some value ∧ value ≠ ""

/-- A field sets a variable that a placeholder of the config names to its value. -/
def Supplied (env : Environment) (data : Fields) (f : Atom × Value) : Prop :=
  ∃ key name value, Names data key name ∧ env.get? name = some value ∧
    f = (.text name, .text value)

def bindingOf (env : Environment) (data : Fields) (key : String) : Fields :=
  binding (resolve env (fieldOf data key)).2 (resolve env (fieldOf data key)).1

section Supply

variable {env : Environment} {data fs more : Fields} {key name : String}

theorem Names.bindingOf_eq (h : Names data key name) (hset : AllSet env data) :
    ∃ value, env.get? name = some value ∧
      bindingOf env data key = [(.text name, .text value)] := by
  obtain ⟨value, hvalue, hne⟩ := hset key name h
  obtain ⟨s, _, hs⟩ := h
  refine ⟨value, hvalue, ?_⟩
  have hname := name_ne_empty hs
  simp [bindingOf, Names.resolve_of_set ⟨s, ‹_›, hs⟩ hvalue hne, binding, truthy_text hne, hname]

theorem supplied_bindingOf (hset : AllSet env data) (key : String) :
    (∀ f ∈ bindingOf env data key, Supplied env data f) ∧
      ∀ name ∈ (resolve env (fieldOf data key)).2,
        Atom.text name ∈ (bindingOf env data key).map (·.1) := by
  cases hvar : (resolve env (fieldOf data key)).2 with
  | none => simp [bindingOf, hvar, binding]
  | some name =>
    have hnames := names_of_resolve hvar
    obtain ⟨value, hvalue, hbinding⟩ := hnames.bindingOf_eq hset
    rw [hbinding]
    refine ⟨?_, by simp⟩
    rintro f hf
    obtain rfl := mem_singleton.1 hf
    exact ⟨key, name, value, hnames, hvalue, rfl⟩

theorem supplied_put {k : Atom} {v : Value} (hfs : ∀ f ∈ fs, Supplied env data f)
    (hkv : Supplied env data (k, v)) :
    (∀ f ∈ put fs k v, Supplied env data f) ∧
      ∀ a ∈ k :: fs.map (·.1), a ∈ (put fs k v).map (·.1) := by
  induction fs with
  | nil => simpa [put] using hkv
  | cons f rest ih =>
    obtain ⟨hput, hkeys⟩ := ih fun g hg => hfs g (mem_cons_of_mem _ hg)
    obtain ⟨_, n, w, hn, hw, rfl⟩ := hfs f mem_cons_self
    obtain ⟨_, m, u, hm, hu, heq⟩ := hkv
    cases heq
    have hsame : (Atom.text n).same (.text m) = (n == m) := rfl
    by_cases hnm : n = m
    · subst hnm
      simp only [put, hsame, beq_self_eq_true]
      refine ⟨?_, by simp⟩
      rintro g hg
      rcases mem_cons.1 hg with rfl | hg
      · exact ⟨_, n, u, hm, hu, rfl⟩
      · exact hfs g (mem_cons_of_mem _ hg)
    · simp only [put, hsame, beq_eq_false_iff_ne.2 hnm]
      refine ⟨?_, ?_⟩
      · rintro g hg
        rcases mem_cons.1 hg with rfl | hg
        · exact ⟨_, n, w, hn, hw, rfl⟩
        · exact hput g hg
      · intro a ha
        have hrest : a = .text n ∨ a ∈ Atom.text m :: rest.map (·.1) := by
          simp only [map_cons, mem_cons] at ha ⊢
          tauto
        rcases hrest with rfl | hrest
        · exact mem_cons_self
        · exact mem_cons_of_mem _ (hkeys a hrest)

theorem supplied_merge (h : ∀ f ∈ fs ++ more, Supplied env data f) :
    (∀ f ∈ merge fs more, Supplied env data f) ∧
      ∀ a ∈ (fs ++ more).map (·.1), a ∈ (merge fs more).map (·.1) := by
  induction more generalizing fs with
  | nil => simpa [Fields.merge] using h
  | cons f rest ih =>
    have hfs : ∀ g ∈ fs, Supplied env data g := fun g hg => h g (mem_append_left _ hg)
    obtain ⟨hput, hkeys⟩ := supplied_put hfs (h f (by simp))
    have hall : ∀ g ∈ put fs f.1 f.2 ++ rest, Supplied env data g := by
      intro g hg
      rcases mem_append.1 hg with hg | hg
      · exact hput g hg
      · exact h g (by simp [hg])
    obtain ⟨hmerge, hkept⟩ := ih hall
    refine ⟨hmerge, fun a ha => hkept a ?_⟩
    rw [map_append, mem_append]
    have hcases : a ∈ f.1 :: fs.map (·.1) ∨ a ∈ rest.map (·.1) := by
      simp only [map_append, map_cons, mem_append, mem_cons] at ha ⊢
      tauto
    exact hcases.imp_left (hkeys a)

theorem get?_of_supplied (hfs : ∀ f ∈ fs, Supplied env data f)
    (hname : Atom.text name ∈ fs.map (·.1)) :
    ∃ value, env.get? name = some value ∧ get? fs name = some (.text value) := by
  unfold get? lookup?
  cases hfind : find? (fun f => f.1.same (.text name)) fs with
  | none =>
    obtain ⟨f, hf, hkey⟩ := mem_map.1 hname
    have hdiffers := find?_eq_none.1 hfind f hf
    rw [hkey] at hdiffers
    exact absurd (beq_self_eq_true name) hdiffers
  | some f =>
    obtain ⟨_, n, value, _, hvalue, rfl⟩ := hfs f (mem_of_find?_eq_some hfind)
    have hsame := find?_some hfind
    obtain rfl : n = name := eq_of_beq hsame
    exact ⟨value, hvalue, rfl⟩

/-- The fields whose variables are set for the code. -/
def boundFields : ConnectorType → List String
  | .snowflake => ["password", "private_key", "private_key_passphrase"]
  | .postgres => ["password"]
  | .bigquery => []
  | .byUrl => ["url"]

theorem merge_binding (name : Option String) (v : Value) :
    merge [] (binding name v) = binding name v := by
  unfold binding
  split
  · split <;> rfl
  · rfl

theorem kernelVariables_ofType (htype : type ≠ .bigquery) :
    kernelVariables (ofType env data type) =
      merge [] ((boundFields type).flatMap (bindingOf env data)) := by
  cases type with
  | snowflake =>
    simp only [boundFields, flatMap_cons, flatMap_nil, append_nil,
      ← append_assoc]
    rfl
  | postgres =>
    simp only [boundFields, flatMap_cons, flatMap_nil, append_nil]
    exact (merge_binding _ _).symm
  | bigquery => exact absurd rfl htype
  | byUrl =>
    simp only [boundFields, flatMap_cons, flatMap_nil, append_nil]
    exact (merge_binding _ _).symm

theorem exists_of_mem_variablesRead (h : name ∈ variablesRead (ofType env data type)) :
    ∃ key ∈ boundFields type, (resolve env (fieldOf data key)).2 = some name := by
  cases type with
  | snowflake =>
    simp only [ofType, variablesRead, mem_append] at h
    rcases h with h | h
    · split at h
      · rcases mem_append.1 h with h | h
        · split at h
          · cases h
          · exact ⟨"private_key", by decide, Option.mem_toList.1 h⟩
        · exact ⟨"private_key_passphrase", by decide, Option.mem_toList.1 h⟩
      · cases h
    · split at h
      · exact ⟨"password", by decide, Option.mem_toList.1 h⟩
      · cases h
  | postgres => exact ⟨"password", by decide, Option.mem_toList.1 h⟩
  | bigquery => cases h
  | byUrl => exact ⟨"url", by decide, Option.mem_toList.1 h⟩

/-- Except for BigQuery, what is set for the code is what placeholders name, and holds all that the
code reads. -/
theorem supplied_kernelVariables (hset : AllSet env data) (htype : type ≠ .bigquery) :
    (∀ f ∈ kernelVariables (ofType env data type), Supplied env data f) ∧
      ∀ name ∈ variablesRead (ofType env data type),
        Atom.text name ∈ (kernelVariables (ofType env data type)).map (·.1) := by
  have hbound : ∀ f ∈ [] ++ (boundFields type).flatMap (bindingOf env data),
      Supplied env data f := by
    intro f hf
    obtain ⟨key, _, hf⟩ := mem_flatMap.1 hf
    exact (supplied_bindingOf hset key).1 f hf
  obtain ⟨hsupplied, hkeys⟩ := supplied_merge hbound
  rw [kernelVariables_ofType htype]
  refine ⟨hsupplied, fun name hname => hkeys _ ?_⟩
  obtain ⟨key, hkey, hvar⟩ := exists_of_mem_variablesRead hname
  obtain ⟨f, hf, hfst⟩ := mem_map.1 ((supplied_bindingOf hset key).2 name hvar)
  exact mem_map.2 ⟨f, mem_flatMap.2 ⟨key, hkey, hf⟩, hfst⟩

theorem fst_of_mem_kernelVariables {c : BigQuery} {f : Atom × Value}
    (h : f ∈ kernelVariables (.bigquery c)) :
    f.1 = .text "GOOGLE_APPLICATION_CREDENTIALS" := by
  simp only [kernelVariables, binding] at h
  split at h
  · rw [mem_singleton.1 h]
  · cases h

end Supply

/-- Code that connects, and the variables that are set for it, when every placeholder of the config
has a value.  The code reads variables in a fixed way and nowhere else does it look at the
environment, unless a value of the config does.  Each variable that it reads is set, to its value in
the environment.  Each variable that is set is one that a placeholder names, with its value; only
BigQuery also sets the path of the credentials. -/
theorem kernelVariables_supply_code {env : Environment} {data : Fields} {c : Connector}
    (h : ofConfig env (.dict data) = .ok c) (hset : AllSet env data) :
    (∀ code, connectionCode c = .ok code → Written c code (variablesRead c) ∧
      ∀ pre post, code.toList = pre ++ environ ++ post →
        (∃ name ∈ variablesRead c, ReadAt name pre post) ∨ InValue c pre post) ∧
    (∀ name ∈ variablesRead c, ∃ value, env.get? name = some value ∧
      Fields.get? (kernelVariables c) name = some (.text value)) ∧
    ∀ f ∈ kernelVariables c, Supplied env data f ∨
      c.type = .bigquery ∧ f.1 = .text "GOOGLE_APPLICATION_CREDENTIALS" := by
  obtain ⟨data', type, hdata, _, rfl⟩ := exists_of_ofConfig h
  cases hdata
  refine ⟨fun code hcode => ?_, ?_⟩
  · have hwritten := written_connectionCode hcode
    exact ⟨hwritten, fun pre post => hwritten.read_or_value⟩
  by_cases htype : type = .bigquery
  · subst htype
    exact ⟨by simp [ofType, variablesRead],
      fun f hf => .inr ⟨rfl, fst_of_mem_kernelVariables hf⟩⟩
  · obtain ⟨hsupplied, hread⟩ := supplied_kernelVariables hset htype
    exact ⟨fun name hname => get?_of_supplied hsupplied (hread name hname),
      fun f hf => .inl (hsupplied f hf)⟩

def keyConfig : Fields := [
  (.text "type", .text "snowflake"), (.text "account", .text "acme"), (.text "user", .text "me"),
  (.text "auth_type", .text "private_key"), (.text "private_key", .text "$\x7bKEY\x7d"),
  (.text "private_key_passphrase", .text "$\x7bKEY\x7d")]

/-- The variable is read in two places, and set once. -/
theorem kernelVariables_supply_code_key :
    AllSet ⟨[("KEY", "secret")]⟩ keyConfig ∧
    ∃ c, ofConfig ⟨[("KEY", "secret")]⟩ (.dict keyConfig) = .ok c ∧
      variablesRead c = ["KEY", "KEY"] ∧ kernelVariables c = [(.text "KEY", .text "secret")] ∧
      Fields.get? (kernelVariables c) "KEY" = some (.text "secret") := by
  have hset : AllSet ⟨[("KEY", "secret")]⟩ keyConfig := by
    rintro key name ⟨s, hget, hs⟩
    obtain ⟨f, hfind, hf⟩ := Option.map_eq_some_iff.1 hget
    have hfields : ∀ f ∈ keyConfig, (f.2.asText?.bind placeholder?).all (· == "KEY") = true := by
      decide
    have hname := hfields f (mem_of_find?_eq_some hfind)
    rw [hf] at hname
    simp only [Value.asText?, Option.bind_some, hs, Option.all_some, beq_iff_eq] at hname
    subst hname
    exact ⟨"secret", rfl, by decide⟩
  refine ⟨hset, _, rfl, rfl, rfl, ?_⟩
  obtain ⟨value, hvalue, hget⟩ :=
    (kernelVariables_supply_code (c := ofType ⟨[("KEY", "secret")]⟩ keyConfig .snowflake)
      rfl hset).2.1 "KEY" (by decide)
  cases hvalue
  exact hget

end SkillKit.Connector
