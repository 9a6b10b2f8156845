import SkillKit.Connector.Basic
import SkillKit.Proofs.Run

/-!
# Configs and the connectors that they describe

The type of a config picks a connector, and in some of its fields a placeholder is replaced by the
value of a variable.  Which variable that is does not hang on the environment (`resolve_snd`), and the
value hangs on it only if there is one (`resolve_of_none`).
-/

namespace SkillKit.Connector

variable {s name : String} {env : Environment} {v : Value}

/-- A field of a config, as connectors read it when it may hold a placeholder. -/
def fieldOf (data : Fields) (key : String) : Value :=
  (Fields.get? data key).getD (.text "")

/-- The field is a placeholder for the variable. -/
def Names (data : Fields) (key name : String) : Prop :=
  ∃ s, Fields.get? data key = some (.text s) ∧ placeholder? s = some name

/-- The type of connector that a config asks for. -/
def typeOf (data : Fields) : Except Fault ConnectorType :=
  ConnectorType.ofValue ((Fields.get? data "type").getD (.text "snowflake"))

def ofType (env : Environment) (data : Fields) : ConnectorType → Connector
  | .snowflake => .snowflake (.ofFields env data)
  | .postgres => .postgres (.ofFields env data)
  | .bigquery => .bigquery (.ofFields env data)
  | .byUrl => .byUrl (.ofFields env data)

theorem ofConfig_dict (env : Environment) (data : Fields) :
    ofConfig env (.dict data) = (typeOf data).map (ofType env data) := by
  change (typeOf data >>= _) = _
  cases typeOf data with
  | error f => rfl
  | ok type => cases type <;> rfl

theorem exists_of_ofConfig {config : Value} {c : Connector} (h : ofConfig env config = .ok c) :
    ∃ data type, config = .dict data ∧ typeOf data = .ok type ∧ c = ofType env data type := by
  cases config with
  | dict data =>
    rw [ofConfig_dict] at h
    cases htype : typeOf data with
    | error f =>
      rw [htype] at h
      cases h
    | ok type =>
      rw [htype] at h
      cases h
      exact ⟨data, type, rfl, htype, rfl⟩
  | atom a => cases h
  | list items => cases h
  | pair first second => cases h

/-! ## Placeholders -/

theorem resolve_of_none (h : (resolve env v).2 = none) : (resolve env v).1 = v := by
  revert h
  unfold resolve
  split
  · split
    · split <;> simp
    · simp
  · simp

theorem resolve_snd (env env' : Environment) (v : Value) :
    (resolve env v).2 = (resolve env' v).2 := by
  unfold resolve
  split
  · split
    · cases env.get? _ <;> cases env'.get? _ <;> rfl
    · rfl
  · rfl

theorem isSome_asText?_resolve (env : Environment) (v : Value) :
    (resolve env v).1.asText?.isSome = v.asText?.isSome := by
  unfold resolve
  split
  · split
    · split
      · split <;> rfl
      · rfl
    · rfl
  · rfl

/-- What a placeholder comes to: the value of its variable, unless that is unset or empty. -/
theorem resolve_placeholder (env : Environment) (h : placeholder? s = some name) :
    resolve env (.text s) =
      (.text (if (env.get? name).getD "" = "" then s else (env.get? name).getD ""), some name) := by
  unfold resolve
  simp only [h]
  cases env.get? name with
  | none => rfl
  | some value => by_cases hempty : value = "" <;> simp [hempty]

theorem ne_empty_of_placeholder (h : placeholder? s = some name) : s ≠ "" := by
  rintro rfl
  cases h

theorem name_ne_empty (h : placeholder? s = some name) : name ≠ "" := by
  unfold placeholder? at h
  split at h
  · cases h
  · dsimp only at h
    split at h
    · cases h
      simp_all
    · cases h

theorem exists_placeholder (h : (resolve env v).2 = some name) :
    ∃ s, v = .text s ∧ placeholder? s = some name := by
  unfold resolve at h
  split at h
  · rename_i s
    cases hplace : placeholder? s with
    | none => simp [hplace] at h
    | some other =>
      have hvar := congrArg Prod.snd (resolve_placeholder env hplace)
      exact ⟨s, rfl, hplace.trans (hvar.symm.trans h)⟩
  · cases h

theorem truthy_text (h : s ≠ "") : (Value.text s).truthy = true := by
  simpa [Value.truthy, Atom.truthy] using h

theorem truthy_resolve (env : Environment) (v : Value) :
    (resolve env v).1.truthy = v.truthy := by
  cases hvar : (resolve env v).2 with
  | none => rw [resolve_of_none hvar]
  | some name =>
    obtain ⟨s, rfl, hs⟩ := exists_placeholder hvar
    rw [resolve_placeholder env hs, truthy_text (ne_empty_of_placeholder hs)]
    apply truthy_text
    split
    · exact ne_empty_of_placeholder hs
    · assumption

section Names

variable {data : Fields} {key : String}

theorem Names.fieldOf_eq (h : Names data key name) :
    ∃ s, fieldOf data key = .text s ∧ placeholder? s = some name := by
  obtain ⟨s, hget, hs⟩ := h
  exact ⟨s, by rw [fieldOf, hget]; rfl, hs⟩

theorem Names.resolve_of_set (h : Names data key name) {value : String}
    (hvalue : env.get? name = some value) (hne : value ≠ "") :
    resolve env (fieldOf data key) = (.text value, some name) := by
  obtain ⟨s, hfield, hs⟩ := h.fieldOf_eq
  rw [hfield, resolve_placeholder env hs, hvalue]
  simp [hne]

theorem Names.resolve_of_unset (h : Names data key name) (hunset : (env.get? name).getD "" = "") :
    resolve env (fieldOf data key) = (fieldOf data key, some name) := by
  obtain ⟨s, hfield, hs⟩ := h.fieldOf_eq
  rw [hfield, resolve_placeholder env hs, if_pos hunset]

theorem names_of_resolve (h : (resolve env (fieldOf data key)).2 = some name) :
    Names data key name := by
  obtain ⟨s, hfield, hs⟩ := exists_placeholder h
  refine ⟨s, ?_, hs⟩
  unfold fieldOf at hfield
  cases hget : Fields.get? data key with
  | some v =>
    rw [hget] at hfield
    exact congrArg some hfield
  | none =>
    rw [hget] at hfield
    cases hfield
    cases hs

end Names

end SkillKit.Connector
