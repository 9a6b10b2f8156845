import SkillKit.Data.Value
import SkillKit.Environment

/-!
# Placeholders for environment variables

A config value `${NAME}` stands for the value of the variable `NAME`.
-/

namespace SkillKit.Connector

open Text

/-- The variable that a text names: `${NAME}`, where one line break may follow. -/
def placeholder? (s : String) : Option String :=
  match dropPrefix? ['$', '{'] s.toList with
  | none => none
  | some cs =>
    let name := cs.takeWhile (· != '}')
    let rest := cs.dropWhile (· != '}')
    if !name.isEmpty && (rest == ['}'] || rest == ['}', '\n']) then some (String.ofList name)
    else none

/-- A config value with its placeholder replaced, unless that is unset or empty, and the variable
that it names. -/
def resolve (env : Environment) (v : Value) : Value × Option String :=
  match v with
  | .text s =>
    match placeholder? s with
    | some name =>
      match env.get? name with
      | some value => (if value.isEmpty then v else .text value, some name)
      | none => (v, some name)
    | none => (v, none)
  | _ => (v, none)

end SkillKit.Connector
