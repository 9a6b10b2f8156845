import SkillKit.Skill.Header
import SkillKit.Yaml.Reader

/-!
# Checking skills

The frontmatter of a skill is a YAML mapping with a name in kebab case, a plain description and
a few further keys.  The first problem found is told.
-/

namespace SkillKit.Skill

open Text

inductive Problem where
  | noMainFile
  | noFrontmatter
  | openFrontmatter
  | notMapping
  | badYaml
  | unexpectedKeys (keys : List String)
  | noName
  | noDescription
  | nameKind (kind : String)
  | nameCase (name : String)
  | nameHyphens (name : String)
  | nameLength (length : Nat)
  | descriptionKind (kind : String)
  | descriptionBrackets
  | descriptionLength (length : Nat)
  | compatibilityKind (kind : String)
  | compatibilityLength (length : Nat)
deriving Repr, DecidableEq, Inhabited

def allowedKeys : List String :=
  ["allowed-tools", "compatibility", "description", "license", "metadata", "name"]

def Problem.message : Problem → String
  | .noMainFile => "SKILL.md not found"
  | .noFrontmatter => "No YAML frontmatter found"
  | .openFrontmatter => "Invalid frontmatter format"
  | .notMapping => "Frontmatter must be a YAML dictionary"
  | .badYaml => "Invalid YAML in frontmatter"
  | .unexpectedKeys keys =>
    "Unexpected key(s) in SKILL.md frontmatter: " ++ ", ".intercalate keys
      ++ ". Allowed properties are: " ++ ", ".intercalate allowedKeys
  | .noName => "Missing 'name' in frontmatter"
  | .noDescription => "Missing 'description' in frontmatter"
  | .nameKind kind => s!"Name must be a string, got {kind}"
  | .nameCase name =>
    s!"Name '{name}' should be kebab-case (lowercase letters, digits, and hyphens only)"
  | .nameHyphens name =>
    s!"Name '{name}' cannot start/end with hyphen or contain consecutive hyphens"
  | .nameLength n => s!"Name is too long ({n} characters). Maximum is 64 characters."
  | .descriptionKind kind => s!"Description must be a string, got {kind}"
  | .descriptionBrackets => "Description cannot contain angle brackets (< or >)"
  | .descriptionLength n =>
    s!"Description is too long ({n} characters). Maximum is 1024 characters."
  | .compatibilityKind kind => s!"Compatibility must be a string, got {kind}"
  | .compatibilityLength n =>
    s!"Compatibility is too long ({n} characters). Maximum is 500 characters."

/-! ## Single fields -/

def isNameChar (c : Char) : Bool :=
  ('a' ≤ c && c ≤ 'z') || ('0' ≤ c && c ≤ '9') || c == '-'

/-- The problem with a name, blanks around it aside; an empty name has none. -/
def nameProblem? (name : String) : Option Problem :=
  let name := strip name
  if name.isEmpty then none
  else if !name.toList.all isNameChar then some (.nameCase name)
  else if startsWith name "-" || endsWith name "-" || contains name "--" then
    some (.nameHyphens name)
  else if 64 < name.length then some (.nameLength name.length)
  else none

def descriptionProblem? (description : String) : Option Problem :=
  let description := strip description
  if contains description "<" || contains description ">" then some .descriptionBrackets
  else if 1024 < description.length then some (.descriptionLength description.length)
  else none

def compatibilityProblem? (v : Value) : Option Problem :=
  if !v.truthy then none
  else match v with
    | .text s => if 500 < s.length then some (.compatibilityLength s.length) else none
    | v => some (.compatibilityKind v.kind)

/-! ## Whole frontmatters -/

/-- The keys of fields that are not allowed; keys that are no text cannot be told. -/
def unexpectedKeys (fields : Fields) : Except Fault (List String) :=
  let extra := fields.filterMap fun (k, _) =>
    if allowedKeys.any fun a => k.same (.text a) then none else some k
  (·.mergeSort (· ≤ ·)) <$> extra.mapM fun
    | .text s => .ok s
    | _ => .error .wrongKind

def frontmatterProblem? (data : Value) : Except Fault (Option Problem) := do
  match data with
  | .dict fields =>
    let extra ← unexpectedKeys fields
    if !extra.isEmpty then return some (.unexpectedKeys extra)
    match Fields.get? fields "name", Fields.get? fields "description" with
    | none, _ => return some .noName
    | some _, none => return some .noDescription
    | some (.text name), some (.text description) =>
      let compatibility := (Fields.get? fields "compatibility").getD (.text "")
      return (nameProblem? name).or
        ((descriptionProblem? description).or (compatibilityProblem? compatibility))
    | some (.text name), some v => return (nameProblem? name).or (some (.descriptionKind v.kind))
    | some v, some _ => return some (.nameKind v.kind)
  | _ => return some .notMapping

/-- The text between the first line `---` and the next `---` at the start of a line. -/
def frontmatter? (content : String) : Option String :=
  (dropPrefix? "---\n".toList content.toList).bind fun rest =>
    (cutAt? "\n---".toList rest).map fun (front, _) => String.ofList front

def contentProblem? (content : String) : Except Fault (Option Problem) :=
  if !startsWith content "---" then .ok (some .noFrontmatter)
  else match frontmatter? content with
    | none => .ok (some .openFrontmatter)
    | some text =>
      match Yaml.read text with
      | .ok data => frontmatterProblem? data
      | .error .badYaml => .ok (some .badYaml)
      | .error fault => .error fault

def problem? (dir : Path) : Act (Option Problem) := do
  if !(← Act.pathExists (mainFile dir)) then return some .noMainFile
  Act.ofExcept (contentProblem? (← Act.readText (mainFile dir)))

def verdict : Option Problem → String
  | none => "Skill is valid!"
  | some p => p.message

end SkillKit.Skill
