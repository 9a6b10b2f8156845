import SkillKit.Host

/-!
# The header of a skill

A skill is told by the file `SKILL.md`, whose first lines, between two lines `---`, name and
describe it.  The header is read line by line: the last line that starts with `name:` gives the
name, and the last that starts with `description:` the description.
-/

namespace SkillKit.Skill

open Text

structure Header where
  name : String
  description : String
  content : String
deriving Repr, DecidableEq, Inhabited

def unquoted (s : String) : String :=
  stripOf "'" (stripOf "\"" (strip s))

def isBlockMark (value : String) : Bool :=
  value == ">" || value == "|" || value == ">-" || value == "|-"

def isContinuation (line : String) : Bool :=
  startsWith line "  " || startsWith line "\t"

def valueAfter? (key line : String) : Option String :=
  if startsWith line key then some (dropChars key.length line) else none

def descriptionOf (value : String) (below : List String) : String :=
  let value := strip value
  if isBlockMark value then " ".intercalate ((below.takeWhile isContinuation).map strip)
  else stripOf "'" (stripOf "\"" value)

/-- Name and description after more lines of the header; in a block, the lines that continue it are
passed over. -/
def scanLines (name description : String) : (inBlock : Bool) → List String → String × String
  | _, [] => (name, description)
  | inBlock, line :: below =>
    if inBlock && isContinuation line then scanLines name description true below
    else match valueAfter? "name:" line with
      | some value => scanLines (unquoted value) description false below
      | none =>
        match valueAfter? "description:" line with
        | some value =>
          scanLines name (descriptionOf value below) (isBlockMark (strip value)) below
        | none => scanLines name description false below

def isFence (line : String) : Bool :=
  strip line == "---"

def readHeader (content : String) : Except Fault Header :=
  match splitOnChar '\n' content with
  | first :: rest =>
    if !isFence first then
      .error (.refused "SKILL.md missing frontmatter (no opening ---)")
    else if !rest.any isFence then
      .error (.refused "SKILL.md missing frontmatter (no closing ---)")
    else
      let (name, description) := scanLines "" "" false (rest.takeWhile (!isFence ·))
      .ok ⟨name, description, content⟩
  | [] => .error (.refused "SKILL.md missing frontmatter (no opening ---)")

def mainFile (dir : Path) : Path :=
  dir.child "SKILL.md"

def loadHeader (dir : Path) : Act Header := do
  Act.ofExcept (readHeader (← Act.readText (mainFile dir)))

end SkillKit.Skill
