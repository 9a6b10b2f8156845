import SkillKit.Knowledge.Calls

/-!
# Importing concepts from a table

A reference document lists concepts in a table of rows
`| concept | table | key column | date column |`, the last two columns being optional.
-/

namespace SkillKit.Knowledge

open Text

structure Row where
  concept : String
  table : String
  keyColumn : Option String
  dateColumn : Option String
deriving Repr, DecidableEq

def cell? (cs : List Char) : Option (List Char × List Char) :=
  match cs.dropWhile (· != '|') with
  | _ :: rest => some (cs.takeWhile (· != '|'), rest)
  | [] => none

def filledCell? (cs : List Char) : Option (List Char × List Char) :=
  match cell? cs with
  | some ([], _) => none
  | r => r

def cellText (cs : List Char) : String :=
  String.ofList (trim isBlank cs)

def optionalText (cs : List Char) : Option String :=
  let s := cellText cs
  if s.isEmpty then none else some s

/-- The row that starts at a bar at the start of a line, and what follows it.  Cells may run
over several lines. -/
def row? (cs : List Char) : Option (Row × List Char) := do
  let cs ← dropPrefix? ['|'] cs
  let (concept, cs) ← filledCell? cs
  let (table, cs) ← filledCell? cs
  match cell? cs with
  | none => some (⟨cellText concept, cellText table, none, none⟩, cs)
  | some (key, cs) =>
    match cell? cs with
    | none => some (⟨cellText concept, cellText table, optionalText key, none⟩, cs)
    | some (date, cs) =>
      some (⟨cellText concept, cellText table, optionalText key, optionalText date⟩, cs)

def nextLine? (cs : List Char) : Option (List Char) :=
  match cs.dropWhile (· != '\n') with
  | _ :: rest => some rest
  | [] => none

def rowsFrom : (fuel : Nat) → List Char → List Row
  | 0, _ => []
  | fuel + 1, cs =>
    match row? cs with
    | some (row, rest) =>
      row :: (match nextLine? rest with
        | some line => rowsFrom fuel line
        | none => [])
    | none =>
      match nextLine? cs with
      | some line => rowsFrom fuel line
      | none => []

def rows (text : String) : List Row :=
  rowsFrom (text.length + 1) text.toList

/-- Whether a row holds data: it is neither a header nor a separator, and its table has a
qualified name. -/
def Row.isData (r : Row) : Bool :=
  !r.concept.isEmpty && lower r.concept != "concept" && !contains r.concept "---"
    && !r.table.isEmpty && lower r.table != "table" && !contains r.table "---"
    && contains r.table "."

def columnValue : Option String → Value
  | some s => if s == "-" then .null else .text s
  | none => .null

def referencePaths (home : Path) : List Path :=
  [Path.ofString ".astro/warehouse.md",
    home.join (Path.ofString ".astro/agents/warehouse.md"),
    Path.ofString "warehouse.md"]

def firstExisting : List Path → Act (Option Path)
  | [] => return none
  | p :: ps => do
    if ← Act.pathExists p then return some p else firstExisting ps

def importConcepts (path : Option Path) : Act Nat := do
  let path ← match path with
    | some p => pure (some p)
    | none => firstExisting (referencePaths (← get).home)
  match path with
  | none => return 0
  | some path =>
    if !(← Act.pathExists path) then return 0
    else
      let data := (rows (← Act.readText path)).filter (·.isData)
      data.forM fun r => do
        discard <| learnConcept (.text r.concept) (.text r.table)
          (columnValue r.keyColumn) (columnValue r.dateColumn)
      return data.length

end SkillKit.Knowledge
