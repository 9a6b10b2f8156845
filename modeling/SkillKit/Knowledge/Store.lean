import SkillKit.Host
import SkillKit.Json.Writer
import SkillKit.Text.LetterCase
import SkillKit.Time.Span

/-!
# The knowledge store

What has been learned about the warehouses lies in three JSON files of one directory: which
table holds a concept, which strategy answers a kind of question, and what the columns of a
table are.  Every entry lies under a key in normal form.
-/

namespace SkillKit.Knowledge

open Text Time

inductive Shelf where
  | concepts
  | patterns
  | tables
deriving Repr, DecidableEq

def Shelf.fileName : Shelf → String
  | .concepts => "concepts.json"
  | .patterns => "patterns.json"
  | .tables => "tables.json"

def storeDir (home : Path) : Path :=
  home.join (Path.ofString ".astro/ai/cache")

def storeOf (host : Host) : Path :=
  host.store.getD (storeDir host.home)

def Shelf.path (host : Host) (shelf : Shelf) : Path :=
  (storeOf host).child shelf.fileName

def load (shelf : Shelf) : Act Value := do
  let path := shelf.path (← get)
  if ← Act.pathExists path then
    Act.ofExcept (Json.read (← Act.readText path))
  else return .dict []

def save (shelf : Shelf) (data : Value) : Act Unit := do
  let host ← get
  Act.makeDirs (storeOf host)
  let text ← Act.ofExcept (Json.writeIn true (.indented 0) data)
  Act.writeText (shelf.path host) text

def nameKey (name : String) : String :=
  strip (lower name)

def tableKey (name : String) : String :=
  upper name

def nameKeyOf (name : Value) : Except Fault String :=
  nameKey <$> name.textFor "lower"

def tableKeyOf (name : Value) : Except Fault String :=
  tableKey <$> name.textFor "upper"

/-! ## Changes of a shelf, apart from files -/

def withoutKey (data : Value) (key : String) : Except Fault (Option Value) := do
  if ← data.holds key then
    match data with
    | .dict fields => return some (.dict (Fields.erase fields (.text key)))
    | _ => throw .wrongKind
  else return none

def conceptEntry (table keyColumn dateColumn : Value) (learned : Stamp) : Value :=
  .object [("table", table), ("key_column", keyColumn), ("date_column", dateColumn),
    ("learned_at", .text learned.iso)]

def patternEntry (questionTypes strategy tablesUsed gotchas exampleQuery : Value) (created : Stamp) :
    Value :=
  .object [("question_types", questionTypes), ("strategy", strategy),
    ("tables_used", tablesUsed), ("gotchas", gotchas), ("example_query", exampleQuery),
    ("created_at", .text created.iso), ("success_count", .int 1), ("failure_count", .int 0)]

def tableEntry (key : String) (columns rowCount comment : Value) (cached : Stamp) : Value :=
  .object [("full_name", .text key), ("columns", columns), ("row_count", rowCount),
    ("comment", comment), ("cached_at", .text cached.iso)]

def counted (data : Value) (key : String) (success : Bool) : Except Fault (Value × Value) := do
  let counter := if success then "success_count" else "failure_count"
  let entry ← data.entry key
  let count ← (← entry.lookupD counter (.int 0)).plus (.int 1)
  let entry ← entry.store counter count
  return (← data.store key entry, entry)

/-! ## Age of entries -/

def lifetimeDays : Int := 90

/-- Whether a time is more than a span before now.  What is no time is never stale, and neither
is a time with an offset, as it cannot be compared with now. -/
def isStale (now : Stamp) (learned : Value) (days : Value) : Except Fault Bool :=
  match learned with
  | .text s =>
    match Stamp.ofIso? s with
    | some t =>
      match t.offset, Number.ofValue? days with
      | none, some n =>
        match daysSpan n with
        | .ok span => .ok (decide (span < now.wall - t.wall))
        | .error .unusable => .ok false
        | .error f => .error f
      | _, _ => .ok false
    | none => .ok false
  | _ => .ok false

def entryIsStale (now : Stamp) (timeKey : String) (entry : Value) : Except Fault Bool := do
  isStale now (← entry.lookupD timeKey (.text "")) (.int lifetimeDays)

def Shelf.timeKey : Shelf → String
  | .concepts => "learned_at"
  | .patterns => "created_at"
  | .tables => "cached_at"

def staleCount (now : Stamp) (shelf : Shelf) (fields : Fields) : Except Fault Nat := do
  let stale ← fields.filterM fun f => entryIsStale now shelf.timeKey f.2
  return stale.length

def freshFields (now : Stamp) (shelf : Shelf) (fields : Fields) : Except Fault Fields :=
  fields.filterM fun f => return !(← entryIsStale now shelf.timeKey f.2)

/-! ## Questions and patterns -/

/-- Whether a question is of a kind: every word of the kind of more than two letters, the
letter x left out, stands in the question. -/
def questionMatches (question kind : String) : Bool :=
  let keywords := words (replace (lower kind) "x" "")
  (keywords.filter (2 < ·.length)).all (contains question ·)

/-- Whether some kind of question of a pattern fits; kinds are looked at in turn until one
does. -/
def anyMatches (question : String) : List Value → Except Fault Bool
  | [] => .ok false
  | kind :: kinds => do
    if questionMatches question (← kind.textFor "lower") then return true
    else anyMatches question kinds

def fittingPatterns (question : String) : Fields → Except Fault (List Value)
  | [] => .ok []
  | (name, pattern) :: rest => do
    let kinds ← (← pattern.lookupD "question_types" (.list [])).parts
    let fits ← anyMatches question kinds
    let pattern ← pattern.fieldsFor "keys"
    let others ← fittingPatterns question rest
    if fits then
      return .dict (Fields.merge [(.text "name", .atom name)] pattern) :: others
    else return others

end SkillKit.Knowledge
