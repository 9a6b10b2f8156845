import SkillKit.Knowledge.Store

/-!
# Calls of the knowledge store

Learning, looking up, counting, deleting and clearing.  Every call loads the shelf that it
needs and saves it when it has changed it.
-/

namespace SkillKit.Knowledge

open Text Time

/-! ## Concepts -/

def lookupConcept (concept : Value) : Act Value := do
  let data ← load .concepts
  let fields ← Act.ofExcept (data.fieldsFor "get")
  let key ← Act.ofExcept (nameKeyOf concept)
  return (Fields.get? fields key).getD .null

def learnConcept (concept table keyColumn dateColumn : Value) : Act Value := do
  let data ← load .concepts
  let entry := conceptEntry table keyColumn dateColumn (← Act.now)
  let key ← Act.ofExcept (nameKeyOf concept)
  let data ← Act.ofExcept (data.store key entry)
  save .concepts data
  return entry

/-! ## Patterns -/

def lookupPattern (question : Value) : Act Value := do
  let data ← load .patterns
  let question ← Act.ofExcept (lower <$> question.textFor "lower")
  let fields ← Act.ofExcept (data.fieldsFor "items")
  let fitting ← Act.ofExcept (fittingPatterns question fields)
  let rank (p : Value) : Value := (p.field? "success_count").getD (.int 0)
  return .list (← Act.ofExcept (Value.sortByDown rank fitting))

def learnPattern (name questionTypes strategy tablesUsed gotchas exampleQuery : Value) :
    Act Value := do
  let data ← load .patterns
  let entry := patternEntry questionTypes strategy tablesUsed gotchas exampleQuery (← Act.now)
  let key ← Act.ofExcept (nameKeyOf name)
  let data ← Act.ofExcept (data.store key entry)
  save .patterns data
  return entry

def recordOutcome (name success : Value) : Act Value := do
  let data ← load .patterns
  let key ← Act.ofExcept (nameKeyOf name)
  if ← Act.ofExcept (data.holds key) then
    let (data, entry) ← Act.ofExcept (counted data key success.truthy)
    save .patterns data
    return entry
  else return .null

def deleteEntry (shelf : Shelf) (keyOf : Value → Except Fault String) (name : Value) :
    Act Bool := do
  let data ← load shelf
  let key ← Act.ofExcept (keyOf name)
  match ← Act.ofExcept (withoutKey data key) with
  | some data =>
    save shelf data
    return true
  | none => return false

def deletePattern : Value → Act Bool :=
  deleteEntry .patterns nameKeyOf

/-! ## Tables -/

def getTable (name : Value) : Act Value := do
  let data ← load .tables
  let fields ← Act.ofExcept (data.fieldsFor "get")
  let key ← Act.ofExcept (tableKeyOf name)
  return (Fields.get? fields key).getD .null

def setTable (name columns rowCount comment : Value) : Act Value := do
  let data ← load .tables
  let key ← Act.ofExcept (tableKeyOf name)
  let entry := tableEntry key columns rowCount comment (← Act.now)
  let data ← Act.ofExcept (data.store key entry)
  save .tables data
  return entry

def deleteTable : Value → Act Bool :=
  deleteEntry .tables tableKeyOf

/-! ## The store as a whole -/

structure Stats where
  concepts : Nat
  patterns : Nat
  staleConcepts : Nat
  stalePatterns : Nat
  directory : Path

def stats : Act Stats := do
  let concepts ← load .concepts
  let patterns ← load .patterns
  let now ← Act.now
  let concepts ← Act.ofExcept (concepts.fieldsFor "values")
  let staleConcepts ← Act.ofExcept (staleCount now .concepts concepts)
  let patterns ← Act.ofExcept (patterns.fieldsFor "values")
  let stalePatterns ← Act.ofExcept (staleCount now .patterns patterns)
  return ⟨concepts.length, patterns.length, staleConcepts, stalePatterns,
    storeOf (← get)⟩

def Stats.toValue (s : Stats) : Value :=
  .object [("concepts_count", .nat s.concepts), ("patterns_count", .nat s.patterns),
    ("stale_concepts", .nat s.staleConcepts), ("stale_patterns", .nat s.stalePatterns),
    ("cache_dir", .text s.directory.toString), ("ttl_days", .int lifetimeDays)]

def clearShelf (shelf : Shelf) (staleOnly : Bool) : Act Nat := do
  let data ← load shelf
  if staleOnly then
    let before ← Act.ofExcept data.size
    let fields ← Act.ofExcept (data.fieldsFor "items")
    let fresh ← Act.ofExcept (freshFields (← Act.now) shelf fields)
    save shelf (.dict fresh)
    return before - fresh.length
  else
    let count ← Act.ofExcept data.size
    save shelf (.dict [])
    return count

def clear (which : Value) (staleOnly : Bool) : Act (Nat × Nat) := do
  let concepts ←
    if which.isText "all" || which.isText "concepts" then clearShelf .concepts staleOnly
    else pure 0
  let patterns ←
    if which.isText "all" || which.isText "patterns" then clearShelf .patterns staleOnly
    else pure 0
  return (concepts, patterns)

end SkillKit.Knowledge
