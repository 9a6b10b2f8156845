import SkillKit.Data.Number
import SkillKit.Optimize.Style

/-!
# The report page

A page shows every description that was tried in a row, with a mark for each query.  It is made
from a document of the optimisation, which may be edited by hand; `Page.ofValue` reads what the
page needs, and `Page.render` writes it.  Text of users is escaped in one place only, where a
piece of the page is written.
-/

namespace SkillKit.Optimize

open Text

/-! ## What a page shows -/

structure Column where
  query : String
  shouldTrigger : Bool
deriving Repr, DecidableEq

structure Cell where
  pass : Bool
  triggers : String
  runs : String
deriving Repr, DecidableEq

inductive Grade where
  | good
  | ok
  | bad
deriving Repr, DecidableEq

structure Score where
  correct : String
  runs : String
  grade : Grade
deriving Repr, DecidableEq

structure Row where
  iteration : String
  isBest : Bool
  train : Score
  test : Score
  description : String
  trainCells : List Cell
  testCells : List Cell
deriving Repr, DecidableEq

structure Summary where
  original : String
  best : String
  bestScore : String
  isTestScore : Bool
  iterations : String
  trainSize : String
  testSize : String
deriving Repr, DecidableEq

structure Page where
  refreshes : Bool
  skillName : String
  summary : Summary
  trainColumns : List Column
  testColumns : List Column
  rows : List Row
deriving Repr, DecidableEq

/-! ## Reading -/

namespace Page

def readQuery (outcome : Value) : Except Fault (Value × Bool) := do
  let query ← outcome.entry "query"
  return (query, (← outcome.lookupD "should_trigger" (.bool true)).truthy)

def trainResults (attempt : Value) : Except Fault Value := do
  attempt.lookupD "train_results" (← attempt.lookupD "results" (.list []))

def readQueries (attempt : Value) : Except Fault (List (Value × Bool) × List (Value × Bool)) := do
  let train ← (← (← trainResults attempt).parts).mapM readQuery
  let test ← attempt.lookupD "test_results" .null
  if !test.truthy then return (train, [])
  return (train, ← (← test.parts).mapM readQuery)

def escapable (v : Value) : Except Fault String :=
  v.textFor "replace"

def readColumn (q : Value × Bool) : Except Fault Column := do
  return ⟨← escapable q.1, q.2⟩

def readSummary (data : Value) : Except Fault Summary := do
  let isTestScore := (← data.lookupD "best_test_score" .null).truthy
  let original ← escapable (← data.lookupD "original_description" (.text "N/A"))
  let best ← escapable (← data.lookupD "best_description" (.text "N/A"))
  let bestScore ← data.lookupD "best_score" (.text "N/A")
  let iterations ← data.lookupD "iterations_run" (.int 0)
  let trainSize ← data.lookupD "train_size" (.text "?")
  let testSize ← data.lookupD "test_size" (.text "?")
  return { original, best, bestScore := bestScore.display, isTestScore
           iterations := iterations.display, trainSize := trainSize.display
           testSize := testSize.display }

def greaterBy (key : Value → Except Fault Value) (best : Value × Value) (item : Value) :
    Except Fault (Value × Value) := do
  let itemKey ← key item
  if ← Value.before best.2 itemKey then return (item, itemKey)
  return best

def greatestBy (key : Value → Except Fault Value) : List Value → Except Fault Value
  | [] => .error .unusable
  | first :: rest => do
    let start ← key first
    return (← rest.foldlM (greaterBy key) (first, start)).1

/-- What an attempt is ranked by: held out queries passed if there are any, else those learned
from. -/
def rankKey (hasTest : Bool) (attempt : Value) : Except Fault Value := do
  if hasTest then
    let n ← attempt.lookupD "test_passed" .null
    return if n.truthy then n else .int 0
  attempt.lookupD "train_passed" (← attempt.lookupD "passed" (.int 0))

def addRuns (counts : Number × Number) (o : Value) : Except Fault (Number × Number) := do
  let runs ← o.lookupD "runs" (.int 0)
  let triggers ← o.lookupD "triggers" (.int 0)
  let total ← counts.2.add (← Number.ofValue runs)
  let right ← if (← o.lookupD "should_trigger" (.bool true)).truthy
    then Number.ofValue triggers
    else do (← Number.ofValue runs).sub (← Number.ofValue triggers)
  return (← counts.1.add right, total)

def countRuns (results : Value) : Except Fault (Number × Number) := do
  (← results.parts).foldlM addRuns (.int 0, .int 0)

/-- The grade of right runs out of all runs: good from four fifths on, bad below a half. -/
def gradeOf (correct total : Number) : Except Fault Grade := do
  if !(Number.int 0).lessThan total then return .bad
  let ratio ← correct.div total
  return if ratio >= 0.8 then .good else if ratio >= 0.5 then .ok else .bad

def scoreOf (runs : Number × Number) : Except Fault Score := do
  return { correct := runs.1.toValue.display, runs := runs.2.toValue.display
           grade := ← gradeOf runs.1 runs.2 }

def putOutcome (fields : Fields) (o : Value) : Except Fault Fields := do
  match ← o.entry "query" with
  | .atom query => return Fields.put fields query o
  | _ => throw .wrongKind

def byQuery (results : Value) : Except Fault Fields := do
  (← results.parts).foldlM putOutcome []

def knownByQuery (results : Value) : Except Fault Fields :=
  if results.truthy then byQuery results else .ok []

/-- The outcome of a query; one that was not run has failed. -/
def readCell (outcomes : Fields) (column : Column) : Except Fault Cell := do
  let o := (Fields.get? outcomes column.query).getD (.dict [])
  let pass ← o.lookupD "pass" (.bool false)
  let triggers ← o.lookupD "triggers" (.int 0)
  let runs ← o.lookupD "runs" (.int 0)
  return ⟨pass.truthy, triggers.display, runs.display⟩

def readRow (best : Value) (trainColumns testColumns : List Column) (attempt : Value) :
    Except Fault Row := do
  let iteration ← attempt.lookupD "iteration" (.text "?")
  let description ← attempt.lookupD "description" (.text "")
  let trainOutcomes ← trainResults attempt
  let testOutcomes ← attempt.lookupD "test_results" (.list [])
  let trainByQuery ← byQuery trainOutcomes
  let testByQuery ← knownByQuery testOutcomes
  let trainRuns ← countRuns trainOutcomes
  let testRuns ← countRuns testOutcomes
  let train ← scoreOf trainRuns
  let test ← scoreOf testRuns
  let description ← escapable description
  let trainCells ← trainColumns.mapM (readCell trainByQuery)
  let testCells ← testColumns.mapM (readCell testByQuery)
  return { iteration := iteration.display, isBest := iteration.same best, train, test, description
           trainCells, testCells }

def readName (skillName : Value) : Except Fault String :=
  match skillName with
  | .text s => .ok s
  | v => if v.truthy then .error .wrongKind else .ok ""

def readFirst (history : Value) : Except Fault (List (Value × Bool) × List (Value × Bool)) := do
  if history.truthy then readQueries (← history.first) else return ([], [])

def ofValue (data : Value) (refreshes : Bool) (skillName : Value) : Except Fault Page := do
  let history ← data.lookupD "history" (.list [])
  let skillName ← readName skillName
  let queries ← readFirst history
  let summary ← readSummary data
  let trainColumns ← queries.1.mapM readColumn
  let testColumns ← queries.2.mapM readColumn
  let attempts ← history.parts
  let bestAttempt ← greatestBy (rankKey (!queries.2.isEmpty)) attempts
  let best ← bestAttempt.lookupD "iteration" .null
  let rows ← attempts.mapM (readRow best trainColumns testColumns)
  return { refreshes, skillName, summary, trainColumns, testColumns, rows }

end Page

/-! ## Writing -/

def escapeChar (c : Char) : List Char :=
  match c with
  | '&' => "&amp;".toList
  | '<' => "&lt;".toList
  | '>' => "&gt;".toList
  | '"' => "&quot;".toList
  | '\'' => "&#x27;".toList
  | c => [c]

def escape (s : String) : String :=
  String.ofList (s.toList.flatMap escapeChar)

inductive Piece where
  | markup (s : String)
  | text (s : String)
deriving Repr, DecidableEq

def Piece.render : Piece → String
  | .markup s => s
  | .text s => escape s

namespace Page

def title (p : Page) : List Piece :=
  (if p.skillName.isEmpty then [] else [.text (p.skillName ++ " — ")])
    ++ [.markup "Skill Description Optimization"]

def head (p : Page) : List Piece :=
  [.markup "<!DOCTYPE html>\n<html>\n<head>\n    <meta charset=\"utf-8\">\n",
    .markup (if p.refreshes then "    <meta http-equiv=\"refresh\" content=\"5\">\n" else ""),
    .markup "    <title>"]
  ++ p.title
  ++ [.markup "</title>
    <link rel=\"preconnect\" href=\"https://fonts.googleapis.com\">
    <link rel=\"preconnect\" href=\"https://fonts.gstatic.com\" crossorigin>
    <link href=\"https://fonts.googleapis.com/css2?family=Poppins:wght@500;600&family=Lora:wght@400;500&display=swap\" rel=\"stylesheet\">
    <style>
",
    .markup (String.join (reportStyle.map (·.render))),
    .markup "    </style>\n</head>\n<body>\n    <h1>"]
  ++ p.title
  ++ [.markup "</h1>
    <div class=\"explainer\">
        <strong>Optimizing your skill's description.</strong> This page updates automatically as Claude tests different versions of your skill's description. Each row is an iteration — a new description attempt. The columns show test queries: green checkmarks mean the skill triggered correctly (or correctly didn't trigger), red crosses mean it got it wrong. The \"Train\" score shows performance on queries used to improve the description; the \"Test\" score shows performance on held-out queries the optimizer hasn't seen. When it's done, Claude will apply the best-performing description to your skill.
    </div>
"]

def summaryPieces (s : Summary) : List Piece :=
  let kind := if s.isTestScore then "(test)" else "(train)"
  [.markup "\n    <div class=\"summary\">\n        <p><strong>Original:</strong> ",
    .text s.original,
    .markup "</p>\n        <p class=\"best\"><strong>Best:</strong> ",
    .text s.best,
    .markup s!"</p>\n        <p><strong>Best Score:</strong> {s.bestScore} {kind}</p>\n",
    .markup s!"        <p><strong>Iterations:</strong> {s.iterations} | ",
    .markup s!"<strong>Train:</strong> {s.trainSize} | ",
    .markup s!"<strong>Test:</strong> {s.testSize}</p>\n    </div>\n"]

def legendEntry (swatch label : String) : Piece :=
  .markup (s!"        <span class=\"legend-item\"><span class=\"legend-swatch {swatch}\"></span>"
    ++ s!" {label}</span>\n")

def legend : List Piece :=
  [.markup "\n    <div class=\"legend\">\n",
    .markup "        <span style=\"font-weight:600\">Query columns:</span>\n",
    legendEntry "swatch-positive" "Should trigger",
    legendEntry "swatch-negative" "Should NOT trigger",
    legendEntry "swatch-train" "Train",
    legendEntry "swatch-test" "Test",
    .markup "    </div>\n"]

def columnPieces (kind : String) (c : Column) : List Piece :=
  let polarity := if c.shouldTrigger then "positive-col" else "negative-col"
  [.markup s!"                <th class=\"{kind}{polarity}\">", .text c.query, .markup "</th>\n"]

def tableHead (p : Page) : List Piece :=
  [.markup "\n    <div class=\"table-container\">\n    <table>\n        <thead>\n            <tr>\n",
    .markup "                <th>Iter</th>\n                <th>Train</th>\n",
    .markup "                <th>Test</th>\n",
    .markup "                <th class=\"query-col\">Description</th>\n"]
  ++ p.trainColumns.flatMap (columnPieces "")
  ++ p.testColumns.flatMap (columnPieces "test-col ")
  ++ [.markup "            </tr>\n        </thead>\n        <tbody>\n"]

def gradeClass : Grade → String
  | .good => "score-good"
  | .ok => "score-ok"
  | .bad => "score-bad"

def scorePiece (s : Score) : Piece :=
  let grade := gradeClass s.grade
  .markup s!"                <td><span class=\"score {grade}\">{s.correct}/{s.runs}</span></td>\n"

def cellPiece (kind : String) (c : Cell) : Piece :=
  let (mark, style) := if c.pass then ("✓", "pass") else ("✗", "fail")
  .markup (s!"                <td class=\"result {kind}{style}\">{mark}"
    ++ s!"<span class=\"rate\">{c.triggers}/{c.runs}</span></td>\n")

def rowPieces (r : Row) : List Piece :=
  let style := if r.isBest then "best-row" else ""
  [.markup s!"            <tr class=\"{style}\">\n",
    .markup s!"                <td>{r.iteration}</td>\n",
    scorePiece r.train,
    scorePiece r.test,
    .markup "                <td class=\"description\">",
    .text r.description,
    .markup "</td>\n"]
  ++ r.trainCells.map (cellPiece "")
  ++ r.testCells.map (cellPiece "test-result ")
  ++ [.markup "            </tr>\n"]

def pieces (p : Page) : List Piece :=
  p.head ++ summaryPieces p.summary ++ legend ++ p.tableHead ++ p.rows.flatMap rowPieces
    ++ [.markup "        </tbody>\n    </table>\n    </div>\n", .markup "\n</body>\n</html>\n"]

def render (p : Page) : String :=
  String.join (p.pieces.map (·.render))

end Page

def pageOf (data : Value) (refreshes : Bool) (skillName : Value) : Except Fault String := do
  return (← Page.ofValue data refreshes skillName).render

end SkillKit.Optimize
