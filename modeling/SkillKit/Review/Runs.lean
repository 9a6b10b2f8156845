import SkillKit.Json.Reader
import SkillKit.Data.Number
import SkillKit.Review.Output

/-!
# Runs of a workspace

A run is a directory with a directory `outputs` in it.  Nothing is looked for below a run, nor
in directories that hold other things.  What a run was asked to do, and how it was graded, stands
in files in its directory or in the one above.
-/

namespace SkillKit.Review

open Text

/-! ## Finding runs -/

def skippedNames : List String := ["node_modules", ".git", "__pycache__", "skill", "inputs"]

def hasOutputs (entries : List (String × Tree)) : Bool :=
  entries.any fun e => e.1 == "outputs" && e.2.isDir

mutual

def runPathsBelow (revPath : List String) : Tree → List (List String)
  | .file _ => []
  | .dir entries =>
    if hasOutputs entries then [revPath.reverse] else runPathsOfEntries revPath entries

def runPathsOfEntries (revPath : List String) : List (String × Tree) → List (List String)
  | [] => []
  | (name, t) :: rest =>
    (if skippedNames.contains name then [] else runPathsBelow (name :: revPath) t)
      ++ runPathsOfEntries revPath rest

end

def pathBefore : List String → List String → Bool
  | [], _ => true
  | _ :: _, [] => false
  | a :: as, b :: bs => if a == b then pathBefore as bs else a < b

def runPaths (t : Tree) : List (List String) :=
  (runPathsBelow [] t).mergeSort pathBefore

/-! ## Reading a run -/

structure Run where
  id : String
  prompt : Value
  evalId : Value
  outputs : List Output
  grading : Value

def Run.toValue (r : Run) : Value :=
  .object [
    ("id", .text r.id),
    ("prompt", r.prompt),
    ("eval_id", r.evalId),
    ("outputs", .list (r.outputs.map (·.toValue))),
    ("grading", r.grading)]

/-- Files beside the outputs that tell about the run and are none of them. -/
def runFiles : List String := ["transcript.md", "user_notes.md", "metrics.json"]

def noPrompt : String := "(No prompt found)"

def loadJson? (file : Path) : Act (Option Value) := do
  if !(← Act.pathExists file) then return none
  match ← Act.result (do Act.ofExcept (Json.read (← Act.readText file))) with
  | .ok v => return some v
  | .error f => if f.isOutside || f.isBadJson then return none else throw f

def loadText? (file : Path) : Act (Option String) := do
  if !(← Act.pathExists file) then return none
  match ← Act.result (Act.readText file) with
  | .ok s => return some s
  | .error f => if f.isOutside then return none else throw f

/-- Prompt and evaluation from the first file that has a prompt, else from the last one. -/
def promptAndEval : List Path → (prompt evalId : Value) → Act (Value × Value)
  | [], prompt, evalId => return (prompt, evalId)
  | file :: rest, prompt, evalId => do
    let (prompt, evalId) ← match ← loadJson? file with
      | some metadata => do
        let prompt ← Act.ofExcept (metadata.lookupD "prompt" (.text ""))
        let evalId ← Act.ofExcept (metadata.lookupD "eval_id" .null)
        pure (prompt, evalId)
      | none => pure (prompt, evalId)
    if prompt.truthy then return (prompt, evalId)
    promptAndEval rest prompt evalId

/-- Whether a section of a transcript ends here: the next heading, or the end, which a line break
may precede. -/
def sectionEnds (cs : List Char) : Bool :=
  (dropPrefix? "\n##".toList cs).isSome || cs.isEmpty || cs == ['\n']

def sectionText : List Char → List Char
  | [] => []
  | c :: cs => if sectionEnds (c :: cs) then [] else c :: sectionText cs

def promptIn? (transcript : String) : Option String := do
  let (_, rest) ← cut? "## Eval Prompt\n\n" transcript
  return strip (String.ofList (sectionText rest.toList))

def promptFrom : List Path → (prompt : Value) → Act Value
  | [], prompt => return prompt
  | file :: rest, prompt => do
    let prompt := match (← loadText? file).bind promptIn? with
      | some s => .text s
      | none => prompt
    if prompt.truthy then return prompt
    promptFrom rest prompt

def gradingFrom : List Path → (grading : Value) → Act Value
  | [], grading => return grading
  | file :: rest, grading => do
    let grading := (← loadJson? file).getD grading
    if grading.truthy then return grading
    gradingFrom rest grading

def runId (path : List String) : String :=
  let p : Path := ⟨"", path⟩
  String.ofList (p.toString.toList.map fun c => if c == '/' || c == '\\' then '-' else c)

def loadOutputs (dir : Path) : Act (List Output) := do
  let files := (← Act.listDir dir).filter fun (name, t) => !t.isDir && !runFiles.contains name
  files.mapM fun (name, _) => loadOutput (dir.child name)

def loadRun (workspace : Path) (path : List String) : Act Run := do
  let dir := workspace.join ⟨"", path⟩
  let (prompt, evalId) ← promptAndEval
    [dir.child "eval_metadata.json", dir.parent.child "eval_metadata.json"] (.text "") .null
  let transcripts := [dir.child "transcript.md", (dir.child "outputs").child "transcript.md"]
  let prompt ← if prompt.truthy then pure prompt else promptFrom transcripts prompt
  let prompt := if prompt.truthy then prompt else .text noPrompt
  let outputs ← loadOutputs (dir.child "outputs")
  let grading ← gradingFrom [dir.child "grading.json", dir.parent.child "grading.json"] .null
  return { id := runId path, prompt, evalId, outputs, grading }

def Run.rank (r : Run) : Value :=
  .list [r.evalId, .text r.id]

def loadRuns (workspace : Path) : Act (List Run) := do
  let tree := ((← get).at? workspace).getD (.dir [])
  let runs ← (runPaths tree).mapM (loadRun workspace)
  Act.ofExcept (Value.sortBy Run.rank runs)

end SkillKit.Review
