import SkillKit.Review.Runs

/-!
# The previous iteration

What was said about the runs of an earlier workspace, and what they had put out.  Feedback that
is blank does not count, and of several reviews of a run the last one does.
-/

namespace SkillKit.Review

open Text

structure Earlier where
  feedback : Value
  outputs : List Output

def Earlier.toValue (e : Earlier) : Value :=
  .object [("feedback", e.feedback), ("outputs", .list (e.outputs.map (·.toValue)))]

def addReview (feedback : Fields) (review : Value) : Except Fault Fields := do
  let text ← (← review.lookupD "feedback" (.text "")).textFor "strip"
  if (strip text).isEmpty then return feedback
  match ← review.entry "run_id" with
  | .atom id => return Fields.put feedback id (.text text)
  | _ => throw .wrongKind

def feedbackIn (data : Value) : Except Fault Fields := do
  (← (← data.lookupD "reviews" (.list [])).parts).foldlM addReview []

def feedbackFile (workspace : Path) : Path :=
  workspace.child "feedback.json"

def loadFeedback (workspace : Path) : Act Fields := do
  match ← loadJson? (feedbackFile workspace) with
  | none => return []
  | some data =>
    match feedbackIn data with
    | .ok feedback => return feedback
    | .error (.missingKey _) => return []
    | .error f => throw f

/-- Feedback and outputs by run: first the runs of the workspace, then others that were
reviewed. -/
def earlierOf (runs : List Run) (feedback : Fields) : List (Atom × Earlier) :=
  let set (found : List (Atom × Earlier)) (id : Atom) (e : Earlier) : List (Atom × Earlier) :=
    if found.any (·.1.same id) then found.map fun f => if f.1.same id then (f.1, e) else f
    else found ++ [(id, e)]
  let found := runs.foldl (fun found r =>
    set found (.text r.id) ⟨(Fields.get? feedback r.id).getD (.text ""), r.outputs⟩) []
  feedback.foldl (fun found (id, text) =>
    if found.any (·.1.same id) then found else found ++ [(id, ⟨text, []⟩)]) found

def loadPrevious (workspace : Path) : Act (List (Atom × Earlier)) := do
  let feedback ← loadFeedback workspace
  let runs ← loadRuns workspace
  return earlierOf runs feedback

def earlierValue (earlier : List (Atom × Earlier)) : Value :=
  .dict (earlier.map fun (id, e) => (id, e.toValue))

end SkillKit.Review
