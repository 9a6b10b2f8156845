import SkillKit.Json.Writer
import SkillKit.Review.Previous

/-!
# The review page

The page is a template in which one mark is replaced by the data of the review.
-/

namespace SkillKit.Review

open Text

def dataMark : String := "/*__EMBEDDED_DATA__*/"

/-- The values under a key in the runs of the previous iteration, where they count. -/
def previousField (key : String) (previous : Fields) : Except Fault Fields :=
  previous.foldlM (fun found (id, data) => do
    let v ← data.lookupD key .null
    return if v.truthy then Fields.put found id v else found) []

def previousFields (previous : Value) : Except Fault Fields :=
  if previous.truthy then previous.fieldsFor "items" else .ok []

def reviewData (runs : Value) (skillName : String) (previous benchmark : Value) :
    Except Fault Value := do
  let earlier ← previousFields previous
  let feedback ← previousField "feedback" earlier
  let outputs ← previousField "outputs" earlier
  return .object ([
    ("skill_name", .text skillName),
    ("runs", runs),
    ("previous_feedback", .dict feedback),
    ("previous_outputs", .dict outputs)]
    ++ if benchmark.truthy then [("benchmark", benchmark)] else [])

def embedded (data : Value) : Except Fault String := do
  return s!"const EMBEDDED_DATA = {← Json.write data};"

def page (template : String) (runs : Value) (skillName : String) (previous benchmark : Value) :
    Except Fault String := do
  return replace template dataMark (← embedded (← reviewData runs skillName previous benchmark))

end SkillKit.Review
