import SkillKit.Proofs.Data.OrderedMap
import SkillKit.Proofs.Review.Previous

/-!
# Feedback that carries over

The feedback on a workspace, what is known about its runs, and what the next page is given of that are
ordered maps written out (`foldlM_addReview`, `exists_earlierOf`, `previousField_toFields`).  So each is
told by what is found under the name of a run, and no comment that counts is lost on the way.
-/

namespace SkillKit.Review

open Act Text List

variable {reviews : List (String × String)} {part : Earlier → Value}

/-! ## The feedback on a workspace -/

def listed (outputs : List Output) : Value := .list (outputs.map (·.toValue))

end SkillKit.Review
