import SkillKit.Text.Basic

/-!
# Lines of a width

Words are put on a line as long as they fit, with the blanks that stand before them; a word that
does not fit on any line has one for itself.
-/

namespace SkillKit.Text

/-- The words of a text with the blanks before them; `gap` holds the blanks and `word` the word
that are open, from their ends. -/
def spacedFrom (gap word : List Char) : List Char → List (List Char × List Char)
  | [] => if word.isEmpty then [] else [(gap.reverse, word.reverse)]
  | c :: cs =>
    if !isBlank c then spacedFrom gap (c :: word) cs
    else if word.isEmpty then spacedFrom (c :: gap) [] cs
    else (gap.reverse, word.reverse) :: spacedFrom [c] [] cs

/-- Words on lines, given the open line; `width` bounds a line. -/
def fillLines (width : Nat) (line : List Char) : List (List Char × List Char) → List (List Char)
  | [] => if line.isEmpty then [] else [line]
  | (gap, w) :: ws =>
    if line.isEmpty then fillLines width w ws
    else if line.length + gap.length + w.length ≤ width then fillLines width (line ++ gap ++ w) ws
    else line :: fillLines width w ws

def wrapLines (width : Nat) (s : String) : List String :=
  (fillLines width [] (spacedFrom [] [] s.toList)).map String.ofList

end SkillKit.Text
