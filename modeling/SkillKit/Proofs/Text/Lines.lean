import SkillKit.Text.Basic
import Mathlib.Data.List.Basic
import Mathlib.Tactic.Common

/-!
# Ended and open lines

Whatever is added to a text, its ended lines stay and the open one is continued
(`endedLines_append`, `openLine_append`), so a reader may forget the ended lines as soon as it has
dealt with them.  Carriage returns end lines too, and are read as line feeds.
-/

namespace SkillKit.Text

open List

variable {sep : Char} {s : String}

/-! ## Pieces of a list of characters -/

section Pieces

variable {p : Char → Bool} {c : Char} {cs piece : List Char} {pieces : List (List Char)}

theorem splitWhen_eq (p : Char → Bool) (cs : List Char) : splitWhen p cs = cs.splitOnP p := by
  induction cs with
  | nil => rfl
  | cons c cs ih =>
    obtain ⟨piece, pieces, hpieces⟩ := exists_cons_of_ne_nil (splitOnP_ne_nil p cs)
    rw [splitWhen, ih, splitOnP_cons_eq_if_modifyHead, hpieces]
    cases p c <;> rfl

theorem splitWhen_ne_nil (p : Char → Bool) (cs : List Char) : splitWhen p cs ≠ [] := by
  rw [splitWhen_eq]
  exact splitOnP_ne_nil p cs

theorem splitWhen_cons_of_not (hc : p c = false) (h : splitWhen p cs = piece :: pieces) :
    splitWhen p (c :: cs) = (c :: piece) :: pieces := by
  rw [splitWhen, hc, h]

theorem splitWhen_cons_of_splits (hc : p c = true) :
    splitWhen p (c :: cs) = [] :: splitWhen p cs := by
  rw [splitWhen, hc]

theorem splitWhen_of_free (h : ∀ c ∈ cs, p c = false) : splitWhen p cs = [cs] := by
  rw [splitWhen_eq, splitOnP_eq_singleton h]

theorem splitWhen_append_splits (hc : p c = true) (a b : List Char) :
    splitWhen p (a ++ c :: b) = splitWhen p a ++ splitWhen p b := by
  rw [splitWhen_eq, splitOnP_append_cons a b hc, splitWhen_eq, splitWhen_eq]

theorem splitWhen_append_cons (h : ∀ d ∈ piece, p d = false) (hc : p c = true) (cs : List Char) :
    splitWhen p (piece ++ c :: cs) = piece :: splitWhen p cs := by
  rw [splitWhen_append_splits hc, splitWhen_of_free h]
  rfl

theorem pieces_induction {motive : List Char → Prop}
    (one : ∀ piece, (∀ d ∈ piece, p d = false) → motive piece)
    (more : ∀ piece c cs, (∀ d ∈ piece, p d = false) → p c = true → motive cs →
      motive (piece ++ c :: cs)) (cs : List Char) : motive cs := by
  have hmore : ∀ piece, (∀ d ∈ piece, p d = false) → motive (piece ++ cs) := by
    induction cs with
    | nil => simpa using one
    | cons c cs ih =>
      intro piece hpiece
      cases hc : p c with
      | true => exact more piece c cs hpiece hc (ih [] (by simp))
      | false =>
        rw [append_cons]
        exact ih _ (forall_mem_append.mpr ⟨hpiece, by simpa using hc⟩)
  exact hmore [] (by simp)

theorem splitWhen_append {b last : List Char} {front : List (List Char)}
    (h : splitWhen p cs = front ++ [last]) :
    splitWhen p (cs ++ b) = front ++ splitWhen p (last ++ b) := by
  induction cs using pieces_induction (p := p) generalizing front with
  | one piece hpiece =>
    rw [splitWhen_of_free hpiece] at h
    cases front with
    | nil =>
      cases h
      rfl
    | cons f front => simp at h
  | more piece c cs hpiece hc ih =>
    rw [splitWhen_append_cons hpiece hc] at h
    cases front with
    | nil => exact absurd (cons.inj h).2 (splitWhen_ne_nil p cs)
    | cons f front =>
      obtain ⟨rfl, hrest⟩ := cons.inj h
      rw [append_assoc, cons_append, splitWhen_append_cons hpiece hc, ih hrest]
      rfl

theorem splitWhen_pieces_free (h : piece ∈ splitWhen p cs) : ∀ c ∈ piece, p c = false := by
  induction cs using pieces_induction (p := p) with
  | one first hfirst =>
    rw [splitWhen_of_free hfirst, mem_singleton] at h
    exact h ▸ hfirst
  | more first c cs hfirst hc ih =>
    rw [splitWhen_append_cons hfirst hc, mem_cons] at h
    exact h.elim (fun h => h ▸ hfirst) ih

theorem infix_of_mem_splitWhen (h : piece ∈ splitWhen p cs) : piece <:+: cs := by
  induction cs using pieces_induction (p := p) with
  | one first hfirst =>
    rw [splitWhen_of_free hfirst, mem_singleton] at h
    exact h ▸ infix_rfl
  | more first c cs hfirst hc ih =>
    rw [splitWhen_append_cons hfirst hc, mem_cons] at h
    rcases h with rfl | h
    · exact (prefix_append _ _).isInfix
    · exact (ih h).trans ⟨first ++ [c], [], by simp⟩

theorem splitWhen_filter {q : Char → Bool} (h : ∀ c, p c = true → q c = true) (cs : List Char) :
    splitWhen p (cs.filter q) = (splitWhen p cs).map (filter q) := by
  have hfilter : ∀ piece : List Char, (∀ d ∈ piece, p d = false) →
      ∀ d ∈ piece.filter q, p d = false := fun _ hpiece d hd => hpiece d (mem_of_mem_filter hd)
  induction cs using pieces_induction (p := p) with
  | one piece hpiece =>
    rw [splitWhen_of_free hpiece, splitWhen_of_free (hfilter piece hpiece)]
    rfl
  | more piece c cs hpiece hc ih =>
    rw [filter_append, filter_cons_of_pos (h c hc), splitWhen_append_cons hpiece hc,
      splitWhen_append_cons (hfilter piece hpiece) hc, ih]
    rfl

theorem flatten_splitWhen (p : Char → Bool) (cs : List Char) :
    (splitWhen p cs).flatten = cs.filter (!p ·) := by
  have hfree : ∀ piece : List Char, (∀ d ∈ piece, p d = false) → piece.filter (!p ·) = piece :=
    fun piece hpiece => filter_eq_self.mpr (by simpa using hpiece)
  induction cs using pieces_induction (p := p) with
  | one piece hpiece => simp [splitWhen_of_free hpiece, hfree piece hpiece]
  | more piece c cs hpiece hc ih =>
    simp [splitWhen_append_cons hpiece hc, hfree piece hpiece, hc, ih]

theorem cutAt?_of_free (h : ∀ d ∈ piece, (d == c) = false) : cutAt? [c] piece = none := by
  induction piece with
  | nil => rfl
  | cons d piece ih =>
    obtain ⟨hd, hpiece⟩ := forall_mem_cons.mp h
    rw [BEq.comm] at hd
    simp [cutAt?, dropPrefix?, hd, ih hpiece]

theorem cutAt?_append_cons (h : ∀ d ∈ piece, (d == c) = false) (cs : List Char) :
    cutAt? [c] (piece ++ c :: cs) = some (piece, cs) := by
  induction piece with
  | nil => simp [cutAt?, dropPrefix?]
  | cons d piece ih =>
    obtain ⟨hd, hpiece⟩ := forall_mem_cons.mp h
    rw [BEq.comm] at hd
    simp [cutAt?, dropPrefix?, hd, ih hpiece]

theorem splitAround_char {fuel : Nat} (h : cs.length ≤ fuel) :
    splitAround [c] fuel cs = splitWhen (· == c) cs := by
  induction cs using pieces_induction (p := (· == c)) generalizing fuel with
  | one piece hpiece =>
    rw [splitWhen_of_free hpiece]
    cases fuel with
    | zero => rfl
    | succ fuel => rw [splitAround, cutAt?_of_free hpiece]
  | more piece d cs hpiece hd ih =>
    obtain rfl := beq_iff_eq.mp hd
    cases fuel with
    | zero => simp at h
    | succ fuel =>
      have hfuel : cs.length ≤ fuel := by
        rw [length_append, length_cons] at h
        omega
      rw [splitAround, cutAt?_append_cons hpiece, splitWhen_append_cons hpiece hd, ← ih hfuel]

theorem intercalate_nil (pieces : List (List Char)) : [].intercalate pieces = pieces.flatten := by
  induction pieces with
  | nil => rfl
  | cons piece pieces ih =>
    cases pieces with
    | nil => simp
    | cons next pieces =>
      rw [intercalate_cons_cons, ih]
      simp

theorem toList_replace_char (c : Char) (s : String) :
    (replace s (String.singleton c) "").toList = s.toList.filter (· != c) := by
  rw [replace, splitOnText, String.toList_singleton, splitAround_char (Nat.le_of_eq String.length_toList),
    String.toList_intercalate, String.toList_empty, intercalate_nil]
  simp [flatten_splitWhen, bne]

end Pieces

/-! ## Lines of a growing text -/

/-- The lines of a text that have ended, without their breaks. -/
def endedLines (s : String) : List String :=
  (splitOnChar '\n' s).dropLast

/-- What stands behind the last line break of a text. -/
def openLine (s : String) : String :=
  (splitOnChar '\n' s).getLast?.getD ""

theorem splitOnChar_eq (s : String) : splitOnChar '\n' s = endedLines s ++ [openLine s] := by
  have hne : splitOnChar '\n' s ≠ [] := by
    unfold splitOnChar
    simpa using splitWhen_ne_nil _ _
  unfold endedLines openLine
  rw [getLast?_eq_some_getLast hne]
  exact (dropLast_concat_getLast hne).symm

theorem splitWhen_toList (s : String) :
    splitWhen (· == '\n') s.toList =
      (endedLines s).map String.toList ++ [(openLine s).toList] := by
  have h := congrArg (map String.toList) (splitOnChar_eq s)
  unfold splitOnChar at h
  simpa [Function.comp_def] using h

theorem splitOnChar_append (a b : String) :
    splitOnChar '\n' (a ++ b) = endedLines a ++ splitOnChar '\n' (openLine a ++ b) := by
  unfold splitOnChar
  rw [String.toList_append, splitWhen_append (splitWhen_toList a), String.toList_append,
    map_append]
  simp [Function.comp_def]

theorem endedLines_append (a b : String) :
    endedLines (a ++ b) = endedLines a ++ endedLines (openLine a ++ b) := by
  conv => lhs; unfold endedLines
  rw [splitOnChar_append, splitOnChar_eq (openLine a ++ b), ← append_assoc,
    dropLast_concat]

theorem openLine_append (a b : String) : openLine (a ++ b) = openLine (openLine a ++ b) := by
  conv => lhs; unfold openLine
  rw [splitOnChar_append, splitOnChar_eq (openLine a ++ b), ← append_assoc,
    getLast?_concat]
  rfl

theorem openLine_free (s : String) : '\n' ∉ (openLine s).toList := by
  intro h
  have hmem : (openLine s).toList ∈ splitWhen (· == '\n') s.toList := by
    rw [splitWhen_toList]
    simp
  have := splitWhen_pieces_free hmem '\n' h
  simp at this

theorem splitOnChar_of_free (h : sep ∉ s.toList) : splitOnChar sep s = [s] := by
  have hfree : ∀ c ∈ s.toList, (c == sep) = false := by
    intro c hc
    simp only [beq_eq_false_iff_ne]
    rintro rfl
    exact h hc
  unfold splitOnChar
  rw [splitWhen_of_free hfree]
  simp

theorem endedLines_of_free (h : '\n' ∉ s.toList) : endedLines s = [] := by
  unfold endedLines
  rw [splitOnChar_of_free h]
  rfl

theorem splitOnChar_line {line : String} (h : sep ∉ line.toList) (s : String) :
    splitOnChar sep (line ++ String.singleton sep ++ s) = line :: splitOnChar sep s := by
  have hfree : ∀ c ∈ line.toList, (c == sep) = false := by
    intro c hc
    simp only [beq_eq_false_iff_ne]
    rintro rfl
    exact h hc
  have hsplit := splitWhen_append_cons hfree (beq_self_eq_true sep) s.toList
  unfold splitOnChar
  rw [String.toList_append, String.toList_append, String.toList_singleton, append_assoc,
    singleton_append, hsplit, map_cons, String.ofList_toList]

theorem splitOnChar_intercalate {parts : List String} (hne : parts ≠ [])
    (h : ∀ part ∈ parts, sep ∉ part.toList) :
    splitOnChar sep ((String.singleton sep).intercalate parts) = parts := by
  rw [splitOnChar, String.toList_intercalate, String.toList_singleton, splitWhen_eq,
    ← splitOn_eq_splitOnP, splitOn_intercalate sep (by simpa using h) (by simpa using hne)]
  simp

theorem endedLines_line {line : String} (h : '\n' ∉ line.toList) (s : String) :
    endedLines (line ++ "\n" ++ s) = line :: endedLines s := by
  have hne : splitOnChar '\n' s ≠ [] := by
    unfold splitOnChar
    simpa using splitWhen_ne_nil _ _
  unfold endedLines
  rw [show "\n" = String.singleton '\n' from rfl, splitOnChar_line h,
    dropLast_cons_of_ne_nil hne]

theorem endedLines_join {lines : List String} (h : ∀ line ∈ lines, '\n' ∉ line.toList) :
    endedLines (String.join (lines.map (· ++ "\n"))) = lines := by
  induction lines with
  | nil => exact endedLines_of_free (by simp)
  | cons line lines ih =>
    rw [map_cons, String.join_cons, endedLines_line (h line mem_cons_self),
      ih fun l hl => h l (mem_cons_of_mem _ hl)]

theorem openLine_of_free (h : '\n' ∉ s.toList) : openLine s = s := by
  unfold openLine
  rw [splitOnChar_of_free h]
  rfl

/-! ## Carriage returns -/

theorem unifyBreaks_of_free {cs : List Char} (h : '\r' ∉ cs) : unifyBreaks cs = cs := by
  induction cs with
  | nil => rfl
  | cons c cs ih =>
    rw [mem_cons, not_or] at h
    rw [unifyBreaks, ih h.2]
    · exact fun _ heq _ => h.1 heq.symm
    · exact fun heq => h.1 heq.symm

theorem not_mem_unifyBreaks (cs : List Char) : '\r' ∉ unifyBreaks cs := by
  fun_induction unifyBreaks cs with
  | case1 cs ih => simpa using ih
  | case2 cs _ ih => simpa using ih
  | case3 c cs _ hc ih =>
    rw [mem_cons, not_or]
    exact ⟨fun heq => hc heq.symm, ih⟩
  | case4 => simp

theorem unifyBreaks_append_cons {d : Char} (hreturn : d ≠ '\r') (hfeed : d ≠ '\n')
    (cs rest : List Char) :
    unifyBreaks (cs ++ d :: rest) = unifyBreaks cs ++ d :: unifyBreaks rest := by
  fun_induction unifyBreaks cs with
  | case1 cs ih => simpa [unifyBreaks] using ih
  | case2 cs hcs ih =>
    rw [cons_append, unifyBreaks, ih, cons_append]
    intro cs' heq
    cases cs with
    | nil => exact hfeed (cons.inj heq).1
    | cons c cs => exact hcs cs (by rw [(cons.inj heq).1])
  | case3 c cs _ hc ih =>
    rw [cons_append, unifyBreaks, ih, cons_append]
    · exact fun _ heq _ => hc heq
    · exact hc
  | case4 =>
    rw [nil_append, unifyBreaks, nil_append]
    · exact fun _ heq _ => hreturn heq
    · exact hreturn

end SkillKit.Text
