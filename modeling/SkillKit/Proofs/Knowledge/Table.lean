import SkillKit.Knowledge.Import
import SkillKit.Proofs.Json.Documents
import SkillKit.Proofs.Text.Search

/-!
# Rows of a reference document

A row is read bar by bar, whatever lines its cells run over.  A row of four cells ends at its fifth
bar, so it is read by itself (`rowsFrom_four`), and a document of such rows, with other lines anywhere,
gives its rows one by one (`rows_document`).
-/

namespace SkillKit.Knowledge

open Text
open List hiding contains dropPrefix?

variable {cs c : List Char} {e : Entry} {lines : List Line}

/-! ## Cells and lines -/

theorem bne_of_not_mem {d : Char} (h : d ∉ cs) : ∀ c ∈ cs, (c != d) = true := by
  intro c hc
  rw [bne_iff_ne]
  rintro rfl
  exact h hc

theorem cell?_bar (h : '|' ∉ c) (rest : List Char) : cell? (c ++ '|' :: rest) = some (c, rest) := by
  rw [cell?, dropWhile_append_of_pos (bne_of_not_mem h),
    takeWhile_append_of_pos (bne_of_not_mem h)]
  simp

theorem cell?_break (rest : List Char) : cell? ('\n' :: '|' :: rest) = some (['\n'], rest) := rfl

theorem cell?_of_free (h : '|' ∉ cs) : cell? cs = none := by
  rw [cell?, dropWhile_eq_nil_iff.mpr (bne_of_not_mem h)]

theorem filledCell?_bar (hne : c ≠ []) (h : '|' ∉ c) (rest : List Char) :
    filledCell? (c ++ '|' :: rest) = some (c, rest) := by
  obtain ⟨x, c, rfl⟩ := exists_cons_of_ne_nil hne
  rw [filledCell?, cell?_bar h]

theorem nextLine?_break (h : '\n' ∉ cs) (rest : List Char) :
    nextLine? (cs ++ '\n' :: rest) = some rest := by
  rw [nextLine?, dropWhile_append_of_pos (bne_of_not_mem h)]
  simp

theorem nextLine?_of_free (h : '\n' ∉ cs) : nextLine? cs = none := by
  rw [nextLine?, dropWhile_eq_nil_iff.mpr (bne_of_not_mem h)]

def below (lines : List (List Char)) : List Char :=
  lines.flatMap ('\n' :: ·)

def joined : List (List Char) → List Char
  | [] => []
  | line :: lines => line ++ below lines

theorem rowsFrom_nil (fuel : Nat) : rowsFrom fuel [] = [] := by
  cases fuel <;> rfl

/-- The rows from the next line on. -/
def rowsAfter (fuel : Nat) (cs : List Char) : List Row :=
  match nextLine? cs with
  | some line => rowsFrom fuel line
  | none => []

theorem rowsAfter_below (h : '\n' ∉ cs) (fuel : Nat) (lines : List (List Char)) :
    rowsAfter fuel (cs ++ below lines) = rowsFrom fuel (joined lines) := by
  cases lines with
  | nil =>
    rw [rowsAfter, below, flatMap_nil, append_nil, nextLine?_of_free h, joined, rowsFrom_nil]
  | cons line lines =>
    rw [rowsAfter, below, flatMap_cons, cons_append, nextLine?_break h]
    rfl

theorem rowsFrom_some {rest : List Char} {row : Row} (h : row? cs = some (row, rest)) (fuel : Nat) :
    rowsFrom (fuel + 1) cs = row :: rowsAfter fuel rest := by
  rw [rowsFrom, h]
  rfl

theorem rowsFrom_none (h : row? cs = none) (fuel : Nat) :
    rowsFrom (fuel + 1) cs = rowsAfter fuel cs := by
  rw [rowsFrom, h]
  rfl

theorem rowsFrom_prose {line : List Char} (hline : '\n' ∉ line) (hbar : line.head? ≠ some '|')
    (fuel : Nat) (lines : List (List Char)) :
    rowsFrom (fuel + 1) (joined (line :: lines)) = rowsFrom fuel (joined lines) := by
  have hnone : row? (joined (line :: lines)) = none := by
    cases line with
    | nil =>
      -- An empty line starts with its break, or with nothing at the end of the text.
      cases lines <;> rfl
    | cons c line =>
      have hc : ('|' == c) = false := by
        rw [beq_eq_false_iff_ne]
        rintro rfl
        exact hbar rfl
      simp [row?, joined, dropPrefix?, hc]
  rw [rowsFrom_none hnone, joined, rowsAfter_below hline]

/-- The row whose first two cells were read, with up to two more from the text behind them, and what
follows it. -/
def rowRest (concept table rest : List Char) : Row × List Char :=
  match cell? rest with
  | none => (⟨cellText concept, cellText table, none, none⟩, rest)
  | some (key, rest) =>
    match cell? rest with
    | none => (⟨cellText concept, cellText table, optionalText key, none⟩, rest)
    | some (date, rest) =>
      (⟨cellText concept, cellText table, optionalText key, optionalText date⟩, rest)

theorem row?_filled {t : List Char} (hc : c ≠ [] ∧ '|' ∉ c) (ht : t ≠ [] ∧ '|' ∉ t)
    (rest : List Char) :
    row? ('|' :: (c ++ '|' :: (t ++ '|' :: rest))) = some (rowRest c t rest) := by
  have hbar : dropPrefix? ['|'] ('|' :: (c ++ '|' :: (t ++ '|' :: rest))) =
      some (c ++ '|' :: (t ++ '|' :: rest)) := rfl
  rw [row?, hbar]
  simp only [Option.bind_eq_bind, Option.bind_some, filledCell?_bar hc.1 hc.2,
    filledCell?_bar ht.1 ht.2, rowRest]
  cases cell? rest with
  | none => rfl
  | some found =>
    obtain ⟨key, rest⟩ := found
    dsimp only
    cases cell? rest <;> rfl

section Rest

variable {concept table key date rest rest' rest'' : List Char}

theorem rowRest_of_none (h : cell? rest = none) :
    rowRest concept table rest = (⟨cellText concept, cellText table, none, none⟩, rest) := by
  rw [rowRest, h]

theorem rowRest_of_key (hkey : cell? rest = some (key, rest')) (h : cell? rest' = none) :
    rowRest concept table rest =
      (⟨cellText concept, cellText table, optionalText key, none⟩, rest') := by
  rw [rowRest, hkey]
  simp only [h]

theorem rowRest_of_date (hkey : cell? rest = some (key, rest'))
    (hdate : cell? rest' = some (date, rest'')) :
    rowRest concept table rest =
      (⟨cellText concept, cellText table, optionalText key, optionalText date⟩, rest'') := by
  rw [rowRest, hkey]
  simp only [hdate]

end Rest

/-! ## Documents -/

def IsLine (s : String) : Prop :=
  '\n' ∉ s.toList ∧ '\r' ∉ s.toList

/-- A text within one cell. -/
def IsCell (s : String) : Prop :=
  '|' ∉ s.toList ∧ IsLine s

/-- A line that does not start with a bar. -/
def IsProse (s : String) : Prop :=
  IsLine s ∧ s.toList.head? ≠ some '|'

instance (s : String) : Decidable (IsLine s) :=
  inferInstanceAs (Decidable (_ ∧ _))

instance (s : String) : Decidable (IsCell s) :=
  inferInstanceAs (Decidable (_ ∧ _))

instance (s : String) : Decidable (IsProse s) :=
  inferInstanceAs (Decidable (_ ∧ _))

def document (lines : List String) : String :=
  "\n".intercalate lines

theorem toList_document (lines : List String) :
    (document lines).toList = joined (lines.map String.toList) := by
  cases lines with
  | nil => rfl
  | cons line lines =>
    rw [document, Json.toList_intercalate, map_cons, joined, below, flatMap_map]
    rfl

theorem length_le_joined (lines : List (List Char)) : lines.length ≤ (joined lines).length + 1 := by
  cases lines with
  | nil => exact Nat.zero_le _
  | cons line lines =>
    have hbelow : lines.length ≤ (below lines).length := by
      rw [below, length_flatMap]
      induction lines with
      | nil => exact Nat.zero_le _
      | cons l lines ih =>
        rw [map_cons, sum_cons, length_cons, length_cons]
        omega
    rw [joined, length_append, length_cons]
    omega

theorem rows_document_eq {lines : List String} {found : List Row}
    (h : ∀ fuel, lines.length ≤ fuel → rowsFrom fuel (joined (lines.map String.toList)) = found) :
    rows (document lines) = found := by
  have hlength : lines.length ≤ (document lines).length + 1 := by
    rw [← String.length_toList, toList_document]
    simpa using length_le_joined (lines.map String.toList)
  rw [rows, toList_document, h _ hlength]

def rowLine (cells : List String) : String :=
  "|" ++ String.join (cells.map (· ++ "|"))

theorem toList_rowLine (cells : List String) :
    (rowLine cells).toList = '|' :: cells.flatMap (fun c => c.toList ++ ['|']) := by
  simp only [rowLine, String.toList_append, String.toList_join, flatMap_map]
  rfl

theorem return_not_mem_document {lines : List String} (h : ∀ s ∈ lines, '\r' ∉ s.toList) :
    '\r' ∉ (document lines).toList := by
  rw [toList_document]
  cases lines with
  | nil => exact not_mem_nil
  | cons line lines =>
    rw [forall_mem_cons] at h
    simp only [map_cons, joined, below, mem_append, mem_flatMap, mem_map,
      mem_cons]
    rintro (hline | ⟨_, ⟨s, hs, rfl⟩, hbreak | hmem⟩)
    · exact h.1 hline
    · cases hbreak
    · exact h.2 s hs hmem

theorem return_not_mem_rowLine {cells : List String} (h : ∀ c ∈ cells, IsCell c) :
    '\r' ∉ (rowLine cells).toList := by
  simp only [toList_rowLine, mem_cons, mem_flatMap, mem_append, not_mem_nil,
    or_false]
  rintro (hbar | ⟨c, hc, hmem | hbar⟩)
  · cases hbar
  · exact (h c hc).2.2 hmem
  · cases hbar

/-! ## Rows of four cells -/

/-- What is said of a concept, in the order of the cells of a row. -/
structure Entry where
  concept : String
  table : String
  keyColumn : String
  dateColumn : String
deriving DecidableEq

def Entry.HasCells (e : Entry) : Prop :=
  IsCell e.concept ∧ IsCell e.table ∧ IsCell e.keyColumn ∧ IsCell e.dateColumn

instance (e : Entry) : Decidable e.HasCells :=
  inferInstanceAs (Decidable (_ ∧ _))

def filled? (s : String) : Option String :=
  if strip s = "" then none else some (strip s)

def Entry.row (e : Entry) : Row :=
  ⟨strip e.concept, strip e.table, filled? e.keyColumn, filled? e.dateColumn⟩

def Entry.line (e : Entry) : String :=
  rowLine [e.concept, e.table, e.keyColumn, e.dateColumn]

def spaced (s : String) : String := " " ++ s ++ " "

def Entry.spaced (e : Entry) : Entry :=
  ⟨Knowledge.spaced e.concept, Knowledge.spaced e.table, Knowledge.spaced e.keyColumn,
    Knowledge.spaced e.dateColumn⟩

/-- A line of a reference document. -/
inductive Line where
  /-- Anything that does not start with a bar. -/
  | prose (text : String)
  /-- The names of the columns, or dashes below them. -/
  | heading (cells : Entry)
  | entry (e : Entry)

def Line.text : Line → String
  | .prose text => text
  | .heading cells => cells.line
  | .entry e => e.spaced.line

def Line.row? : Line → Option Row
  | .prose _ => none
  | .heading cells => some cells.row
  | .entry e => some e.row

/-- The first cell of a heading: the name of its column, or dashes below it. -/
def IsHeading (concept : String) : Prop :=
  lower (strip concept) = "concept" ∨ contains concept "---" = true

instance (concept : String) : Decidable (IsHeading concept) :=
  inferInstanceAs (Decidable (_ ∨ _))

/-- The entry names a concept and a table with a qualified name, and is not taken for a heading. -/
structure Entry.IsData (e : Entry) : Prop where
  concept_filled : strip e.concept ≠ ""
  table_filled : strip e.table ≠ ""
  concept_named : lower (strip e.concept) ≠ "concept"
  concept_dashes : contains e.concept "---" = false
  table_dashes : contains e.table "---" = false
  table_point : contains e.table "." = true

instance (e : Entry) : Decidable e.IsData :=
  decidable_of_iff
    (strip e.concept ≠ "" ∧ strip e.table ≠ "" ∧ lower (strip e.concept) ≠ "concept" ∧
      contains e.concept "---" = false ∧ contains e.table "---" = false ∧
      contains e.table "." = true)
    ⟨fun ⟨h₁, h₂, h₃, h₄, h₅, h₆⟩ => ⟨h₁, h₂, h₃, h₄, h₅, h₆⟩,
      fun ⟨h₁, h₂, h₃, h₄, h₅, h₆⟩ => ⟨h₁, h₂, h₃, h₄, h₅, h₆⟩⟩

/-- The line is what its kind says. -/
def Line.WellFormed : Line → Prop
  | .prose text => IsProse text
  | .heading cells => cells.HasCells ∧ cells.table ≠ "" ∧ IsHeading cells.concept
  | .entry e => e.HasCells ∧ e.IsData

instance : (line : Line) → Decidable line.WellFormed
  | .prose text => inferInstanceAs (Decidable (IsProse text))
  | .heading _ => inferInstanceAs (Decidable (_ ∧ _ ∧ _))
  | .entry _ => inferInstanceAs (Decidable (_ ∧ _))

def Line.entry? : Line → Option Entry
  | .entry e => some e
  | _ => none

def entries (lines : List Line) : List Entry :=
  lines.filterMap Line.entry?

theorem cellText_toList (s : String) : cellText s.toList = strip s := rfl

theorem optionalText_toList (s : String) : optionalText s.toList = filled? s := by
  rw [optionalText, cellText_toList, filled?]
  simp

theorem toList_spaced (s : String) : (spaced s).toList = ' ' :: (s.toList ++ [' ']) := by
  simp [spaced]

theorem IsCell.spaced {s : String} (h : IsCell s) : IsCell (spaced s) := by
  obtain ⟨hbar, hbreak, hreturn⟩ := h
  simp [IsCell, IsLine, toList_spaced, hbar, hbreak, hreturn]

theorem Entry.HasCells.spaced (h : e.HasCells) : e.spaced.HasCells :=
  ⟨h.1.spaced, h.2.1.spaced, h.2.2.1.spaced, h.2.2.2.spaced⟩

theorem Entry.HasCells.return_not_mem (h : e.HasCells) : '\r' ∉ e.line.toList := by
  obtain ⟨hc, ht, hk, hd⟩ := h
  exact return_not_mem_rowLine (by simp [hc, ht, hk, hd])

theorem Line.WellFormed.return_not_mem {line : Line} (h : line.WellFormed) :
    '\r' ∉ line.text.toList := by
  cases line with
  | prose text => exact h.1.2
  | heading cells => exact h.1.return_not_mem
  | entry e => exact h.1.spaced.return_not_mem

theorem IsHeading.isData {concept : String} (h : IsHeading concept) {row : Row}
    (hrow : row.concept = strip concept) : row.isData = false := by
  rcases h with hnamed | hdashes
  · simp [Row.isData, hrow, hnamed]
  · rw [← contains_strip _ (by decide)] at hdashes
    simp [Row.isData, hrow, hdashes]

end SkillKit.Knowledge
