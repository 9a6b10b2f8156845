import SkillKit.Proofs.Knowledge.Table

/-!
# Rows that lack cells

A row of two or three cells goes on for the cells that it lacks: the bar that starts the next line ends
one of them.  So it is read together with the row on the next line, which is not read by itself
(`rowsFrom_pair`), and of a table of such rows every second one is read (`rows_briefs`).
-/

namespace SkillKit.Knowledge

open Text List

variable {b : Brief} {s : String}

/-! ## Rows -/

/-- What is said of a concept in a row without a date column, and maybe without a key column. -/
structure Brief where
  concept : String
  table : String
  keyColumn : Option String

def Brief.line (b : Brief) : String :=
  rowLine (b.concept :: b.table :: b.keyColumn.toList)

/-- The row has cells, and its first two are more than blanks. -/
structure Brief.WellFormed (b : Brief) : Prop where
  concept_cell : IsCell b.concept
  table_cell : IsCell b.table
  key_cell : ∀ key ∈ b.keyColumn, IsCell key
  concept_filled : strip b.concept ≠ ""
  table_filled : strip b.table ≠ ""

instance (b : Brief) : Decidable b.WellFormed :=
  decidable_of_iff
    (IsCell b.concept ∧ IsCell b.table ∧ (∀ key ∈ b.keyColumn, IsCell key) ∧
      strip b.concept ≠ "" ∧ strip b.table ≠ "")
    ⟨fun ⟨h₁, h₂, h₃, h₄, h₅⟩ => ⟨h₁, h₂, h₃, h₄, h₅⟩,
      fun ⟨h₁, h₂, h₃, h₄, h₅⟩ => ⟨h₁, h₂, h₃, h₄, h₅⟩⟩

theorem Brief.WellFormed.return_not_mem (h : b.WellFormed) : '\r' ∉ b.line.toList := by
  refine return_not_mem_rowLine fun c hc => ?_
  simp only [mem_cons, Option.mem_toList] at hc
  rcases hc with rfl | rfl | hc
  · exact h.concept_cell
  · exact h.table_cell
  · exact h.key_cell c hc

/-- The row as it is read with another one on the next line, or with none: without a key column, the
concept of the next row becomes its date column. -/
def Brief.row (b : Brief) (next : Option Brief) : Row where
  concept := strip b.concept
  table := strip b.table
  keyColumn := b.keyColumn.bind filled?
  dateColumn := if b.keyColumn.isNone then next.map (strip ·.concept) else none

/-- The rows that are read: each one is read together with the next. -/
def taken : List Brief → List Row
  | [] => []
  | [b] => [b.row none]
  | b :: next :: rest => b.row (some next) :: taken rest

def Brief.tail (b : Brief) : List Char :=
  b.keyColumn.toList.flatMap fun key => key.toList ++ ['|']

theorem Brief.WellFormed.break_not_mem_tail (h : b.WellFormed) : '\n' ∉ b.tail := by
  cases hkey : b.keyColumn with
  | none => simp [Brief.tail, hkey]
  | some key => simp [Brief.tail, hkey, (h.key_cell key hkey).2.1]

theorem joined_line (b : Brief) (lines : List (List Char)) :
    joined (b.line.toList :: lines) =
      '|' :: (b.concept.toList ++ '|' :: (b.table.toList ++ '|' :: (b.tail ++ below lines))) := by
  simp [joined, Brief.line, Brief.tail, toList_rowLine]

theorem ne_nil_of_strip (h : strip s ≠ "") : s.toList ≠ [] := by
  intro hnil
  rw [strip, hnil] at h
  exact h rfl

theorem Brief.WellFormed.row?_joined (h : b.WellFormed) (lines : List (List Char)) :
    row? (joined (b.line.toList :: lines)) =
      some (rowRest b.concept.toList b.table.toList (b.tail ++ below lines)) := by
  rw [joined_line, row?_filled ⟨ne_nil_of_strip h.concept_filled, h.concept_cell.1⟩
    ⟨ne_nil_of_strip h.table_filled, h.table_cell.1⟩]

theorem filled?_of_strip (h : strip s ≠ "") : filled? s = some (strip s) := if_neg h

theorem optionalText_break : optionalText ['\n'] = none := by decide

theorem rowsFrom_pair {next : Brief} (hb : b.WellFormed) (hnext : next.WellFormed) (fuel : Nat)
    (lines : List (List Char)) :
    rowsFrom (fuel + 1) (joined (b.line.toList :: next.line.toList :: lines)) =
      b.row (some next) :: rowsFrom fuel (joined lines) := by
  have hbelow : below (next.line.toList :: lines) = '\n' :: '|' :: (next.concept.toList ++
      '|' :: (next.table.toList ++ '|' :: (next.tail ++ below lines))) :=
    congrArg ('\n' :: ·) (joined_line next lines)
  have hbreak : '\n' ∉ next.table.toList ++ '|' :: next.tail := by
    simp [hnext.table_cell.2.1, hnext.break_not_mem_tail]
  cases hkey : b.keyColumn with
  | none =>
    -- The bar of the next line ends an empty third cell, and its concept is the fourth.
    have hrow : row? (joined (b.line.toList :: next.line.toList :: lines)) =
        some (b.row (some next), (next.table.toList ++ '|' :: next.tail) ++ below lines) := by
      rw [hb.row?_joined, Brief.tail, hkey, hbelow, Option.toList_none, flatMap_nil,
        nil_append, rowRest_of_date (cell?_break _) (cell?_bar hnext.concept_cell.1 _),
        cellText_toList, cellText_toList, optionalText_break, optionalText_toList,
        filled?_of_strip hnext.concept_filled]
      simp [Brief.row, hkey]
    rw [rowsFrom_some hrow, rowsAfter_below hbreak]
  | some key =>
    -- The bar of the next line ends an empty fourth cell.
    have hrow : row? (joined (b.line.toList :: next.line.toList :: lines)) =
        some (b.row (some next), (next.concept.toList ++ '|' ::
          (next.table.toList ++ '|' :: next.tail)) ++ below lines) := by
      have htail : b.tail ++ below (next.line.toList :: lines) =
          key.toList ++ '|' :: below (next.line.toList :: lines) := by
        simp [Brief.tail, hkey]
      rw [hb.row?_joined, htail, hbelow,
        rowRest_of_date (cell?_bar (hb.key_cell key hkey).1 _) (cell?_break _), cellText_toList,
        cellText_toList, optionalText_break, optionalText_toList]
      simp [Brief.row, hkey]
    have hbreak' : '\n' ∉ next.concept.toList ++ '|' :: (next.table.toList ++ '|' :: next.tail) := by
      simp [hnext.concept_cell.2.1, hnext.table_cell.2.1, hnext.break_not_mem_tail]
    rw [rowsFrom_some hrow, rowsAfter_below hbreak']

theorem rowsFrom_last (hb : b.WellFormed) {lines : List (List Char)} (hlines : '|' ∉ below lines)
    (fuel : Nat) :
    rowsFrom (fuel + 1) (joined (b.line.toList :: lines)) =
      b.row none :: rowsFrom fuel (joined lines) := by
  have hrow : row? (joined (b.line.toList :: lines)) = some (b.row none, below lines) := by
    rw [hb.row?_joined]
    cases hkey : b.keyColumn with
    | none =>
      rw [Brief.tail, hkey, Option.toList_none, flatMap_nil, nil_append,
        rowRest_of_none (cell?_of_free hlines), cellText_toList, cellText_toList]
      simp [Brief.row, hkey]
    | some key =>
      have htail : b.tail ++ below lines = key.toList ++ '|' :: below lines := by
        simp [Brief.tail, hkey]
      rw [htail, rowRest_of_key (cell?_bar (hb.key_cell key hkey).1 _) (cell?_of_free hlines),
        cellText_toList, cellText_toList, optionalText_toList]
      simp [Brief.row, hkey]
  rw [rowsFrom_some hrow, ← nil_append (below lines), rowsAfter_below not_mem_nil]

theorem bar_not_mem_below {lines : List String} (h : ∀ line ∈ lines, IsCell line) :
    '|' ∉ below (lines.map String.toList) := by
  intro hmem
  obtain ⟨line, hline, hbar⟩ := mem_flatMap.mp hmem
  obtain ⟨s, hs, rfl⟩ := mem_map.mp hline
  rcases mem_cons.mp hbar with hbar | hbar
  · cases hbar
  · exact (h s hs).1 hbar

theorem IsCell.isProse (h : IsCell s) : IsProse s :=
  ⟨h.2, fun hhead => h.1 (mem_of_head? hhead)⟩

theorem rowsFrom_append {before : List String} (h : ∀ s ∈ before, IsProse s) (fuel : Nat)
    (lines : List (List Char)) :
    rowsFrom (before.length + fuel) (joined (before.map String.toList ++ lines)) =
      rowsFrom fuel (joined lines) := by
  induction before with
  | nil => rw [length_nil, Nat.zero_add, map_nil, nil_append]
  | cons s before ih =>
    rw [forall_mem_cons] at h
    rw [length_cons, Nat.add_right_comm, map_cons, cons_append,
      rowsFrom_prose h.1.1.1 h.1.2, ih h.2]

theorem rowsFrom_briefs {after : List String} (hafter : ∀ s ∈ after, IsCell s) :
    (briefs : List Brief) → (∀ b ∈ briefs, b.WellFormed) → (fuel : Nat) →
      briefs.length + after.length ≤ fuel →
        rowsFrom fuel (joined ((briefs.map (·.line) ++ after).map String.toList)) = taken briefs
  | [], _, fuel, hfuel => by
    -- Lines below the table have no bar, so none of them starts with one.
    obtain ⟨more, rfl⟩ := Nat.exists_eq_add_of_le hfuel
    have hnone := rowsFrom_append (fun s hs => (hafter s hs).isProse) more []
    rw [append_nil, joined, rowsFrom_nil] at hnone
    simpa [taken] using hnone
  | [b], h, fuel, hfuel => by
    rw [length_singleton, Nat.add_comm] at hfuel
    obtain ⟨fuel, rfl⟩ := Nat.exists_eq_add_one_of_ne_zero (Nat.ne_zero_of_lt hfuel)
    have hrest := rowsFrom_briefs hafter [] (by simp) fuel
      (by simpa using Nat.le_of_succ_le_succ hfuel)
    rw [map_nil, nil_append] at hrest
    rw [map_singleton, singleton_append, map_cons,
      rowsFrom_last (h b mem_cons_self) (bar_not_mem_below hafter), hrest]
    rfl
  | b :: next :: rest, h, fuel, hfuel => by
    rw [length_cons, length_cons] at hfuel
    obtain ⟨fuel, rfl⟩ := Nat.exists_eq_add_one_of_ne_zero (show fuel ≠ 0 by omega)
    -- Two lines take one unit of fuel.
    simp only [forall_mem_cons] at h
    have hrest := rowsFrom_briefs hafter rest h.2.2 fuel (by omega)
    rw [map_cons, map_cons, cons_append, cons_append, map_cons,
      map_cons, rowsFrom_pair h.1 h.2.1, hrest]
    rfl

theorem rows_briefs {before after : List String} {briefs : List Brief}
    (hbefore : ∀ s ∈ before, IsProse s) (hbriefs : ∀ b ∈ briefs, b.WellFormed)
    (hafter : ∀ s ∈ after, IsCell s) :
    rows (document (before ++ (briefs.map (·.line) ++ after))) = taken briefs := by
  refine rows_document_eq fun fuel hfuel => ?_
  rw [length_append, length_append, length_map] at hfuel
  obtain ⟨more, rfl⟩ := Nat.exists_eq_add_of_le (Nat.le_of_add_right_le hfuel)
  rw [map_append, rowsFrom_append hbefore, rowsFrom_briefs hafter briefs hbriefs more (by omega)]

theorem mem_taken : (briefs : List Brief) → {row : Row} → row ∈ taken briefs →
    ∃ b ∈ briefs, ∃ next, row = b.row next
  | [], row, h => by
    rw [taken] at h
    cases h
  | [b], row, h => by
    rw [taken, mem_singleton] at h
    exact ⟨b, mem_cons_self, none, h⟩
  | b :: next :: rest, row, h => by
    rw [taken, mem_cons] at h
    rcases h with h | h
    · exact ⟨b, mem_cons_self, some next, h⟩
    · obtain ⟨c, hc, hrow⟩ := mem_taken rest h
      exact ⟨c, mem_cons_of_mem _ (mem_cons_of_mem _ hc), hrow⟩

theorem length_taken : (briefs : List Brief) → (taken briefs).length = (briefs.length + 1) / 2
  | [] => by simp [taken]
  | [_] => by simp [taken]
  | b :: next :: rest => by
    rw [taken, length_cons, length_taken rest, length_cons, length_cons]
    omega

end SkillKit.Knowledge
