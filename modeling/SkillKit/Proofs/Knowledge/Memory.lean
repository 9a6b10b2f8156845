import SkillKit.Knowledge.Calls
import SkillKit.Proofs.Data.OrderedMap

/-!
# A store in memory

What has been learned as three ordered maps, with no files behind them.  `answer` is what a call comes
to, and which maps it leaves.  A count of a pattern has no more digits than are taken, and one that
would be longer is refused; no run of fewer calls gets there (`run_ok`).
-/

namespace SkillKit.Knowledge

open Time Value Json OrderedMap

/-! ## Entries -/

/-- A date with a time of day that the calendar has, on the wall clock. -/
structure Moment where
  stamp : Stamp
  date_valid : stamp.date.isValid = true
  time_valid : stamp.time.isValid = true
  offset_eq : stamp.offset = none

/-- Whether an entry that was made at the moment is stale. -/
def Moment.isStaleAt (made now : Moment) : Bool :=
  lifetimeDays * dayMicros < now.stamp.wall - made.stamp.wall

/-- A document that JSON holds. -/
abbrev Document := { v : Value // isJson v = true }

def noDocument : Document := ⟨.null, rfl⟩

def textDocument (s : String) : Document := ⟨.text s, rfl⟩

def boolDocument (b : Bool) : Document := ⟨.bool b, rfl⟩

/-- A count that JSON holds. -/
abbrev Count := { n : Nat // n < 10 ^ maxDigits }

def Count.zero : Count := ⟨0, Nat.pow_pos (by decide)⟩

def Count.one : Count := ⟨1, Nat.one_lt_pow (by decide) (by decide)⟩

/-- One more, if JSON holds it. -/
def Count.next? (n : Count) : Option Count :=
  if h : n.1 + 1 < 10 ^ maxDigits then some ⟨n.1 + 1, h⟩ else none

theorem Count.next?_eq_some {n c : Count} (h : n.next? = some c) : c.1 = n.1 + 1 := by
  rw [next?] at h
  split at h
  · exact congrArg Subtype.val (Option.some.inj h.symm)
  · cases h

theorem Count.next?_eq_none {n : Count} (h : n.next? = none) : 10 ^ maxDigits ≤ n.1 + 1 := by
  rw [next?] at h
  split at h
  · cases h
  · rename_i hlong
    exact Nat.not_lt.mp hlong

structure Concept where
  table : Document
  keyColumn : Document
  dateColumn : Document
  made : Moment

structure Pattern where
  questionTypes : Document
  strategy : Document
  tablesUsed : Document
  gotchas : Document
  exampleQuery : Document
  made : Moment
  successes : Count
  failures : Count

structure Schema where
  name : String
  columns : Document
  rowCount : Document
  comment : Document
  made : Moment

def Concept.toValue (c : Concept) : Value :=
  .object [("table", c.table), ("key_column", c.keyColumn), ("date_column", c.dateColumn),
    ("learned_at", .text c.made.stamp.iso)]

def Pattern.toValue (p : Pattern) : Value :=
  .object [("question_types", p.questionTypes), ("strategy", p.strategy),
    ("tables_used", p.tablesUsed), ("gotchas", p.gotchas), ("example_query", p.exampleQuery),
    ("created_at", .text p.made.stamp.iso), ("success_count", .nat p.successes.1),
    ("failure_count", .nat p.failures.1)]

def Schema.toValue (t : Schema) : Value :=
  .object [("full_name", .text t.name), ("columns", t.columns), ("row_count", t.rowCount),
    ("comment", t.comment), ("cached_at", .text t.made.stamp.iso)]

/-- The pattern with one more success or failure. -/
def Pattern.record (p : Pattern) (success : Bool) : Option Pattern :=
  if success then p.successes.next?.map ({ p with successes := · })
  else p.failures.next?.map ({ p with failures := · })

/-! ## Calls -/

/-- A call of the store.  Names are texts, all else are documents. -/
inductive Call where
  | learnConcept (name : String) (table keyColumn dateColumn : Document)
  | lookupConcept (name : String)
  | listConcepts
  | learnPattern (name : String)
      (questionTypes strategy tablesUsed gotchas exampleQuery : Document)
  | recordOutcome (name : String) (success : Document)
  | deletePattern (name : String)
  | listPatterns
  | setTable (name : String) (columns rowCount comment : Document)
  | getTable (name : String)
  | deleteTable (name : String)
  | listTables
  | clear (which staleOnly : Document)

structure Memory where
  concepts : OrderedMap Concept
  patterns : OrderedMap Pattern
  tables : OrderedMap Schema

namespace Memory

def empty : Memory := ⟨.empty, .empty, .empty⟩

/-- What stays of a map that is cleared: nothing, or the entries that are not stale. -/
def cleared {α : Type} (now : Moment) (staleOnly : Bool) (made : α → Moment) (m : OrderedMap α) :
    OrderedMap α :=
  if staleOnly then m.filter fun a => !(made a).isStaleAt now else .empty

/-- What a call comes to, and what has been learned after it. -/
def answer (now : Moment) (m : Memory) : Call → Except Fault Value × Memory
  | .learnConcept name table keyColumn dateColumn =>
    let concept : Concept := ⟨table, keyColumn, dateColumn, now⟩
    (.ok concept.toValue, { m with concepts := m.concepts.insert (nameKey name) concept })
  | .lookupConcept name =>
    (.ok (((m.concepts.find? (nameKey name)).map Concept.toValue).getD .null), m)
  | .listConcepts => (.ok (.dict (m.concepts.toFields Concept.toValue)), m)
  | .learnPattern name questionTypes strategy tablesUsed gotchas exampleQuery =>
    let pattern : Pattern :=
      ⟨questionTypes, strategy, tablesUsed, gotchas, exampleQuery, now, .one, .zero⟩
    (.ok pattern.toValue, { m with patterns := m.patterns.insert (nameKey name) pattern })
  | .recordOutcome name success =>
    match m.patterns.find? (nameKey name) with
    | none => (.ok .null, m)
    | some pattern =>
      match pattern.record success.1.truthy with
      -- The count cannot be written with one more, and nothing is changed.
      | none => (.error .unusable, m)
      | some pattern =>
        (.ok pattern.toValue, { m with patterns := m.patterns.insert (nameKey name) pattern })
  | .deletePattern name =>
    (.ok (.bool (m.patterns.find? (nameKey name)).isSome),
      { m with patterns := m.patterns.erase (nameKey name) })
  | .listPatterns => (.ok (.dict (m.patterns.toFields Pattern.toValue)), m)
  | .setTable name columns rowCount comment =>
    let table : Schema := ⟨tableKey name, columns, rowCount, comment, now⟩
    (.ok table.toValue, { m with tables := m.tables.insert (tableKey name) table })
  | .getTable name =>
    (.ok (((m.tables.find? (tableKey name)).map Schema.toValue).getD .null), m)
  | .deleteTable name =>
    (.ok (.bool (m.tables.find? (tableKey name)).isSome),
      { m with tables := m.tables.erase (tableKey name) })
  | .listTables => (.ok (.dict (m.tables.toFields Schema.toValue)), m)
  | .clear which staleOnly =>
    let names (word : String) : Bool := which.1.isText "all" || which.1.isText word
    let concepts := if names "concepts" then cleared now staleOnly.1.truthy Concept.made m.concepts
      else m.concepts
    let patterns := if names "patterns" then cleared now staleOnly.1.truthy Pattern.made m.patterns
      else m.patterns
    (.ok (.object [("concepts_cleared", .nat (m.concepts.size - concepts.size)),
      ("patterns_cleared", .nat (m.patterns.size - patterns.size))]), { m with concepts, patterns })

def run (m : Memory) : List (Moment × Call) → List (Except Fault Value)
  | [] => []
  | (now, call) :: calls => (m.answer now call).1 :: run (m.answer now call).2 calls

/-! ## Counts -/

/-- No pattern has counted further. -/
def CountsTo (m : Memory) (n : Nat) : Prop :=
  ∀ key p, m.patterns.find? key = some p → p.successes.1 ≤ n ∧ p.failures.1 ≤ n

theorem countsTo_empty : empty.CountsTo 0 := by
  intro key p h
  cases h

variable {m : Memory} {n : Nat}

theorem CountsTo.mono {k : Nat} (h : m.CountsTo n) (hk : n ≤ k) : m.CountsTo k := by
  intro key p hp
  obtain ⟨hs, hf⟩ := h key p hp
  exact ⟨hs.trans hk, hf.trans hk⟩

theorem CountsTo.insert (h : m.CountsTo n) {key : String} {p : Pattern}
    (hp : p.successes.1 ≤ n ∧ p.failures.1 ≤ n) :
    CountsTo { m with patterns := m.patterns.insert key p } n := by
  intro other q hq
  rw [find?_insert] at hq
  split at hq
  · cases hq
    exact hp
  · exact h other q hq

theorem record_eq_some {p : Pattern} (hp : p.successes.1 ≤ n ∧ p.failures.1 ≤ n)
    (hn : n + 1 < 10 ^ maxDigits) (success : Bool) :
    ∃ q, p.record success = some q ∧ q.successes.1 ≤ n + 1 ∧ q.failures.1 ≤ n + 1 := by
  have hnext : ∀ c : Count, c.1 ≤ n → ∃ d, c.next? = some d ∧ d.1 ≤ n + 1 := by
    intro c hc
    exact ⟨_, dif_pos (by omega), Nat.succ_le_succ hc⟩
  cases success with
  | true =>
    obtain ⟨d, hd, hle⟩ := hnext p.successes hp.1
    exact ⟨{ p with successes := d }, by simp [Pattern.record, hd], hle, hp.2.trans (Nat.le_succ n)⟩
  | false =>
    obtain ⟨d, hd, hle⟩ := hnext p.failures hp.2
    exact ⟨{ p with failures := d }, by simp [Pattern.record, hd], hp.1.trans (Nat.le_succ n), hle⟩

theorem answer_ok (h : m.CountsTo n) (hn : n + 1 < 10 ^ maxDigits) (now : Moment) (call : Call) :
    (∃ v, (m.answer now call).1 = .ok v) ∧ (m.answer now call).2.CountsTo (n + 1) := by
  have hsame : m.CountsTo (n + 1) := h.mono (Nat.le_succ n)
  cases call with
  | learnConcept | lookupConcept | listConcepts | listPatterns | setTable | getTable | deleteTable
  | listTables => exact ⟨⟨_, rfl⟩, hsame⟩
  | learnPattern => exact ⟨⟨_, rfl⟩, hsame.insert ⟨Nat.le_add_left 1 n, Nat.zero_le _⟩⟩
  | recordOutcome name success =>
    rw [answer]
    cases hp : m.patterns.find? (nameKey name) with
    | none => exact ⟨⟨_, rfl⟩, hsame⟩
    | some p =>
      obtain ⟨q, hq, hcounts⟩ := record_eq_some (h _ _ hp) hn success.1.truthy
      simp only [hq]
      exact ⟨⟨_, rfl⟩, hsame.insert hcounts⟩
  | deletePattern name =>
    refine ⟨⟨_, rfl⟩, fun key p hp => ?_⟩
    change (m.patterns.erase (nameKey name)).find? key = some p at hp
    rw [find?_erase] at hp
    split at hp
    · cases hp
    · exact hsame key p hp
  | clear which staleOnly =>
    refine ⟨⟨_, rfl⟩, fun key p hp => ?_⟩
    simp only [answer] at hp
    split at hp
    · rw [cleared] at hp
      split at hp
      · rw [find?_filter, Option.filter_eq_some_iff] at hp
        exact hsame key p hp.1
      · cases hp
    · exact hsame key p hp

theorem run_ok {calls : List (Moment × Call)} (h : m.CountsTo n)
    (hn : n + calls.length < 10 ^ maxDigits) : ∀ r ∈ m.run calls, ∃ v, r = .ok v := by
  induction calls generalizing m n with
  | nil => simp [run]
  | cons step calls ih =>
    obtain ⟨now, call⟩ := step
    rw [List.length_cons] at hn
    obtain ⟨hok, hcounts⟩ := answer_ok h (by omega) now call
    rw [run, List.forall_mem_cons]
    exact ⟨hok, ih hcounts (by omega)⟩

/-! ## The maps as documents -/

theorem isJson_concept (c : Concept) : isJson c.toValue = true := by
  simp [Concept.toValue, object, isJson, fieldsAreJson, isTextKey,
    atomIsJson, Atom.same, c.table.2, c.keyColumn.2, c.dateColumn.2]

theorem isJson_pattern (p : Pattern) : isJson p.toValue = true := by
  simp [Pattern.toValue, object, nat, isJson, fieldsAreJson, isTextKey,
    atomIsJson, Atom.same, p.questionTypes.2, p.strategy.2, p.tablesUsed.2, p.gotchas.2,
    p.exampleQuery.2, p.successes.2, p.failures.2]

theorem isJson_schema (t : Schema) : isJson t.toValue = true := by
  simp [Schema.toValue, object, isJson, fieldsAreJson, isTextKey,
    atomIsJson, Atom.same, t.columns.2, t.rowCount.2, t.comment.2]

def fields (m : Memory) : Shelf → Fields
  | .concepts => m.concepts.toFields Concept.toValue
  | .patterns => m.patterns.toFields Pattern.toValue
  | .tables => m.tables.toFields Schema.toValue

theorem fields_concepts_of_ne (m : Memory) (concepts : OrderedMap Concept) (shelf : Shelf)
    (h : shelf ≠ .concepts) : fields { m with concepts } shelf = m.fields shelf := by
  cases shelf <;> first | exact absurd rfl h | rfl

theorem fields_patterns_of_ne (m : Memory) (patterns : OrderedMap Pattern) (shelf : Shelf)
    (h : shelf ≠ .patterns) : fields { m with patterns } shelf = m.fields shelf := by
  cases shelf <;> first | exact absurd rfl h | rfl

theorem fields_tables_of_ne (m : Memory) (tables : OrderedMap Schema) (shelf : Shelf)
    (h : shelf ≠ .tables) : fields { m with tables } shelf = m.fields shelf := by
  cases shelf <;> first | exact absurd rfl h | rfl

theorem fieldsAreJson_fields (m : Memory) (shelf : Shelf) :
    fieldsAreJson (m.fields shelf) = true := by
  cases shelf with
  | concepts => exact fieldsAreJson_toFields _ _ isJson_concept
  | patterns => exact fieldsAreJson_toFields _ _ isJson_pattern
  | tables => exact fieldsAreJson_toFields _ _ isJson_schema

end Memory

end SkillKit.Knowledge
