import SkillKit.Proofs.Knowledge.Memory
import SkillKit.Proofs.Knowledge.Shelf
import SkillKit.Proofs.Time.Iso

/-!
# The store on files and the store in memory

From shelves with what is in a memory (`Memory.LiesOn`), a call comes to what it comes to in memory,
and leaves shelves with what is in memory then (`leaves_perform`).  So calls one after the other, from
a store in which nothing was learned, come to the same on files as in memory.
-/

namespace SkillKit.Knowledge

open Act Time

variable {host : Host} {m : Memory} {fields : Fields}

variable {key : String} {now : Moment}

/-! ## Calls on files -/

def Call.perform : Call → Act Value
  | .learnConcept name table keyColumn dateColumn =>
    Knowledge.learnConcept (.text name) table keyColumn dateColumn
  | .lookupConcept name => Knowledge.lookupConcept (.text name)
  | .listConcepts => load .concepts
  | .learnPattern name questionTypes strategy tablesUsed gotchas exampleQuery =>
    Knowledge.learnPattern (.text name) questionTypes strategy tablesUsed gotchas exampleQuery
  | .recordOutcome name success => Knowledge.recordOutcome (.text name) success
  | .deletePattern name => Value.bool <$> Knowledge.deletePattern (.text name)
  | .listPatterns => load .patterns
  | .setTable name columns rowCount comment =>
    Knowledge.setTable (.text name) columns rowCount comment
  | .getTable name => Knowledge.getTable (.text name)
  | .deleteTable name => Value.bool <$> Knowledge.deleteTable (.text name)
  | .listTables => load .tables
  | .clear which staleOnly => do
    let (concepts, patterns) ← Knowledge.clear which staleOnly.1.truthy
    return .object [("concepts_cleared", .nat concepts), ("patterns_cleared", .nat patterns)]

/-- What calls come to on files, one after the other, each at its own time. -/
def performAll (host : Host) : List (Moment × Call) → List (Except Fault Value)
  | [] => []
  | (now, call) :: calls =>
    let (answer, host) := exec call.perform { host with now := now.stamp }
    answer :: performAll host calls

/-- The shelves of a host open with what is in a memory. -/
def Memory.LiesOn (m : Memory) (host : Host) : Prop :=
  ∀ shelf, Opens shelf host (m.fields shelf)

theorem Memory.liesOn_empty (h : Vacant host.files (storeNames host)) :
    Memory.empty.LiesOn host := by
  intro shelf
  cases shelf <;> exact h.opens _

theorem Memory.LiesOn.at (h : m.LiesOn host) (now : Stamp) : m.LiesOn { host with now } :=
  fun shelf => ⟨(h shelf).load, (h shelf).room⟩

theorem Memory.LiesOn.of_fields {m' : Memory} {shelf : Shelf} (h : m.LiesOn host)
    (hsame : m'.fields shelf = m.fields shelf)
    (hothers : ∀ other, other ≠ shelf → m'.fields other = m.fields other) : m'.LiesOn host := by
  intro other
  by_cases hother : other = shelf
  · rw [hother, hsame]
    exact h shelf
  · rw [hothers other hother]
    exact h other

/-- An action comes to a result, and leaves shelves with what is in a memory. -/
def Leaves {α : Type} (act : Act α) (host : Host) (r : Except Fault α) (m : Memory) : Prop :=
  ∃ files, exec act host = (r, { host with files }) ∧ m.LiesOn { host with files }

section Leaves

variable {α β : Type} {m' : Memory}

theorem Leaves.of_exec {act : Act α} {r : Except Fault α} (hexec : exec act host = (r, host))
    (h : m.LiesOn host) : Leaves act host r m :=
  ⟨host.files, hexec, h⟩

theorem Leaves.after {act : Act α} {next : α → Act β} {a : α} {r : Except Fault β}
    (hexec : exec act host = (.ok a, host)) (h : Leaves (next a) host r m) :
    Leaves (act >>= next) host r m := by
  obtain ⟨files, hnext, hfiles⟩ := h
  exact ⟨files, by rw [exec_bind_ok hexec, hnext], hfiles⟩

theorem Leaves.afterResult {e : Except Fault α} {next : α → Act β} {a : α} {r : Except Fault β}
    (he : e = .ok a) (h : Leaves (next a) host r m) : Leaves (Act.ofExcept e >>= next) host r m :=
  h.after (by rw [exec_ofExcept, he])

theorem Leaves.bind {act : Act α} {next : α → Act β} {a : α} {r : Except Fault β}
    (h : Leaves act host (.ok a) m)
    (hnext : ∀ files, m.LiesOn { host with files } → Leaves (next a) { host with files } r m') :
    Leaves (act >>= next) host r m' := by
  obtain ⟨files, hexec, hfiles⟩ := h
  obtain ⟨files', hexec', hfiles'⟩ := hnext files hfiles
  exact ⟨files', by rw [exec_bind_ok hexec, hexec'], hfiles'⟩

theorem Leaves.map {act : Act α} {a : α} (f : α → β) (h : Leaves act host (.ok a) m) :
    Leaves (f <$> act) host (.ok (f a)) m := by
  obtain ⟨files, hexec, hfiles⟩ := h
  exact ⟨files, by rw [exec_map, hexec]; rfl, hfiles⟩

theorem leaves_save (h : m.LiesOn host) (shelf : Shelf) (hfields : fields = m'.fields shelf)
    (hothers : ∀ other, other ≠ shelf → m'.fields other = m.fields other) (a : α) :
    Leaves (do save shelf (.dict fields); return a) host (.ok a) m' := by
  subst hfields
  obtain ⟨files, hsave, hafter⟩ :=
    (h shelf).exec_save (Json.isRead_of_isJson (m'.fieldsAreJson_fields shelf))
  refine ⟨files, exec_bind_ok hsave, fun other => ?_⟩
  by_cases hother : other = shelf
  · subst hother
    exact hafter
  · rw [hothers other hother]
    exact (h other).of_save hother hsave

end Leaves

/-! ## Single calls -/

section Calls

variable {α : Type} {m' : Memory}

theorem leaves_store (h : m.LiesOn host) (shelf : Shelf) {entry : Value}
    (hput : Fields.put (m.fields shelf) (.text key) entry = m'.fields shelf)
    (hothers : ∀ other, other ≠ shelf → m'.fields other = m.fields other) :
    Leaves (do
      let data ← Act.ofExcept (Value.store (.dict (m.fields shelf)) key entry)
      save shelf data
      return entry) host (.ok entry) m' :=
  .afterResult rfl (leaves_save h shelf hput hothers entry)

theorem leaves_deleteEntry (h : m.LiesOn host) (shelf : Shelf) {keyOf : Value → Except Fault String}
    {name : Value} (hkey : keyOf name = .ok key) {found : Bool}
    (hhas : Fields.has (m.fields shelf) (.text key) = found)
    (herase : Fields.erase (m.fields shelf) (.text key) = m'.fields shelf)
    (hothers : ∀ other, other ≠ shelf → m'.fields other = m.fields other) :
    Leaves (deleteEntry shelf keyOf name) host (.ok found) m' := by
  have hwithout : withoutKey (.dict (m.fields shelf)) key =
      .ok (if found then some (.dict (m'.fields shelf)) else none) := by
    rw [withoutKey, Value.holds, hhas, herase]
    cases found <;> rfl
  refine .after (h shelf).exec_load (.afterResult hkey (.afterResult hwithout ?_))
  cases found with
  | true => exact leaves_save h shelf rfl hothers true
  | false =>
    have hsame : m'.fields shelf = m.fields shelf := by
      rw [← herase, Json.erase_of_not_has hhas]
    exact .of_exec (exec_pure _ _) (h.of_fields hsame hothers)

theorem isStale_iso (made now : Moment) :
    isStale now.stamp (.text made.stamp.iso) (.int lifetimeDays) = .ok (made.isStaleAt now) := by
  have hread := Stamp.ofIso?_iso made.date_valid made.time_valid made.offset_eq
  simp only [isStale, hread, made.offset_eq]
  rfl

theorem entryIsStale_concept (now : Moment) (c : Concept) :
    entryIsStale now.stamp Shelf.concepts.timeKey c.toValue = .ok (c.made.isStaleAt now) := by
  have hlookup : c.toValue.lookupD Shelf.concepts.timeKey (.text "") =
      .ok (.text c.made.stamp.iso) := rfl
  rw [entryIsStale, hlookup, Result.ok_bind, isStale_iso]

theorem entryIsStale_pattern (now : Moment) (p : Pattern) :
    entryIsStale now.stamp Shelf.patterns.timeKey p.toValue = .ok (p.made.isStaleAt now) := by
  have hlookup : p.toValue.lookupD Shelf.patterns.timeKey (.text "") =
      .ok (.text p.made.stamp.iso) := rfl
  rw [entryIsStale, hlookup, Result.ok_bind, isStale_iso]

theorem leaves_clearShelf (host : Host) (h : m.LiesOn host) (shelf : Shelf) {old : OrderedMap α}
    {write : α → Value} {made : α → Moment} (hold : m.fields shelf = old.toFields write)
    (hstale : ∀ a, entryIsStale host.now shelf.timeKey (write a) = .ok ((made a).isStaleAt now))
    (selected staleOnly : Bool) {new : OrderedMap α}
    (hnew : new = if selected then Memory.cleared now staleOnly made old else old)
    (hfields : m'.fields shelf = new.toFields write)
    (hothers : ∀ other, other ≠ shelf → m'.fields other = m.fields other) :
    Leaves (if selected then clearShelf shelf staleOnly else pure 0) host
      (.ok (old.size - new.size)) m' := by
  cases selected with
  | false =>
    obtain rfl : new = old := hnew
    rw [Nat.sub_self]
    exact .of_exec (exec_pure _ _) (h.of_fields (hfields.trans hold.symm) hothers)
  | true =>
    have hsize : Value.size (.dict (m.fields shelf)) = .ok old.size := by
      rw [hold]
      exact congrArg Except.ok (old.length_toFields write)
    simp only [if_true] at hnew ⊢
    refine .after (h shelf).exec_load ?_
    cases staleOnly with
    | true =>
      have hfresh : freshFields host.now shelf (m.fields shelf) = .ok (m'.fields shelf) := by
        rw [hold, hfields, hnew, Memory.cleared, if_pos rfl]
        refine OrderedMap.filterM_toFields _ _ fun key a => ?_
        rw [hstale]
        rfl
      refine .afterResult hsize (.afterResult rfl (.after (exec_now host) (.afterResult hfresh ?_)))
      rw [hfields, OrderedMap.length_toFields]
      exact leaves_save h shelf hfields.symm hothers _
    | false =>
      subst hnew
      exact .afterResult hsize (leaves_save h shelf hfields.symm hothers _)

theorem counted_eq {p : Pattern} (h : Fields.get? fields key = some p.toValue) (success : Bool) :
    ∃ entry n, p.toValue.store (if success then "success_count" else "failure_count") (.nat n) =
        .ok entry ∧
      counted (.dict fields) key success = .ok (.dict (Fields.put fields (.text key) entry), entry) ∧
      (∀ q, p.record success = some q → entry = q.toValue) ∧
      (p.record success = none → 10 ^ Json.maxDigits ≤ n) := by
  have hentry : Value.entry (.dict fields) key = .ok p.toValue := by
    rw [Value.entry, h]
  unfold counted
  rw [hentry]
  cases success with
  | true =>
    refine ⟨_, p.successes.1 + 1, rfl, rfl, fun q hq => ?_, fun hq => ?_⟩
    · rw [Pattern.record, if_pos rfl, Option.map_eq_some_iff] at hq
      obtain ⟨c, hc, rfl⟩ := hq
      rw [← Count.next?_eq_some hc]
      rfl
    · rw [Pattern.record, if_pos rfl, Option.map_eq_none_iff] at hq
      exact Count.next?_eq_none hq
  | false =>
    refine ⟨_, p.failures.1 + 1, rfl, rfl, fun q hq => ?_, fun hq => ?_⟩
    · rw [Pattern.record, if_neg Bool.false_ne_true, Option.map_eq_some_iff] at hq
      obtain ⟨c, hc, rfl⟩ := hq
      rw [← Count.next?_eq_some hc]
      rfl
    · rw [Pattern.record, if_neg Bool.false_ne_true, Option.map_eq_none_iff] at hq
      exact Count.next?_eq_none hq

theorem leaves_recordOutcome (h : m.LiesOn host) (now : Moment)
    (name : String) (success : Document) :
    Leaves (recordOutcome (.text name) success) host (m.answer now (.recordOutcome name success)).1
      (m.answer now (.recordOutcome name success)).2 := by
  have hholds : Value.holds (.dict (m.fields .patterns)) (nameKey name) =
      .ok (m.patterns.find? (nameKey name)).isSome :=
    congrArg Except.ok (OrderedMap.has_toFields _ _ _)
  refine .after (h .patterns).exec_load (.afterResult rfl (.afterResult hholds ?_))
  cases hp : m.patterns.find? (nameKey name) with
  | none =>
    simp only [Memory.answer, hp]
    exact .of_exec (exec_pure _ _) h
  | some p =>
    have hget : Fields.get? (m.fields .patterns) (nameKey name) = some p.toValue := by
      rw [Memory.fields, OrderedMap.get?_toFields, hp]
      rfl
    obtain ⟨entry, n, hstore, hcounted, hsome, hnone⟩ := counted_eq hget success.1.truthy
    refine .afterResult hcounted ?_
    cases hrecord : p.record success.1.truthy with
    | some q =>
      obtain rfl := hsome q hrecord
      simp only [Memory.answer, hp, hrecord]
      exact leaves_save h .patterns (OrderedMap.put_toFields m.patterns Pattern.toValue _ q)
        (m.fields_patterns_of_ne _) q.toValue
    | none =>
      -- The count is not written in the entry, and so the entry is not written on the shelf.
      have hcount : ∀ layout, Json.writeIn true layout (.nat n) = .error .unusable := fun _ => by
        exact Json.writeInt_of_le (hnone hrecord)
      have hentry := Json.writeIn_store_error (Memory.isJson_pattern p) hstore hcount
      have hjson : Json.isJson (.dict (m.fields .patterns)) = true := m.fieldsAreJson_fields .patterns
      obtain ⟨files, hexec, hall⟩ := (h .patterns).exec_save_error
        (Json.writeIn_store_error hjson rfl hentry (.indented 0))
      simp only [Memory.answer, hp, hrecord]
      exact ⟨files, exec_bind_error hexec, fun shelf => hall shelf _ (h shelf)⟩

theorem leaves_clear (h : m.LiesOn host) (hnow : host.now = now.stamp) (which staleOnly : Document) :
    Leaves (Call.clear which staleOnly).perform host (m.answer now (.clear which staleOnly)).1
      (m.answer now (.clear which staleOnly)).2 := by
  have hconcepts := hnow ▸ entryIsStale_concept now
  have hpatterns := hnow ▸ entryIsStale_pattern now
  simp only [Call.perform, clear_eq, bind_assoc]
  refine .bind (leaves_clearShelf host h .concepts rfl hconcepts _ _ rfl rfl
    (m.fields_concepts_of_ne _)) fun files hfiles => ?_
  refine .bind (leaves_clearShelf { host with files } hfiles .patterns rfl hpatterns _ _ rfl rfl
    (Memory.fields_patterns_of_ne _ _)) fun files hfiles => ?_
  exact .of_exec (exec_pure _ _) hfiles

theorem leaves_perform (host : Host) (h : m.LiesOn host) (hnow : host.now = now.stamp) (call : Call) :
    Leaves call.perform host (m.answer now call).1 (m.answer now call).2 := by
  cases call with
  | learnConcept name table keyColumn dateColumn =>
    refine .after (h .concepts).exec_load (.after (exec_now host) (.afterResult rfl ?_))
    have hput := m.concepts.put_toFields Concept.toValue (nameKey name)
      ⟨table, keyColumn, dateColumn, now⟩
    rw [hnow]
    exact leaves_store h .concepts hput (m.fields_concepts_of_ne _)
  | lookupConcept name =>
    refine .after (h .concepts).exec_load (.afterResult rfl (.afterResult rfl (.of_exec ?_ h)))
    rw [Memory.fields, OrderedMap.get?_toFields]
    rfl
  | listConcepts => exact .of_exec (h .concepts).exec_load h
  | learnPattern name questionTypes strategy tablesUsed gotchas exampleQuery =>
    refine .after (h .patterns).exec_load (.after (exec_now host) (.afterResult rfl ?_))
    have hput := m.patterns.put_toFields Pattern.toValue (nameKey name)
      ⟨questionTypes, strategy, tablesUsed, gotchas, exampleQuery, now, .one, .zero⟩
    rw [hnow]
    exact leaves_store h .patterns hput (m.fields_patterns_of_ne _)
  | recordOutcome name success => exact leaves_recordOutcome h now name success
  | deletePattern name =>
    exact .map Value.bool (leaves_deleteEntry h .patterns rfl (OrderedMap.has_toFields _ _ _)
      (OrderedMap.erase_toFields _ _ _) (m.fields_patterns_of_ne _))
  | listPatterns => exact .of_exec (h .patterns).exec_load h
  | setTable name columns rowCount comment =>
    refine .after (h .tables).exec_load (.afterResult rfl (.after (exec_now host) ?_))
    have hput := m.tables.put_toFields Schema.toValue (tableKey name)
      ⟨tableKey name, columns, rowCount, comment, now⟩
    rw [hnow]
    exact leaves_store h .tables hput (m.fields_tables_of_ne _)
  | getTable name =>
    refine .after (h .tables).exec_load (.afterResult rfl (.afterResult rfl (.of_exec ?_ h)))
    rw [Memory.fields, OrderedMap.get?_toFields]
    rfl
  | deleteTable name =>
    exact .map Value.bool (leaves_deleteEntry h .tables rfl (OrderedMap.has_toFields _ _ _)
      (OrderedMap.erase_toFields _ _ _) (m.fields_tables_of_ne _))
  | listTables => exact .of_exec (h .tables).exec_load h
  | clear which staleOnly => exact leaves_clear h hnow which staleOnly

end Calls

/-! ## Runs of calls -/

theorem performAll_eq_run (h : m.LiesOn host) (calls : List (Moment × Call)) :
    performAll host calls = m.run calls := by
  -- Of the host only the files and the time change, so its store stays where it is.
  induction calls generalizing host m with
  | nil => rfl
  | cons step calls ih =>
    obtain ⟨now, call⟩ := step
    obtain ⟨files, hexec, hfiles⟩ := leaves_perform { host with now := now.stamp } (h.at _) rfl call
    rw [performAll, hexec]
    exact congrArg _ (ih hfiles)

/-- Calls from a store without files come to what they come to on three ordered maps in memory.  All
of them succeed, unless there are so many that the number of them has more digits than are taken. -/
theorem performAll_eq_run_of_vacant (host : Host) (h : Vacant host.files (storeNames host))
    (calls : List (Moment × Call)) :
    performAll host calls = Memory.empty.run calls ∧
      (calls.length < 10 ^ Json.maxDigits → ∀ r ∈ performAll host calls, ∃ v, r = .ok v) := by
  have hrun : performAll host calls = Memory.empty.run calls :=
    performAll_eq_run (Memory.liesOn_empty h) calls
  refine ⟨hrun, fun hlength => ?_⟩
  rw [hrun]
  exact Memory.run_ok Memory.countsTo_empty (by rwa [Nat.zero_add])

def winter : Moment := ⟨⟨⟨2024, 1, 1⟩, ⟨9, 30, 0, 0⟩, none⟩, rfl, rfl, rfl⟩

def summer : Moment := ⟨⟨⟨2024, 6, 1⟩, ⟨9, 30, 0, 0⟩, none⟩, rfl, rfl, rfl⟩

def sampleCalls : List (Moment × Call) :=
  [(winter, .learnConcept " Customers" (textDocument "HQ.ORGS") noDocument noDocument),
    (winter, .lookupConcept "CUSTOMERS\t"),
    (winter, .learnPattern "Growth" noDocument noDocument noDocument noDocument noDocument),
    (summer, .recordOutcome "growth" ⟨.bool false, rfl⟩),
    (summer, .clear (textDocument "concepts") ⟨.bool true, rfl⟩),
    (summer, .lookupConcept "customers"),
    (summer, .deletePattern "GROWTH"),
    (summer, .deletePattern "growth")]

theorem performAll_eq_run_of_vacant_sample :
    (performAll {} sampleCalls).map (fun r => r.toOption.map Value.truthy) =
        [some true, some true, some true, some true, some true, some false, some true,
          some false] ∧
      let found : Host := { files := .dir [("cache", .dir [])], store := some ⟨"/", ["cache"]⟩ }
      ∀ r ∈ performAll found sampleCalls, ∃ v, r = .ok v := by
  constructor
  · rw [(performAll_eq_run_of_vacant {} (vacant_new _) sampleCalls).1]
    decide +kernel
  · intro found
    have hfound : Vacant found.files (storeNames found) := vacant_of_follow rfl fun shelf => rfl
    exact (performAll_eq_run_of_vacant found hfound sampleCalls).2
      (Nat.lt_trans (by decide) (Nat.lt_pow_self (by decide)))

end SkillKit.Knowledge
