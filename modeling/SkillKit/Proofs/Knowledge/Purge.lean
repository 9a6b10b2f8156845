import SkillKit.Proofs.Knowledge.Shelf
import SkillKit.Proofs.Knowledge.Memory
import SkillKit.Proofs.Time.Calendar

/-!
# Stale entries

An entry is old when the time at which it was made can be told and is more than 90 days back
(`isOld`).  The statistics count the old entries, and purging takes out exactly those
(`clear_stale_agrees_with_stats`).
-/

namespace SkillKit.Knowledge

open Act Time List Value Result Json

/-! ## Age -/

/-- The time at which an entry of a shelf was made, if it says so by a text that is a time without
offset. -/
def madeAt? (shelf : Shelf) (entry : Value) : Option Stamp :=
  (((entry.field? shelf.timeKey).bind (·.asText?)).bind Stamp.ofIso?).filter (·.offset.isNone)

def isOld (shelf : Shelf) (now : Stamp) (entry : Value) : Bool :=
  (madeAt? shelf entry).any fun made => lifetimeDays * dayMicros < now.wall - made.wall

section Age

variable {shelf : Shelf} {now later : Stamp} {fields : Fields}

theorem isStale_eq (now : Stamp) (learned : Value) :
    isStale now learned (.int lifetimeDays) = .ok (((learned.asText?.bind Stamp.ofIso?).filter
      (·.offset.isNone)).any fun made => lifetimeDays * dayMicros < now.wall - made.wall) := by
  have hnumber : Number.ofValue? (.int lifetimeDays) = some (.int lifetimeDays) := rfl
  have hspan : daysSpan (.int lifetimeDays) = .ok (lifetimeDays * dayMicros) := rfl
  cases learned with
  | atom a =>
    cases a with
    | text s =>
      simp only [isStale, asText?, Option.bind_some, hnumber]
      cases Stamp.ofIso? s with
      | none => simp
      | some t => cases hoffset : t.offset <;> simp [hoffset, hspan]
    | _ => simp [isStale, asText?]
  | _ => simp [isStale, asText?]

theorem entryIsStale_eq (shelf : Shelf) (now : Stamp) {entry : Value} (h : ∃ p, entry = .dict p) :
    entryIsStale now shelf.timeKey entry = .ok (isOld shelf now entry) := by
  obtain ⟨p, rfl⟩ := h
  have hlookup : (dict p).lookupD shelf.timeKey (.text "") =
      .ok (((dict p).field? shelf.timeKey).getD (.text "")) := rfl
  rw [entryIsStale, hlookup, ok_bind, isStale_eq, isOld, madeAt?]
  -- The empty text, which stands for a missing one, is no time.
  have hempty : Stamp.ofIso? "" = none := by decide +kernel
  cases (dict p).field? shelf.timeKey with
  | none => simp [asText?, hempty]
  | some v => simp

theorem staleCount_eq (now : Stamp) (shelf : Shelf) (h : ∀ f ∈ fields, ∃ p, f.2 = .dict p) :
    staleCount now shelf fields = .ok (fields.countP (isOld shelf now ·.2)) := by
  rw [staleCount, filterM_eq fun f hf => entryIsStale_eq shelf now (h f hf),
    countP_eq_length_filter]
  rfl

theorem freshFields_eq (now : Stamp) (shelf : Shelf) (h : ∀ f ∈ fields, ∃ p, f.2 = .dict p) :
    freshFields now shelf fields = .ok (fields.filter (!isOld shelf now ·.2)) := by
  refine filterM_eq fun f hf => ?_
  rw [entryIsStale_eq shelf now (h f hf)]
  rfl

theorem isOld_mono (h : now.wall ≤ later.wall) {entry : Value} (hold : isOld shelf now entry = true) :
    isOld shelf later entry = true := by
  simp only [isOld, Option.any_eq_true, decide_eq_true_eq] at hold ⊢
  obtain ⟨made, hmade, hlong⟩ := hold
  exact ⟨made, hmade, by omega⟩

end Age

/-! ## Counting and purging -/

def oldCount (now : Stamp) (shelf : Shelf) (fields : Fields) : Nat :=
  fields.countP (isOld shelf now ·.2)

def fresh (now : Stamp) (shelf : Shelf) (fields : Fields) : Fields :=
  fields.filter (!isOld shelf now ·.2)

theorem oldCount_fresh (now : Stamp) (shelf : Shelf) (fields : Fields) :
    oldCount now shelf (fresh now shelf fields) = 0 := by
  rw [oldCount, fresh, countP_eq_zero]
  simp

theorem fresh_fresh (now : Stamp) (shelf : Shelf) (fields : Fields) :
    fresh now shelf (fresh now shelf fields) = fresh now shelf fields := by
  rw [fresh, fresh]
  simp

/-- A shelf opens, and its entries are mappings. -/
structure Browsable (host : Host) (shelf : Shelf) (fields : Fields) : Prop extends
    Opens shelf host fields where
  entries : ∀ f ∈ fields, ∃ p, f.2 = .dict p

section Purge

variable {host : Host} {shelf : Shelf} {fields concepts patterns : Fields}

theorem exec_stats (hconcepts : Browsable host .concepts concepts)
    (hpatterns : Browsable host .patterns patterns) :
    exec stats host = (.ok ⟨concepts.length, patterns.length, oldCount host.now .concepts concepts,
      oldCount host.now .patterns patterns, storeOf host⟩, host) := by
  rw [stats, exec_bind_ok hconcepts.exec_load, exec_bind_ok hpatterns.exec_load,
    exec_bind_ok (exec_now host)]
  simp only [fieldsFor]
  rw [exec_bind_ok (exec_ofExcept _ _), staleCount_eq _ _ hconcepts.entries,
    exec_bind_ok (exec_ofExcept _ _), exec_bind_ok (exec_ofExcept _ _),
    staleCount_eq _ _ hpatterns.entries]
  rfl

theorem exec_clearShelf_stale (h : Browsable host shelf fields) :
    ∃ files, exec (clearShelf shelf true) host =
        (.ok (oldCount host.now shelf fields), { host with files }) ∧
      exec (save shelf (.dict (fresh host.now shelf fields))) host = (.ok ⟨⟩, { host with files }) ∧
      Browsable { host with files } shelf (fresh host.now shelf fields) := by
  have hread : isRead (.dict (fresh host.now shelf fields)) = true := by
    obtain ⟨hdistinct, hall⟩ := fieldsMadeOf_iff.mp h.isRead
    exact fieldsMadeOf_iff.mpr ⟨hdistinct.filter _, fun f hf => hall f (mem_of_mem_filter hf)⟩
  obtain ⟨files, hsave, hafter⟩ := h.exec_save hread
  refine ⟨files, ?_, hsave, hafter, fun f hf => h.entries f (mem_of_mem_filter hf)⟩
  have hcount : fields.length - (fresh host.now shelf fields).length =
      oldCount host.now shelf fields := by
    have hsum := length_eq_countP_add_countP (isOld shelf host.now ·.2) (l := fields)
    rw [oldCount, fresh, ← countP_eq_length_filter]
    simp only [Bool.not_eq_true, Bool.decide_eq_false] at hsum
    omega
  rw [clearShelf, exec_bind_ok h.exec_load, if_pos rfl]
  simp only [size, fieldsFor]
  rw [exec_bind_ok (exec_ofExcept _ _), exec_bind_ok (exec_ofExcept _ _), exec_bind_ok (exec_now host),
    freshFields_eq _ _ h.entries, exec_bind_ok (exec_ofExcept _ _), ← fresh, exec_bind_ok hsave, hcount]
  rfl

theorem exec_clear_stale (hconcepts : Browsable host .concepts concepts)
    (hpatterns : Browsable host .patterns patterns) :
    ∃ files, exec (clear (.text "all") true) host = (.ok (oldCount host.now .concepts concepts,
        oldCount host.now .patterns patterns), { host with files }) ∧
      Browsable { host with files } .concepts (fresh host.now .concepts concepts) ∧
      Browsable { host with files } .patterns (fresh host.now .patterns patterns) ∧
      Shelf.tables.standing { host with files } = Shelf.tables.standing host := by
  obtain ⟨files, hclear, hsave, hafter⟩ := exec_clearShelf_stale hconcepts
  have hbetween : Browsable { host with files } .patterns patterns :=
    ⟨hpatterns.of_save (by decide) hsave, hpatterns.entries⟩
  obtain ⟨files', hclear', hsave', hafter'⟩ := exec_clearShelf_stale hbetween
  refine ⟨files', ?_, ⟨hafter.of_save (by decide) hsave', hafter.entries⟩, hafter', ?_⟩
  · have hall : (text "all").isText "all" = true := rfl
    rw [clear_eq, hall, Bool.true_or, Bool.true_or, if_pos rfl, if_pos rfl, exec_bind_ok hclear,
      exec_bind_ok hclear']
    rfl
  · have hkeep := (keeps_standing_save (by decide : Shelf.tables ≠ .concepts) _).of_ok hsave
    have hkeep' := (keeps_standing_save (by decide : Shelf.tables ≠ .patterns) _).of_ok hsave'
    exact hkeep'.trans hkeep

/-- Purging removes as many entries as the statistics say are stale.  These are the old ones: the
others stay, in their order.  Afterwards no entry is stale, and a second purge removes none.  The
tables are left alone.  What is stale stays so. -/
theorem clear_stale_agrees_with_stats (hconcepts : Browsable host .concepts concepts)
    (hpatterns : Browsable host .patterns patterns) :
    ∃ before after files files', let host' : Host := { host with files }
      exec stats host = (.ok before, host) ∧
      before.staleConcepts = oldCount host.now .concepts concepts ∧
      before.stalePatterns = oldCount host.now .patterns patterns ∧
      exec (clear (.text "all") true) host =
        (.ok (before.staleConcepts, before.stalePatterns), host') ∧
      exec stats host' = (.ok after, host') ∧ after.staleConcepts = 0 ∧ after.stalePatterns = 0 ∧
      exec (clear (.text "all") true) host' = (.ok (0, 0), { host with files := files' }) ∧
      (∀ tree ∈ [files, files'], ∀ host'' : Host, host'' = { host with files := tree } →
        exec (load .concepts) host'' = (.ok (.dict (fresh host.now .concepts concepts)), host'') ∧
        exec (load .patterns) host'' = (.ok (.dict (fresh host.now .patterns patterns)), host'') ∧
        Shelf.tables.standing host'' = Shelf.tables.standing host) ∧
      ∀ (shelf : Shelf) (entry : Value) (now later : Moment),
        List.Lex (· < ·) now.stamp.numbers later.stamp.numbers →
        entryIsStale now.stamp shelf.timeKey entry = .ok true →
        entryIsStale later.stamp shelf.timeKey entry = .ok true := by
  obtain ⟨files, hclear, hconcepts', hpatterns', htables⟩ := exec_clear_stale hconcepts hpatterns
  obtain ⟨files', hagain, hconcepts'', hpatterns'', htables'⟩ := exec_clear_stale hconcepts' hpatterns'
  have hafter := exec_stats hconcepts' hpatterns'
  simp only [oldCount_fresh, fresh_fresh] at hagain hconcepts'' hpatterns'' hafter
  refine ⟨_, _, files, files', exec_stats hconcepts hpatterns, rfl, rfl, hclear, hafter, rfl, rfl,
    hagain, ?_, ?_⟩
  · intro tree htree host'' hhost
    subst hhost
    simp only [mem_cons, not_mem_nil, or_false] at htree
    rcases htree with rfl | rfl
    · exact ⟨hconcepts'.exec_load, hpatterns'.exec_load, htables⟩
    · exact ⟨hconcepts''.exec_load, hpatterns''.exec_load, htables'.trans htables⟩
  · intro shelf entry now later hlater hstale
    have hwall := Stamp.wall_mono now.date_valid now.time_valid later.date_valid later.time_valid hlater
    cases entry with
    | dict p =>
      rw [entryIsStale_eq _ _ ⟨p, rfl⟩] at hstale ⊢
      exact congrArg Except.ok (isOld_mono hwall (Except.ok.inj hstale))
    | _ => cases hstale

end Purge

def sampleConcepts : Fields :=
  [(.text "users", .object [("learned_at", .text "2024-01-01T09:30:00")]),
    (.text "orders", .object [("learned_at", .text "2024-05-01")]),
    (.text "regions", .object [("learned_at", .null)]),
    (.text "plans", .object [("learned_at", .text "2020-01-01T00:00:00Z")])]

theorem clear_stale_agrees_with_stats_sample :
    ∃ host, exec (load .concepts) host = (.ok (.dict sampleConcepts), host) ∧
      ∃ files, exec (clear (.text "all") true) host = (.ok (1, 0), { host with files }) := by
  have hread : isRead (.dict sampleConcepts) = true := by
    simp [sampleConcepts, object, madeOf, fieldsMadeOf, isTextKey,
      atomIsRead, atomIsJson, Atom.same]
  have hvacant := vacant_new ⟨⟨2024, 6, 1⟩, ⟨9, 30, 0, 0⟩, none⟩
  obtain ⟨files, hsave, hopens⟩ := (hvacant.opens .concepts).exec_save hread
  have hentries : ∀ f ∈ sampleConcepts, ∃ p, f.2 = .dict p := by
    simp [sampleConcepts, object]
  obtain ⟨before, _, files', -, -, hold, hold', hclear, -⟩ :=
    clear_stale_agrees_with_stats ⟨hopens, hentries⟩
      ⟨(hvacant.opens .patterns).of_save (by decide) hsave, by simp⟩
  have hcount : oldCount ⟨⟨2024, 6, 1⟩, ⟨9, 30, 0, 0⟩, none⟩ .concepts sampleConcepts = 1 := by
    decide +kernel
  refine ⟨_, hopens.exec_load, files', ?_⟩
  rw [hclear, hold, hold', hcount]
  rfl

end SkillKit.Knowledge
