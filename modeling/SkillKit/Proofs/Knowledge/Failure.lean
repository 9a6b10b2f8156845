import SkillKit.Proofs.Knowledge.Import

/-!
# Calls that fail

A call of the store that fails has changed no file (`untouched_or_halfCleared`): it loads and checks
first, and a shelf is written last (`Safe`).  An import fails at its first row or not at all
(`safe_learnRows`).  The exception is to clear concepts and patterns: the concepts are cleared first,
and stay so when the patterns cannot be cleared.
-/

namespace SkillKit.Knowledge

open Act Keeps Json

variable {α β : Type}
variable {host host' : Host} {f : Fault}

/-! ## Actions that are safe to fail -/

theorem Untouched.refl (host : Host) : Untouched host host :=
  ⟨rfl, fun _ => rfl⟩

/-- The action changes no file when it fails. -/
def Safe (act : Act α) : Prop :=
  ∀ host f host', exec act host = (.error f, host') → Untouched host host'

theorem Safe.of_keeps {act : Act α} (h : Keeps id act) : Safe act := by
  intro host f host' hrun
  have hsame : host' = host := by
    have hhost := h host
    rwa [hrun] at hhost
  rw [hsame]
  exact .refl host

theorem Safe.after {act : Act α} {next : α → Act β} (h : Keeps id act)
    (hnext : ∀ a, Safe (next a)) : Safe (act >>= next) := by
  intro host f host' hrun
  cases hact : exec act host with
  | mk r host₁ =>
    obtain rfl : host₁ = host := by
      have hhost := h host
      rwa [hact] at hhost
    cases r with
    | ok a =>
      rw [exec_bind_ok hact] at hrun
      exact hnext a _ f host' hrun
    | error g =>
      rw [exec_bind_error hact] at hrun
      cases hrun
      exact .refl _

theorem of_exec_map_error {act : Act α} {g : α → β} (h : exec (g <$> act) host = (.error f, host')) :
    exec act host = (.error f, host') := by
  rw [exec_map] at h
  cases hact : exec act host with
  | mk r host₁ =>
    rw [hact] at h
    cases r with
    | ok a => cases h
    | error e =>
      cases h
      rfl

theorem Safe.map {act : Act α} (h : Safe act) (g : α → β) : Safe (g <$> act) :=
  fun host f host' hrun => h host f host' (of_exec_map_error hrun)

theorem Safe.then_pure {act : Act α} (h : Safe act) (g : α → β) :
    Safe (act >>= fun a => pure (g a)) := by
  exact h.map g

theorem Safe.ofExcept {r : Except Fault α} {next : α → Act β} (hnext : ∀ a, Safe (next a)) :
    Safe (Act.ofExcept r >>= next) :=
  .after (Keeps.ofExcept r) hnext

theorem Safe.ite {c : Prop} [Decidable c] {act act' : Act α} (h : Safe act) (h' : Safe act') :
    Safe (if c then act else act') := by
  split
  · exact h
  · exact h'

theorem Safe.pure (a : α) : Safe (pure a : Act α) :=
  .of_keeps (Keeps.pure a)

theorem safe_save (shelf : Shelf) (data : Value) : Safe (save shelf data) :=
  fun _ _ _ => untouched_of_save_error

theorem keeps_now : Keeps id Act.now :=
  fun _ => rfl

/-! ## Calls on one shelf -/

theorem safe_learnConcept (concept table keyColumn dateColumn : Value) :
    Safe (learnConcept concept table keyColumn dateColumn) :=
  .after (keeps_load _) fun _ => .after keeps_now fun _ => .ofExcept fun _ => .ofExcept fun _ =>
    (safe_save _ _).then_pure _

theorem safe_learnPattern (name questionTypes strategy tablesUsed gotchas exampleQuery : Value) :
    Safe (learnPattern name questionTypes strategy tablesUsed gotchas exampleQuery) :=
  .after (keeps_load _) fun _ => .after keeps_now fun _ => .ofExcept fun _ => .ofExcept fun _ =>
    (safe_save _ _).then_pure _

theorem safe_setTable (name columns rowCount comment : Value) :
    Safe (setTable name columns rowCount comment) :=
  .after (keeps_load _) fun _ => .ofExcept fun _ => .after keeps_now fun _ => .ofExcept fun _ =>
    (safe_save _ _).then_pure _

theorem safe_recordOutcome (name success : Value) : Safe (recordOutcome name success) :=
  .after (keeps_load _) fun _ => .ofExcept fun _ => .ofExcept fun _ =>
    .ite (.ofExcept fun _ => (safe_save _ _).then_pure _) (.pure _)

theorem safe_deleteEntry (shelf : Shelf) (keyOf : Value → Except Fault String) (name : Value) :
    Safe (deleteEntry shelf keyOf name) := by
  refine .after (keeps_load _) fun _ => .ofExcept fun _ => .ofExcept fun left => ?_
  cases left with
  | none => exact .pure _
  | some data => exact (safe_save _ _).then_pure _

theorem safe_clearShelf (shelf : Shelf) (staleOnly : Bool) : Safe (clearShelf shelf staleOnly) :=
  .after (keeps_load _) fun _ =>
    .ite (.ofExcept fun _ => .ofExcept fun _ => .after keeps_now fun _ => .ofExcept fun _ =>
        (safe_save _ _).then_pure _)
      (.ofExcept fun _ => (safe_save _ _).then_pure _)

/-! ## Imports -/

theorem safe_learnRows (rows : List Row) : Safe (rows.forM learnRow) := by
  cases rows with
  | nil => exact .pure _
  | cons r rows =>
    intro host f host' hrun
    cases hrow : exec (learnRow r) host with
    | mk result host₁ =>
      cases result with
      | error g =>
        obtain ⟨rfl, rfl⟩ : g = f ∧ host₁ = host' := by
          have hfail := (exec_bind_error hrow).symm.trans hrun
          simpa using hfail
        exact (safe_learnConcept _ _ _ _).map _ host g host₁ hrow
      | ok u =>
        -- The first row was learned, and so no other one fails.
        change exec ((fun _ => ()) <$> learnConcept _ _ _ _) host = _ at hrow
        obtain ⟨_, _, hlearn, hend⟩ := of_exec_bind_ok hrow
        cases hend
        obtain ⟨-, files, -, -, rfl, fields, hopens⟩ :=
          opens_of_learnConcept (isRead_of_isJson (r.learned host.now).2) hlearn
        obtain ⟨files', hrest, -⟩ := exec_learnRows hopens rows
        cases hrun.symm.trans ((exec_bind_ok hrow).trans hrest)

theorem keeps_firstExisting (paths : List Path) : Keeps id (firstExisting paths) := by
  induction paths with
  | nil => exact pure _
  | cons p paths ih =>
    exact bind (pathExists p) fun _ => ite (pure _) ih

theorem keeps_documentPath (path : Option Path) : Keeps id (documentPath path) := by
  cases path with
  | some path => exact pure _
  | none => exact bind (fun _ => rfl) fun host => keeps_firstExisting _

theorem safe_importConcepts (path : Option Path) : Safe (importConcepts path) := by
  rw [importConcepts_eq]
  refine .after (keeps_documentPath path) fun path => ?_
  cases path with
  | none => exact .pure 0
  | some path =>
    exact .after (pathExists path) fun _ => .ite (.pure 0)
      (.after (readText path) fun _ => (safe_learnRows _).then_pure _)

/-! ## Calls that change the store -/

/-- A call that changes the store, with any arguments. -/
inductive Update where
  | learnConcept (concept table keyColumn dateColumn : Value)
  | learnPattern (name questionTypes strategy tablesUsed gotchas exampleQuery : Value)
  | recordOutcome (name success : Value)
  | deletePattern (name : Value)
  | setTable (name columns rowCount comment : Value)
  | deleteTable (name : Value)
  | clear (which staleOnly : Value)
  | importConcepts (path : Option Path)

def Update.perform : Update → Act Unit
  | .learnConcept concept table keyColumn dateColumn =>
    discard (Knowledge.learnConcept concept table keyColumn dateColumn)
  | .learnPattern name questionTypes strategy tablesUsed gotchas exampleQuery =>
    discard (Knowledge.learnPattern name questionTypes strategy tablesUsed gotchas exampleQuery)
  | .recordOutcome name success => discard (Knowledge.recordOutcome name success)
  | .deletePattern name => discard (Knowledge.deletePattern name)
  | .setTable name columns rowCount comment =>
    discard (Knowledge.setTable name columns rowCount comment)
  | .deleteTable name => discard (Knowledge.deleteTable name)
  | .clear which staleOnly => discard (Knowledge.clear which staleOnly.truthy)
  | .importConcepts path => discard (Knowledge.importConcepts path)

/-- The concepts were cleared, but the patterns could not be. -/
structure HalfCleared (staleOnly : Bool) (host : Host) (f : Fault) (host' : Host) : Prop where
  /-- The concepts are as clearing them leaves them. -/
  concepts : ∃ count cleared, exec (clearShelf .concepts staleOnly) host = (.ok count, cleared) ∧
    exec (clearShelf .patterns staleOnly) cleared = (.error f, host') ∧ Untouched cleared host'
  /-- The other shelves are as they were. -/
  others : ∀ shelf : Shelf, shelf ≠ .concepts → shelf.standing host' = shelf.standing host

theorem keeps_standing_clearShelf {shelf other : Shelf} (hother : other ≠ shelf) (staleOnly : Bool) :
    Keeps other.standing (clearShelf shelf staleOnly) :=
  bind (keeps_load _) fun _ => ite
    (bind (ofExcept _) fun _ => bind (ofExcept _) fun _ =>
      bind (fun _ => rfl) fun _ => bind (ofExcept _) fun _ =>
        bind (keeps_standing_save hother _) fun _ => pure _)
    (bind (ofExcept _) fun _ =>
      bind (keeps_standing_save hother _) fun _ => pure _)

theorem isText_all {which : Value}
    (hconcepts : (which.isText "all" || which.isText "concepts") = true)
    (hpatterns : (which.isText "all" || which.isText "patterns") = true) :
    which.isText "all" = true := by
  rw [Bool.or_eq_true] at hconcepts hpatterns
  rcases hconcepts with hall | hconcepts
  · exact hall
  · rcases hpatterns with hall | hpatterns
    · exact hall
    · cases which with
      | atom a =>
        cases a with
        | text s =>
          have hs : s = "concepts" := beq_iff_eq.mp hconcepts
          have hs' : s = "patterns" := beq_iff_eq.mp hpatterns
          exact absurd (hs.symm.trans hs') (by decide)
        | _ => cases hconcepts
      | _ => cases hconcepts

/-- Clearing that fails has changed no file, or is half done. -/
theorem of_clear_error {which : Value} {staleOnly : Bool}
    (h : exec (clear which staleOnly) host = (.error f, host')) :
    Untouched host host' ∨ which.isText "all" = true ∧ HalfCleared staleOnly host f host' := by
  have hpart : ∀ (c : Bool) (shelf : Shelf),
      Safe (if c then clearShelf shelf staleOnly else pure 0) :=
    fun _ shelf => .ite (safe_clearShelf shelf staleOnly) (.pure 0)
  rw [clear_eq] at h
  generalize hnamesC : (which.isText "all" || which.isText "concepts") = c at h
  generalize hnamesP : (which.isText "all" || which.isText "patterns") = p at h
  cases hfirst : exec (if c then clearShelf .concepts staleOnly else pure 0) host with
  | mk r cleared =>
    cases r with
    | error g =>
      rw [exec_bind_error hfirst] at h
      cases h
      exact .inl (hpart c .concepts host f host' hfirst)
    | ok count =>
      rw [exec_bind_ok hfirst] at h
      have hsecond : exec (if p then clearShelf .patterns staleOnly else pure 0) cleared =
          (.error f, host') := by
        exact of_exec_map_error h
      have huntouched := hpart p .patterns cleared f host' hsecond
      cases c with
      | false =>
        -- Nothing was cleared before the patterns.
        cases hfirst
        exact .inl huntouched
      | true =>
        cases p with
        | false => cases hsecond
        | true =>
          refine .inr ⟨isText_all hnamesC hnamesP, ⟨count, cleared, hfirst, hsecond, huntouched⟩, ?_⟩
          intro shelf hshelf
          rw [huntouched.shelves shelf]
          exact (keeps_standing_clearShelf hshelf staleOnly).of_ok hfirst

theorem exec_clear_all_error {staleOnly : Bool} {cleared : Host} {count : Nat}
    (hconcepts : exec (clearShelf .concepts staleOnly) host = (.ok count, cleared))
    (hpatterns : exec (clearShelf .patterns staleOnly) cleared = (.error f, host')) :
    exec (clear (.text "all") staleOnly) host = (.error f, host') := by
  exact (exec_bind_ok hconcepts).trans (exec_bind_error hpatterns)

/-- A call that fails has changed no file, or it is a call to clear both concepts and patterns, of
which it has cleared the concepts. -/
theorem untouched_or_halfCleared {update : Update} {host host' : Host} {f : Fault}
    (h : exec update.perform host = (.error f, host')) :
    Untouched host host' ∨ ∃ which staleOnly, update = .clear which staleOnly ∧
      which.isText "all" = true ∧ HalfCleared staleOnly.truthy host f host' := by
  cases update with
  | learnConcept => exact .inl ((safe_learnConcept _ _ _ _).map _ _ _ _ h)
  | learnPattern => exact .inl ((safe_learnPattern _ _ _ _ _ _).map _ _ _ _ h)
  | recordOutcome => exact .inl ((safe_recordOutcome _ _).map _ _ _ _ h)
  | deletePattern => exact .inl ((safe_deleteEntry _ _ _).map _ _ _ _ h)
  | setTable => exact .inl ((safe_setTable _ _ _ _).map _ _ _ _ h)
  | deleteTable => exact .inl ((safe_deleteEntry _ _ _).map _ _ _ _ h)
  | importConcepts => exact .inl ((safe_importConcepts _).map _ _ _ _ h)
  | clear which staleOnly =>
    have hclear : exec (clear which staleOnly.truthy) host = (.error f, host') := of_exec_map_error h
    exact (of_clear_error hclear).imp_right fun hhalf => ⟨which, staleOnly, rfl, hhalf⟩

def brokenHost : Host where
  files := .dir [("cache", .dir [("concepts.json", .file "\x7b\"old\": \"HQ.OLD\"\x7d".toUTF8),
    ("patterns.json", .file "?".toUTF8)])]
  store := some ⟨"/", ["cache"]⟩

theorem exec_clear_brokenHost :
    ∃ f host', exec (Update.clear (.text "all") (.bool false)).perform brokenHost = (.error f, host') ∧
      Shelf.concepts.standing host' = .ok (.file "\x7b\x7d".toUTF8) := by
  have hconcepts : HasText brokenHost.files (storeNames brokenHost) .concepts
      "\x7b\"old\": \"HQ.OLD\"\x7d" := ⟨_, _, rfl, rfl⟩
  have hopens : Opens .concepts brokenHost [(.text "old", .text "HQ.OLD")] :=
    HasText.opens hconcepts (readsBack_of_write rfl (by decide +kernel))
  obtain ⟨files, hsave, -⟩ := hopens.exec_save (show isRead (.dict []) = true from rfl)
  obtain ⟨_, _, _, _, _, ⟨⟩, -, -, -, ⟨⟩, hdir⟩ := of_exec_save_ok hsave
  have hclear : exec (clearShelf .concepts false) brokenHost = (.ok 1, { brokenHost with files }) := by
    have hsize : Value.size (.dict [(.text "old", .text "HQ.OLD")]) = .ok 1 := rfl
    rw [clearShelf, exec_bind_ok hopens.exec_load, if_neg Bool.false_ne_true, hsize,
      exec_bind_ok (exec_ofExcept (.ok 1) _), exec_bind_ok hsave]
    rfl
  -- The patterns are what they were, and no document is read from them.
  have hpatterns : Shelf.patterns.standing { brokenHost with files } = .ok (.file "?".toUTF8) :=
    (keeps_standing_save (by decide) _).of_ok hsave
  obtain ⟨f, hread⟩ : ∃ f, read (Text.unifyLines "?") = .error f := ⟨_, rfl⟩
  have hfail : exec (clearShelf .patterns false) { brokenHost with files } =
      (.error f, { brokenHost with files }) := by
    rw [clearShelf, exec_bind_error]
    rw [exec_load_of_standing hpatterns, hread]
  refine ⟨f, { brokenHost with files }, ?_,
    HasText.standing ⟨_, _, hdir, Tree.lookup_setEntry_self _ _ _⟩⟩
  change exec (_ <$> clear (.text "all") false) brokenHost = _
  rw [exec_map, exec_clear_all_error hclear hfail]
  rfl

theorem standing_brokenHost_ne :
    Shelf.concepts.standing brokenHost ≠ .ok (.file "\x7b\x7d".toUTF8) := by
  intro h
  injection h with h
  injection h with h
  exact absurd (congrArg ByteArray.size h) (by decide +kernel)

/-- A call to clear this store fails when the concepts are cleared and the patterns are not. -/
theorem untouched_or_halfCleared_broken :
    ∃ f host', exec (Update.clear (.text "all") (.bool false)).perform brokenHost = (.error f, host') ∧
      HalfCleared false brokenHost f host' := by
  obtain ⟨f, host', hrun, hafter⟩ := exec_clear_brokenHost
  refine ⟨f, host', hrun, ?_⟩
  rcases untouched_or_halfCleared hrun with huntouched | ⟨which, staleOnly, hcall, -, hhalf⟩
  · exact absurd ((huntouched.shelves .concepts).symm.trans hafter) standing_brokenHost_ne
  · cases hcall
    exact hhalf

/-- A failed call to clear everything has changed the file of concepts. -/
theorem clear_all_changes_concepts :
    ∃ f host', exec (Update.clear (.text "all") (.bool false)).perform brokenHost = (.error f, host') ∧
      Shelf.concepts.standing host' ≠ Shelf.concepts.standing brokenHost := by
  obtain ⟨f, host', hrun, hafter⟩ := exec_clear_brokenHost
  refine ⟨f, host', hrun, fun hsame => ?_⟩
  exact standing_brokenHost_ne (hsame.symm.trans hafter)

end SkillKit.Knowledge
