import SkillKit.Proofs.Knowledge.Failure
import SkillKit.Proofs.Knowledge.Refinement

/-!
# Outcomes of patterns

A pattern on the shelf is the last one that was learned under its key, with the outcomes that were
recorded under the key since then (`get?_patterns_iff`).  It is there unless it has been deleted or
cleared since.  What happens to it at each use of the store is said once (`becomes`); uses under
another key, and those of the other shelves, leave it as it is.
-/

namespace SkillKit.Knowledge

open Act List Keeps Value Json OrderedMap Memory

variable {key : String} {u : Moment × Use} {p : Pattern}

/-! ## Counts -/

/-- The count of a number, up to the largest one that JSON holds. -/
def Count.upTo (n : Nat) : Count :=
  ⟨min n (10 ^ maxDigits - 1), by
    have hpos : 0 < 10 ^ maxDigits := Nat.pow_pos (by decide)
    omega⟩

/-- The pattern with more outcomes. -/
def Pattern.add (p : Pattern) (successes failures : Nat) : Pattern :=
  { p with
    successes := .upTo (p.successes.1 + successes)
    failures := .upTo (p.failures.1 + failures) }

theorem Count.val_upTo (n : Nat) : (Count.upTo n).1 = min n (10 ^ maxDigits - 1) := rfl

theorem Count.upTo_self (n : Count) : Count.upTo n.1 = n := by
  refine Subtype.ext ?_
  rw [Count.val_upTo]
  omega

@[simp] theorem Pattern.made_add (p : Pattern) (s f : Nat) : (p.add s f).made = p.made := rfl

theorem Pattern.add_zero (p : Pattern) : p.add 0 0 = p := by
  rw [Pattern.add, Nat.add_zero, Nat.add_zero, Count.upTo_self, Count.upTo_self]

theorem Pattern.add_add (p : Pattern) (s f s' f' : Nat) :
    (p.add s f).add s' f' = p.add (s + s') (f + f') := by
  have hadd : ∀ a b : Nat, Count.upTo ((Count.upTo a).1 + b) = Count.upTo (a + b) := by
    intro a b
    refine Subtype.ext ?_
    rw [Count.val_upTo, Count.val_upTo, Count.val_upTo]
    omega
  simp only [Pattern.add, hadd, Nat.add_assoc]

theorem Pattern.getD_record (p : Pattern) (success : Bool) :
    (p.record success).getD p = p.add success.toNat (!success).toNat := by
  have hnext : ∀ n : Count, n.next?.getD n = Count.upTo (n.1 + 1) := by
    intro n
    have hn := n.2
    refine Subtype.ext ?_
    rw [Count.val_upTo]
    cases hcount : n.next? with
    | none =>
      have := Count.next?_eq_none hcount
      simp only [Option.getD_none]
      omega
    | some c =>
      have := Count.next?_eq_some hcount
      have := c.2
      simp only [Option.getD_some]
      omega
  cases success with
  | true =>
    calc (p.record true).getD p = { p with successes := p.successes.next?.getD p.successes } := by
          cases hcount : p.successes.next? <;> simp [Pattern.record, hcount]
      _ = p.add 1 0 := by simp only [hnext, Pattern.add, Nat.add_zero, Count.upTo_self]
  | false =>
    calc (p.record false).getD p = { p with failures := p.failures.next?.getD p.failures } := by
          cases hcount : p.failures.next? <;> simp [Pattern.record, hcount]
      _ = p.add 0 1 := by simp only [hnext, Pattern.add, Nat.add_zero, Count.upTo_self]

/-! ## Uses of the store -/

/-- A use of the store: a call, or another use that says nothing about patterns. -/
inductive Use where
  | call (c : Call)
  | lookupPattern (question : Value)
  | stats
  | importConcepts (path : Option Path)

def Use.perform : Use → Act Unit
  | .call c => discard c.perform
  | .lookupPattern question => discard (Knowledge.lookupPattern question)
  | .stats => discard Knowledge.stats
  | .importConcepts path => discard (Knowledge.importConcepts path)

/-- The host after uses one after the other, each at its own time.  A use may fail. -/
def afterAll (host : Host) (uses : List (Moment × Use)) : Host :=
  uses.foldl (fun host u => (exec u.2.perform { host with now := u.1.stamp }).2) host

/-- The pattern that a use learns under a key. -/
def learned? (key : String) : Moment × Use → Option Pattern
  | (now, .call (.learnPattern name questionTypes strategy tablesUsed gotchas exampleQuery)) =>
    if nameKey name = key then
      some ⟨questionTypes, strategy, tablesUsed, gotchas, exampleQuery, now, .one, .zero⟩
    else none
  | _ => none

/-- Whether a use takes away the pattern under a key that was made at a time: it deletes or clears
it. -/
def removes (key : String) (made : Moment) : Moment × Use → Bool
  | (_, .call (.deletePattern name)) => nameKey name = key
  | (now, .call (.clear which staleOnly)) =>
    (which.1.isText "all" || which.1.isText "patterns") &&
      (!staleOnly.1.truthy || made.isStaleAt now)
  | _ => false

/-- Whether a use records an outcome under a key. -/
def records (key : String) (success : Bool) : Moment × Use → Bool
  | (_, .call (.recordOutcome name outcome)) => nameKey name = key && outcome.1.truthy == success
  | _ => false

theorem add_learned (h : learned? key u = some p) (s f : Nat) :
    p.add s f = { p with successes := .upTo (1 + s), failures := .upTo f } := by
  unfold learned? at h
  split at h
  · split at h
    · cases h
      rw [Pattern.add, Count.zero, Nat.zero_add]
      rfl
    · cases h
  · cases h

/-- What becomes of the pattern under a key at a use. -/
def becomes (key : String) (u : Moment × Use) (p : Option Pattern) : Option Pattern :=
  (learned? key u).or ((p.filter (!removes key ·.made u)).map
    (·.add ([u].countP (records key true)) ([u].countP (records key false))))

theorem becomes_of_idle (hlearned : learned? key u = none)
    (hremoves : ∀ made, removes key made u = false) (hrecords : ∀ s, records key s u = false)
    (p : Option Pattern) : becomes key u p = p := by
  cases p <;> simp [becomes, hlearned, hremoves, hrecords, Pattern.add_zero]

theorem find?_answer (m : Memory) (now : Moment) (call : Call) (key : String) :
    (m.answer now call).2.patterns.find? key = becomes key (now, .call call) (m.patterns.find? key) := by
  cases call with
  | learnConcept | lookupConcept | listConcepts | listPatterns | setTable | getTable | deleteTable
  | listTables => exact (becomes_of_idle rfl (fun _ => rfl) (fun _ => rfl) _).symm
  | learnPattern name questionTypes strategy tablesUsed gotchas exampleQuery =>
    by_cases hkey : nameKey name = key
    · simp [answer, find?_insert, becomes, learned?, hkey]
    · rw [becomes_of_idle (by simp [learned?, hkey]) (fun _ => rfl) (fun _ => rfl)]
      simp [answer, find?_insert, Ne.symm hkey]
  | recordOutcome name success =>
    by_cases hkey : nameKey name = key
    · subst hkey
      cases hp : m.patterns.find? (nameKey name) with
      | none => simp [answer, hp, becomes, learned?]
      | some p =>
        have hrecord := p.getD_record success.1.truthy
        have hnew : becomes (nameKey name) (now, .call (.recordOutcome name success)) (some p) =
            some (p.add success.1.truthy.toNat (!success.1.truthy).toNat) := by
          cases hs : success.1.truthy <;> simp [becomes, learned?, removes, records, hs]
        rw [hnew, ← hrecord, answer]
        cases hr : p.record success.1.truthy <;> simp [hp, hr, find?_insert]
    · rw [becomes_of_idle rfl (fun _ => rfl) (fun _ => by simp [records, hkey])]
      simp only [answer]
      split
      · rfl
      · split
        · rfl
        · simp [find?_insert, Ne.symm hkey]
  | deletePattern name =>
    by_cases hkey : nameKey name = key
    · simp [answer, find?_erase, becomes, learned?, removes, hkey]
    · rw [becomes_of_idle rfl (fun _ => by simp [removes, hkey]) (fun _ => rfl)]
      simp [answer, find?_erase, Ne.symm hkey]
  | clear which staleOnly =>
    have hbecomes : becomes key (now, .call (.clear which staleOnly)) (m.patterns.find? key) =
        (m.patterns.find? key).filter (!removes key ·.made (now, .call (.clear which staleOnly))) := by
      simp [becomes, learned?, records, Pattern.add_zero]
    rw [hbecomes]
    simp only [answer, removes]
    by_cases hnamed : (which.1.isText "all" || which.1.isText "patterns") = true
    · by_cases hstale : staleOnly.1.truthy = true
      · simp [hnamed, hstale, Memory.cleared, OrderedMap.find?_filter]
      · simp [hnamed, hstale, Memory.cleared, OrderedMap.find?, OrderedMap.empty]
    · have hall : ∀ o : Option Pattern, o.filter (fun _ => true) = o := by rintro (_ | _) <;> rfl
      simp [hnamed, hall]

/-! ## Histories -/

/-- What uses one after the other make of the pattern under a key. -/
def tracked (key : String) (uses : List (Moment × Use)) : Option Pattern :=
  uses.foldl (fun p u => becomes key u p) none

theorem becomes_some (hlearned : learned? key u = none) (hremoves : removes key p.made u = false) :
    becomes key u (some p) =
      some (p.add ([u].countP (records key true)) ([u].countP (records key false))) := by
  rw [becomes, hlearned, Option.filter_some_pos (by simp [hremoves])]
  rfl

theorem foldl_becomes {since : List (Moment × Use)}
    (h : ∀ u ∈ since, learned? key u = none ∧ removes key p.made u = false) :
    since.foldl (fun p u => becomes key u p) (some p) =
      some (p.add (since.countP (records key true)) (since.countP (records key false))) := by
  induction since generalizing p with
  | nil => exact congrArg some p.add_zero.symm
  | cons u since ih =>
    obtain ⟨hu, hsince⟩ := forall_mem_cons.mp h
    rw [foldl_cons, becomes_some hu.1 hu.2, @ih (p.add _ _) hsince, Pattern.add_add, ← countP_append,
      ← countP_append]
    rfl

/-- The pattern under a key is the last one that was learned, if none of the uses since then took it
away, with the outcomes that these recorded. -/
theorem tracked_eq_some_iff {uses : List (Moment × Use)} {q : Pattern} :
    tracked key uses = some q ↔ ∃ before u since p, uses = before ++ u :: since ∧
      learned? key u = some p ∧
      (∀ v ∈ since, learned? key v = none ∧ removes key p.made v = false) ∧
      q = p.add (since.countP (records key true)) (since.countP (records key false)) := by
  constructor
  · intro h
    -- The last use learned the pattern, or left the one that was there.
    induction uses using reverseRecOn generalizing q with
    | nil => cases h
    | append_singleton uses v ih =>
      rw [tracked, foldl_append] at h
      change becomes key v (tracked key uses) = some q at h
      cases hlearned : learned? key v with
      | some p =>
        rw [becomes, hlearned] at h
        cases h
        exact ⟨uses, v, [], q, rfl, hlearned, by simp, q.add_zero.symm⟩
      | none =>
        rw [becomes, hlearned, Option.none_or, Option.map_eq_some_iff] at h
        obtain ⟨q', hq', rfl⟩ := h
        obtain ⟨htracked, hkept⟩ := Option.filter_eq_some_iff.mp hq'
        obtain ⟨before, u, since, p, rfl, hu, hsince, rfl⟩ := ih htracked
        refine ⟨before, u, since ++ [v], p, by simp, hu, ?_, ?_⟩
        · exact forall_mem_append.mpr ⟨hsince, by simpa [hlearned] using hkept⟩
        · rw [Pattern.add_add, countP_append, countP_append]
  · rintro ⟨before, u, since, p, rfl, hu, hsince, rfl⟩
    rw [tracked, foldl_append, foldl_cons, becomes, hu]
    exact foldl_becomes hsince

/-! ## Patterns on the shelf -/

/-- The action leaves shelves with what is in a memory, with the same patterns. -/
def SparesPatterns {α : Type} (act : Act α) : Prop :=
  ∀ (host : Host) (m : Memory) (now : Moment), host.now = now.stamp → m.LiesOn host →
    ∃ (r : Except Fault α) (m' : Memory), Leaves act host r m' ∧ m'.patterns = m.patterns

section Spares

variable {α β : Type}

theorem SparesPatterns.of_keeps {act : Act α} (h : Keeps id act) : SparesPatterns act := by
  intro host m now _ hlies
  exact ⟨_, m, .of_exec (Prod.ext rfl (h host)) hlies, rfl⟩

theorem SparesPatterns.bind {act : Act α} {next : α → Act β} (h : SparesPatterns act)
    (hnext : ∀ a, SparesPatterns (next a)) : SparesPatterns (act >>= next) := by
  intro host m now hnow hlies
  obtain ⟨r, m', ⟨files, hact, hfiles⟩, hsame⟩ := h host m now hnow hlies
  cases r with
  | error f => exact ⟨.error f, m', ⟨files, exec_bind_error hact, hfiles⟩, hsame⟩
  | ok a =>
    obtain ⟨r, m'', ⟨files', hexec, hfiles'⟩, hsame'⟩ :=
      hnext a { host with files } m' now hnow hfiles
    exact ⟨r, m'', ⟨files', by rw [exec_bind_ok hact, hexec], hfiles'⟩, hsame'.trans hsame⟩

theorem Leaves.discard {act : Act α} {host : Host} {r : Except Fault α} {m : Memory}
    (h : Leaves act host r m) : ∃ r, Leaves (discard act) host r m := by
  obtain ⟨files, hexec, hfiles⟩ := h
  cases r with
  | error f => exact ⟨.error f, files, exec_bind_error hexec, hfiles⟩
  | ok a => exact ⟨.ok ⟨⟩, files, exec_bind_ok hexec, hfiles⟩

theorem spares_learnRow (r : Row) : SparesPatterns (learnRow r) := by
  intro host m now hnow hlies
  have hleaves := leaves_perform host hlies hnow (.learnConcept r.concept ⟨.text r.table, rfl⟩
    ⟨columnValue r.keyColumn, isJson_columnValue _⟩ ⟨columnValue r.dateColumn, isJson_columnValue _⟩)
  obtain ⟨r, hleaves⟩ := hleaves.discard
  exact ⟨r, _, hleaves, rfl⟩

theorem spares_learnRows (rows : List Row) : SparesPatterns (rows.forM learnRow) := by
  induction rows with
  | nil => exact .of_keeps (pure _)
  | cons r rows ih => exact (spares_learnRow r).bind fun _ => ih

theorem spares_importConcepts (path : Option Path) : SparesPatterns (importConcepts path) := by
  rw [importConcepts_eq]
  refine (SparesPatterns.of_keeps (keeps_documentPath path)).bind fun path => ?_
  cases path with
  | none => exact .of_keeps (pure 0)
  | some path =>
    refine (SparesPatterns.of_keeps (pathExists path)).bind fun there => ?_
    cases there with
    | false => exact .of_keeps (pure 0)
    | true =>
      exact (SparesPatterns.of_keeps (readText path)).bind fun _ =>
        (spares_learnRows _).bind fun _ => .of_keeps (pure _)

theorem keeps_lookupPattern (question : Value) : Keeps id (lookupPattern question) :=
  bind (keeps_load _) fun _ => bind (ofExcept _) fun _ =>
    bind (ofExcept _) fun _ => bind (ofExcept _) fun _ =>
      bind (ofExcept _) fun _ => pure _

theorem keeps_stats : Keeps id stats :=
  bind (keeps_load _) fun _ => bind (keeps_load _) fun _ => bind keeps_now fun _ =>
    bind (ofExcept _) fun _ => bind (ofExcept _) fun _ =>
      bind (ofExcept _) fun _ => bind (ofExcept _) fun _ =>
        bind (fun _ => rfl) fun _ => pure _

end Spares

theorem exists_leaves (host : Host) (m : Memory) (u : Moment × Use) (h : m.LiesOn host) :
    ∃ r m', Leaves u.2.perform { host with now := u.1.stamp } r m' ∧
      ∀ key, m'.patterns.find? key = becomes key u (m.patterns.find? key) := by
  obtain ⟨now, use⟩ := u
  have hspared : ∀ {α : Type} {act : Act α}, SparesPatterns act →
      ∃ r m', Leaves (discard act) { host with now := now.stamp } r m' ∧ m'.patterns = m.patterns := by
    intro α act hact
    obtain ⟨r, m', hleaves, hsame⟩ := hact { host with now := now.stamp } m now rfl (h.at now.stamp)
    obtain ⟨r, hleaves⟩ := hleaves.discard
    exact ⟨r, m', hleaves, hsame⟩
  cases use with
  | call c =>
    obtain ⟨r, hleaves⟩ := (leaves_perform { host with now := now.stamp } (h.at now.stamp) rfl c).discard
    exact ⟨r, _, hleaves, find?_answer m now c⟩
  | lookupPattern question =>
    obtain ⟨r, m', hleaves, hsame⟩ := hspared (.of_keeps (keeps_lookupPattern question))
    exact ⟨r, m', hleaves, fun key => by rw [hsame, becomes_of_idle rfl (fun _ => rfl) (fun _ => rfl)]⟩
  | stats =>
    obtain ⟨r, m', hleaves, hsame⟩ := hspared (.of_keeps keeps_stats)
    exact ⟨r, m', hleaves, fun key => by rw [hsame, becomes_of_idle rfl (fun _ => rfl) (fun _ => rfl)]⟩
  | importConcepts path =>
    obtain ⟨r, m', hleaves, hsame⟩ := hspared (spares_importConcepts path)
    exact ⟨r, m', hleaves, fun key => by rw [hsame, becomes_of_idle rfl (fun _ => rfl) (fun _ => rfl)]⟩

/-- After uses of a store without files, its shelves have what became of each pattern. -/
theorem exists_liesOn_afterAll {host : Host} (h : Vacant host.files (storeNames host))
    (uses : List (Moment × Use)) :
    ∃ m : Memory, m.LiesOn (afterAll host uses) ∧
      ∀ key, m.patterns.find? key = tracked key uses := by
  induction uses using reverseRecOn with
  | nil => exact ⟨.empty, liesOn_empty h, fun _ => rfl⟩
  | append_singleton uses u ih =>
    obtain ⟨m, hlies, hfind⟩ := ih
    obtain ⟨r, m', ⟨files, hexec, hfiles⟩, hbecomes⟩ := exists_leaves _ m u hlies
    refine ⟨m', ?_, fun key => ?_⟩
    · rw [afterAll, foldl_append, foldl_cons, foldl_nil, ← afterAll, hexec]
      exact hfiles
    · rw [hbecomes, hfind, tracked, tracked, foldl_append]
      rfl

/-- After uses of a store without files, an entry stands under a key exactly if a pattern was learned
under it, and not learned again or taken away since.  The entry is that pattern, with one success more
than there are successes that were recorded under the key since then, and with as many failures. -/
theorem get?_patterns_iff {host : Host} (h : Vacant host.files (storeNames host))
    (uses : List (Moment × Use)) :
    ∃ fields, exec (load .patterns) (afterAll host uses) =
        (.ok (.dict fields), afterAll host uses) ∧
      ∀ name entry, Fields.get? fields (nameKey name) = some entry ↔
        ∃ before u since p, uses = before ++ u :: since ∧ learned? (nameKey name) u = some p ∧
          (∀ v ∈ since, learned? (nameKey name) v = none ∧
            removes (nameKey name) p.made v = false) ∧
          entry = Pattern.toValue { p with
            successes := .upTo (1 + since.countP (records (nameKey name) true))
            failures := .upTo (since.countP (records (nameKey name) false)) } := by
  obtain ⟨m, hlies, hfind⟩ := exists_liesOn_afterAll h uses
  refine ⟨_, (hlies .patterns).exec_load, fun name entry => ?_⟩
  rw [fields, get?_toFields, hfind, Option.map_eq_some_iff]
  constructor
  · rintro ⟨q, hq, rfl⟩
    obtain ⟨before, u, since, p, huses, hu, hsince, rfl⟩ := tracked_eq_some_iff.mp hq
    exact ⟨before, u, since, p, huses, hu, hsince, by rw [add_learned hu]⟩
  · rintro ⟨before, u, since, p, huses, hu, hsince, rfl⟩
    exact ⟨_, tracked_eq_some_iff.mpr ⟨before, u, since, p, huses, hu, hsince, rfl⟩,
      by rw [add_learned hu]⟩

/-- Outcomes of a pattern under other spellings of its name, and of a second pattern. -/
def sampleUses : List (Moment × Use) :=
  [(winter, .call (.learnPattern "Growth" noDocument noDocument noDocument noDocument noDocument)),
    (winter, .call (.recordOutcome " GROWTH" (boolDocument true))),
    (winter, .call (.recordOutcome "churn" (boolDocument true))),
    (summer, .stats),
    (summer, .call (.clear (textDocument "concepts") (boolDocument true))),
    (summer, .call (.recordOutcome "growth" (boolDocument false)))]

theorem get?_patterns_iff_sample : ∃ fields entry,
    exec (load .patterns) (afterAll {} sampleUses) = (.ok (.dict fields), afterAll {} sampleUses) ∧
      Fields.get? fields (nameKey "growth") = some entry ∧
      entry.field? "success_count" = some (.nat 2) ∧ entry.field? "failure_count" = some (.nat 1) := by
  obtain ⟨fields, hload, hiff⟩ := get?_patterns_iff (vacant_new _) sampleUses
  have hkey : nameKey "Growth" = nameKey "growth" := by decide +kernel
  have hlearned : learned? (nameKey "growth") (winter, .call (.learnPattern "Growth" noDocument
      noDocument noDocument noDocument noDocument)) = some ⟨noDocument, noDocument, noDocument,
        noDocument, noDocument, winter, .one, .zero⟩ := by
    rw [learned?, if_pos hkey]
  have hkept : ∀ v ∈ sampleUses.tail, learned? (nameKey "growth") v = none ∧
      removes (nameKey "growth") winter v = false := by
    simp [sampleUses, learned?, removes, textDocument, isText]
  have hlong : 2 < 10 ^ maxDigits := Nat.lt_trans (by decide) (Nat.lt_pow_self (by decide))
  have hcounts : sampleUses.tail.countP (records (nameKey "growth") true) = 1 ∧
      sampleUses.tail.countP (records (nameKey "growth") false) = 1 := by decide +kernel
  have hupTo : (Count.upTo 2).1 = 2 ∧ (Count.upTo 1).1 = 1 := by
    rw [Count.val_upTo, Count.val_upTo]
    omega
  refine ⟨fields, _, hload, (hiff "growth" _).mpr ⟨[], _, _, _, rfl, hlearned, hkept, rfl⟩, ?_, ?_⟩
  · change some (nat (Count.upTo (1 + sampleUses.tail.countP _)).1) = _
    rw [hcounts.1, hupTo.1]
  · change some (nat (Count.upTo (sampleUses.tail.countP _)).1) = _
    rw [hcounts.2, hupTo.2]

end SkillKit.Knowledge
