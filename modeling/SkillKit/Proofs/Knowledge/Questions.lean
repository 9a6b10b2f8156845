import SkillKit.Proofs.Data.Sorting
import SkillKit.Proofs.Knowledge.Shelf

/-!
# Patterns for a question

A question is of a kind if what is looked for of each word of the kind stands in it (`OfKind`).  The
patterns with such a kind are found, those with more successes first (`lookupPattern_ranked`).  As the
letter x is left out of what is looked for, and not of the question, a pattern need not be found by the
questions that it was learned with (`mem_lookupPattern_learned`).
-/

namespace SkillKit.Knowledge

open Act Text
open List hiding contains dropPrefix?

variable {s kind question : String}

/-! ## Kinds of questions -/

/-- What is looked for of a word: all of it but the letter x. -/
def keyword (word : String) : String :=
  String.ofList (word.toList.filter (· != 'x'))

/-- A question is of a kind: what is looked for of a word of the kind has at most two letters or
stands in the question. -/
def OfKind (question kind : String) : Prop :=
  ∀ word ∈ words (lower kind), 2 < (keyword word).length →
    contains (lower question) (keyword word) = true

theorem mem_words {word : String} :
    word ∈ words s ↔ word ≠ "" ∧ word.toList ∈ splitWhen isBlank s.toList := by
  simp only [words, mem_map, mem_filter]
  constructor
  · rintro ⟨piece, ⟨hpiece, hne⟩, rfl⟩
    exact ⟨by simpa using hne, by rwa [String.toList_ofList]⟩
  · rintro ⟨hne, hword⟩
    exact ⟨word.toList, ⟨hword, by simpa using hne⟩, String.ofList_toList⟩

theorem ne_empty_of_length (h : 2 < s.length) : s ≠ "" := by
  rintro rfl
  cases h

theorem questionMatches_iff :
    questionMatches (lower question) kind = true ↔ OfKind question kind := by
  have hpieces : splitWhen isBlank (replace (lower kind) "x" "").toList =
      (splitWhen isBlank (lower kind).toList).map (filter (· != 'x')) := by
    rw [show "x" = String.singleton 'x' from rfl, toList_replace_char]
    refine splitWhen_filter (fun c hc => ?_) _
    rw [bne_iff_ne]
    rintro rfl
    cases hc
  simp only [questionMatches, all_eq_true, mem_filter, decide_eq_true_eq, OfKind, mem_words,
    hpieces, mem_map]
  constructor
  · rintro h word ⟨-, hword⟩ hlong
    exact h _ ⟨⟨ne_empty_of_length hlong, _, hword, String.toList_ofList.symm⟩, hlong⟩
  · rintro h part ⟨⟨-, piece, hpiece, hkeyword⟩, hlong⟩
    obtain rfl : keyword (String.ofList piece) = part := by
      rw [keyword, String.toList_ofList, hkeyword, String.ofList_toList]
    refine h _ ⟨?_, by rwa [String.toList_ofList]⟩ hlong
    intro hempty
    rw [hempty] at hlong
    cases hlong

theorem OfKind.mono {wider : String} (h : OfKind question kind)
    (hwider : contains (lower wider) (lower question) = true) : OfKind wider kind := by
  intro word hword hlong
  rw [contains, isInfix_iff] at hwider ⊢
  exact ((isInfix_iff _ _).mp (h word hword hlong)).trans hwider

theorem ofKind_self (h : 'x' ∉ (lower question).toList) : OfKind question question := by
  intro word hword _
  have hpiece := infix_of_mem_splitWhen (mem_words.mp hword).2
  have hkeyword : keyword word = word := by
    rw [keyword, filter_eq_self.mpr fun c hc => ?_, String.ofList_toList]
    rw [bne_iff_ne]
    rintro rfl
    exact h (hpiece.subset hc)
  rw [hkeyword, contains, isInfix_iff]
  exact hpiece

/-! ## Patterns -/

def kindsOf (entry : Value) : List String :=
  match ((entry.field? "question_types").getD (.list [])).parts with
  | .ok kinds => kinds.filterMap (·.asText?)
  | .error _ => []

def successesOf (entry : Value) : Int :=
  match entry.field? "success_count" with
  | some (.int n) => n
  | _ => 0

/-- A pattern as it is documented: kinds of questions are texts and successes an integer.  Either may
be missing. -/
structure IsPattern (entry : Value) : Prop where
  isDict : ∃ fields, entry = .dict fields
  kinds : ∀ v ∈ entry.field? "question_types", ∃ kinds, v = .texts kinds
  successes : ∀ v ∈ entry.field? "success_count", ∃ n, v = .int n

/-- A pattern as it is shown: its fields, with its name in front. -/
def shown : Atom × Value → Value
  | (name, .dict fields) => .dict (Fields.merge [(.text "name", .atom name)] fields)
  | (_, v) => v

/-- Whether a question is of a kind of a pattern. -/
def fits (question : String) (entry : Value) : Bool :=
  (kindsOf entry).any (questionMatches (lower question))

theorem fits_iff {entry : Value} :
    fits question entry = true ↔ ∃ kind ∈ kindsOf entry, OfKind question kind := by
  simp only [fits, any_eq_true, questionMatches_iff]

section Lookup

variable {host : Host} {fields : Fields} {f : Atom × Value}

theorem field?_shown (h : Json.isRead f.2 = true) {key : String} (hkey : key ≠ "name") :
    (shown f).field? key = f.2.field? key := by
  obtain ⟨name, v⟩ := f
  cases v with
  | dict fields =>
    have hname : Fields.get? [(.text "name", .atom name)] key = none := by
      have hother : (Atom.text "name").same (.text key) = false := beq_eq_false_iff_ne.mpr hkey.symm
      rw [Fields.get?_cons, hother]
      rfl
    change Fields.get? (Fields.merge _ fields) key = Fields.get? fields key
    rw [Fields.get?_merge h, hname, Option.or_none]
  | _ => rfl

theorem anyMatches_text (question kind : String) (kinds : List Value) :
    anyMatches question (.text kind :: kinds) =
      if questionMatches question kind then .ok true else anyMatches question kinds := by
  rw [anyMatches, Value.textFor, Result.ok_bind]
  rfl

theorem eq_any_of_anyMatches {kinds : List Value} {b : Bool} (h : anyMatches question kinds = .ok b) :
    b = (kinds.filterMap (·.asText?)).any (questionMatches question) := by
  induction kinds with
  | nil =>
    cases h
    rfl
  | cons kind kinds ih =>
    cases kind with
    | atom a =>
      cases a with
      | text kind =>
        have hkinds : (Value.text kind :: kinds).filterMap (·.asText?) =
          kind :: kinds.filterMap (·.asText?) := rfl
        rw [anyMatches_text] at h
        rw [hkinds, any_cons]
        cases hmatch : questionMatches question kind with
        | true =>
          rw [hmatch] at h
          cases h
          rfl
        | false =>
          rw [hmatch] at h
          exact ih h
      | _ => cases h
    | _ => cases h

theorem exists_anyMatches (question : String) (kinds : List String) :
    ∃ b, anyMatches question (kinds.map .text) = .ok b := by
  induction kinds with
  | nil => exact ⟨false, rfl⟩
  | cons kind kinds ih =>
    rw [map_cons, anyMatches_text]
    split
    · exact ⟨true, rfl⟩
    · exact ih

theorem eq_map_of_fittingPatterns {docs : List Value}
    (h : fittingPatterns (lower question) fields = .ok docs) :
    docs = (fields.filter (fits question ·.2)).map shown := by
  induction fields generalizing docs with
  | nil =>
    cases h
    rfl
  | cons f fields ih =>
    obtain ⟨name, entry⟩ := f
    cases entry with
    | dict p =>
      obtain ⟨_, ⟨⟩, h⟩ := Result.bind_eq_ok.mp h
      obtain ⟨kinds, hkinds, h⟩ := Result.bind_eq_ok.mp h
      obtain ⟨b, hb, h⟩ := Result.bind_eq_ok.mp h
      obtain ⟨_, ⟨⟩, h⟩ := Result.bind_eq_ok.mp h
      obtain ⟨others, hothers, h⟩ := Result.bind_eq_ok.mp h
      have hfits : fits question (.dict p) = b := by
        rw [eq_any_of_anyMatches hb, fits, kindsOf, Value.field?, hkinds]
      rw [filter_cons, hfits]
      cases b <;> cases h <;> rw [ih hothers] <;> rfl
    | _ => cases h

theorem exists_fittingPatterns (h : ∀ f ∈ fields, IsPattern f.2) (question : String) :
    ∃ docs, fittingPatterns question fields = .ok docs := by
  induction fields with
  | nil => exact ⟨[], rfl⟩
  | cons f fields ih =>
    obtain ⟨⟨⟨p, hp⟩, hkinds, -⟩, hfields⟩ := forall_mem_cons.mp h
    obtain ⟨others, hothers⟩ := ih hfields
    obtain ⟨kinds, hparts⟩ : ∃ kinds : List String,
        ((Fields.get? p "question_types").getD (.list [])).parts = .ok (kinds.map .text) := by
      rw [hp] at hkinds
      cases hget : Fields.get? p "question_types" with
      | none => exact ⟨[], rfl⟩
      | some v =>
        obtain ⟨kinds, rfl⟩ := hkinds v hget
        exact ⟨kinds, rfl⟩
    obtain ⟨b, hb⟩ := exists_anyMatches question kinds
    obtain ⟨name, entry⟩ := f
    obtain rfl : entry = .dict p := hp
    rw [fittingPatterns, Value.lookupD, Value.lookup]
    simp only [Result.ok_bind, Result.pure_eq, hparts, hb, hothers]
    cases b <;> exact ⟨_, rfl⟩

/-! ## Lookups -/

/-- The patterns for a question, from what lies on the shelf. -/
def patternsFor (question : String) (fields : Fields) : Except Fault Value := do
  let fitting ← fittingPatterns (lower question) fields
  return .list (← Value.sortByDown (fun p => (p.field? "success_count").getD (.int 0)) fitting)

theorem exec_lookupPattern (h : exec (load .patterns) host = (.ok (.dict fields), host))
    (question : String) :
    exec (lookupPattern (.text question)) host = (patternsFor question fields, host) := by
  have hquestion : exec (Act.ofExcept (lower <$> (Value.text question).textFor "lower")) host =
      (.ok (lower question), host) := rfl
  rw [lookupPattern, exec_bind_ok h, exec_bind_ok hquestion,
    Value.fieldsFor, exec_bind_ok (exec_ofExcept (.ok fields) host), patternsFor, exec_bind,
    exec_ofExcept]
  cases fittingPatterns (lower question) fields with
  | error f => rfl
  | ok fitting =>
    dsimp only
    rw [exec_bind, Result.ok_bind]
    cases Value.sortByDown _ fitting <;> rfl

theorem shown_mem_iff (hread : Json.isRead (.dict fields) = true) {found : List Value}
    (h : patternsFor question fields = .ok (.list found)) (hf : f ∈ fields) :
    shown f ∈ found ↔ fits question f.2 = true := by
  obtain ⟨docs, hdocs, h⟩ := Result.bind_eq_ok.mp h
  obtain ⟨sorted, hsorted, h⟩ := Result.bind_eq_ok.mp h
  cases h
  rw [(Value.sortByDown_perm hsorted).mem_iff, eq_map_of_fittingPatterns hdocs, mem_map]
  constructor
  · -- What is shown of two patterns tells their kinds.
    rintro ⟨g, hg, hshown⟩
    obtain ⟨hg, hfits⟩ := mem_filter.mp hg
    have hfields := (Json.fieldsMadeOf_iff.mp hread).2
    have hkinds := congrArg (Value.field? · "question_types") hshown
    simp only [field?_shown (hfields _ hg).2, field?_shown (hfields _ hf).2, ne_eq, String.reduceEq,
      not_false_eq_true] at hkinds
    rwa [fits, kindsOf, hkinds] at hfits
  · intro hfits
    exact ⟨f, mem_filter.mpr ⟨hf, hfits⟩, rfl⟩

/-- Patterns as they are documented are found in falling order of their successes. -/
theorem patternsFor_eq_ok (hread : Json.isRead (.dict fields) = true)
    (h : ∀ f ∈ fields, IsPattern f.2) (question : String) :
    ∃ picked : Fields, patternsFor question fields = .ok (.list (picked.map shown)) ∧
      picked.Perm (fields.filter (fits question ·.2)) ∧
        picked.Pairwise fun f g => successesOf g.2 < successesOf f.2 ∨
          successesOf f.2 = successesOf g.2 ∧ [f, g].Sublist fields := by
  obtain ⟨docs, hdocs⟩ := exists_fittingPatterns h (lower question)
  obtain rfl := eq_map_of_fittingPatterns hdocs
  have hrank : ∀ f ∈ fields.filter (fits question ·.2),
      ((shown f).field? "success_count").getD (.int 0) = .int (successesOf f.2) := by
    intro f hf
    have hf := mem_of_mem_filter hf
    rw [field?_shown ((Json.fieldsMadeOf_iff.mp hread).2 f hf).2 (by decide), successesOf]
    cases hcount : f.2.field? "success_count" with
    | none => rfl
    | some v =>
      obtain ⟨n, rfl⟩ := (h f hf).successes v hcount
      rfl
  obtain ⟨picked, hpicked, hperm, hsorted⟩ := Value.sortByDown_eq_ok hrank
  refine ⟨picked, ?_, hperm, ?_⟩
  · rw [patternsFor, hdocs, Result.ok_bind, Value.sortByDown_map, hpicked]
    rfl
  · exact hsorted.imp fun h => h.imp id fun ⟨heq, hsub⟩ =>
      ⟨heq, hsub.trans filter_sublist⟩

end Lookup

/-- Looking up patterns as they are documented lists those that have a kind of the question.  Each is
listed once, those with more successes first and those with equally many in the order of the shelf.  A
question that holds another one finds all that the other finds. -/
theorem lookupPattern_ranked {host : Host} {fields : Fields}
    (hload : exec (load .patterns) host = (.ok (.dict fields), host))
    (hpatterns : ∀ f ∈ fields, IsPattern f.2) :
    ∃ picked : String → Fields, ∀ question,
      exec (lookupPattern (.text question)) host =
          (.ok (.list ((picked question).map shown)), host) ∧
        (∀ f, f ∈ picked question ↔ f ∈ fields ∧ ∃ kind ∈ kindsOf f.2, OfKind question kind) ∧
        ((picked question).map (·.1)).Nodup ∧
        ((picked question).Pairwise fun f g => successesOf g.2 < successesOf f.2 ∨
          successesOf f.2 = successesOf g.2 ∧ [f, g].Sublist fields) ∧
        ∀ wider, contains (lower wider) (lower question) = true →
          ∀ f ∈ picked question, f ∈ picked wider := by
  have hread := isRead_of_load hload
  choose picked hlookup hperm hsorted using patternsFor_eq_ok hread hpatterns
  have hmem : ∀ question f, f ∈ picked question ↔
      f ∈ fields ∧ ∃ kind ∈ kindsOf f.2, OfKind question kind := by
    intro question f
    rw [(hperm question).mem_iff, mem_filter, fits_iff]
  refine ⟨picked, fun question => ⟨?_, hmem question, ?_, hsorted question, ?_⟩⟩
  · rw [exec_lookupPattern hload, hlookup]
  · rw [((hperm question).map _).nodup_iff]
    exact (filter_sublist.map _).nodup (Json.nodup_keys hread)
  · intro wider hwider f hf
    obtain ⟨hf, kind, hkind, hof⟩ := (hmem question f).mp hf
    exact (hmem wider f).mpr ⟨hf, kind, hkind, hof.mono hwider⟩

/-- Two patterns, the second one of a kind without a word to look for, which every question is of. -/
def samplePatterns : Fields :=
  [(.text "monthly", .object [("question_types", .texts ["exports by month", "trend of X"]),
      ("success_count", .int 2)]),
    (.text "yearly", .object [("question_types", .texts ["of"]), ("success_count", .int 5)])]

theorem lookupPattern_ranked_sample : ∃ host,
    exec (load .patterns) host = (.ok (.dict samplePatterns), host) ∧
      ∃ picked : Fields, exec (lookupPattern (.text "Trend of exports")) host =
          (.ok (.list (picked.map shown)), host) ∧ ∀ f ∈ samplePatterns, f ∈ picked := by
  have hread : Json.isRead (.dict samplePatterns) = true := by
    have hlong : 5 < 10 ^ Json.maxDigits := Nat.lt_trans (by decide) (Nat.lt_pow_self (by decide))
    have hlong' : 2 < 10 ^ Json.maxDigits := Nat.lt_trans (by decide) hlong
    simp [samplePatterns, Value.object, Value.texts, Json.madeOf, Json.fieldsMadeOf, Json.allMadeOf,
      Json.isTextKey, Json.atomIsRead, Json.atomIsJson, Atom.same, hlong, hlong']
  obtain ⟨files, -, hopens⟩ := ((vacant_new default).opens .patterns).exec_save hread
  have hpatterns : ∀ f ∈ samplePatterns, IsPattern f.2 := by
    simp only [samplePatterns, forall_mem_cons]
    exact ⟨⟨⟨_, rfl⟩, fun _ hv => ⟨_, (Option.some.inj hv).symm⟩, fun _ hv =>
      ⟨_, (Option.some.inj hv).symm⟩⟩, ⟨⟨_, rfl⟩, fun _ hv => ⟨_, (Option.some.inj hv).symm⟩,
        fun _ hv => ⟨_, (Option.some.inj hv).symm⟩⟩, by simp⟩
  obtain ⟨picked, hpicked⟩ := lookupPattern_ranked hopens.exec_load hpatterns
  obtain ⟨hlookup, hmem, -⟩ := hpicked "Trend of exports"
  refine ⟨_, hopens.exec_load, _, hlookup, fun f hf => (hmem f).mpr ⟨hf, fits_iff.mp ?_⟩⟩
  revert f
  decide +kernel

section Learning

variable {host : Host} {fields : Fields} {strategy tablesUsed gotchas exampleQuery : Value}

theorem exec_learnPattern (hopens : Opens .patterns host fields) (name : String) {kinds : Value}
    (hread : ∀ v ∈ [kinds, strategy, tablesUsed, gotchas, exampleQuery], Json.isRead v = true) :
    ∃ files, exec (learnPattern (.text name) kinds strategy tablesUsed gotchas exampleQuery) host =
        (.ok (patternEntry kinds strategy tablesUsed gotchas exampleQuery host.now),
          { host with files }) ∧
      Opens .patterns { host with files } (Fields.put fields (.text (nameKey name))
        (patternEntry kinds strategy tablesUsed gotchas exampleQuery host.now)) := by
  have hentry : Json.isRead
      (patternEntry kinds strategy tablesUsed gotchas exampleQuery host.now) = true := by
    have hone : 1 < 10 ^ Json.maxDigits := Nat.one_lt_pow (by decide) (by decide)
    simp [patternEntry, Value.object, Json.madeOf, Json.fieldsMadeOf, Json.isTextKey,
      Json.atomIsRead, Json.atomIsJson, Atom.same, hread, hone]
  obtain ⟨files, hsave, hopens'⟩ :=
    hopens.exec_save (Json.fieldsMadeOf_put hopens.isRead (nameKey name) hentry)
  refine ⟨files, ?_, hopens'⟩
  rw [learnPattern, exec_bind_ok hopens.exec_load, exec_bind_ok (exec_now host)]
  exact exec_bind_ok hsave

theorem isRead_texts (kinds : List String) : Json.isRead (.texts kinds) = true := by
  induction kinds with
  | nil => rfl
  | cons kind kinds ih => exact ih

theorem isPattern_entry (kinds : List String) (created : Time.Stamp) :
    IsPattern (patternEntry (.texts kinds) strategy tablesUsed gotchas exampleQuery created) where
  isDict := ⟨_, rfl⟩
  kinds _ hv := ⟨kinds, (Option.some.inj hv).symm⟩
  successes _ hv := ⟨1, (Option.some.inj hv).symm⟩

theorem kindsOf_entry (kinds : List String) (created : Time.Stamp) :
    kindsOf (patternEntry (.texts kinds) strategy tablesUsed gotchas exampleQuery created) = kinds := by
  change (kinds.map Value.text).filterMap (·.asText?) = kinds
  rw [filterMap_map]
  exact filterMap_some

end Learning

/-- A pattern that was learned with kinds of questions is found by the questions that are of one of
them.  A question that it was learned with is, if it has no letter x.  Lookups succeed as long as the
other patterns are as they are documented. -/
theorem mem_lookupPattern_learned {host : Host} {fields : Fields}
    (hopens : Opens .patterns host fields) (name : String) (kinds : List String)
    {strategy tablesUsed gotchas exampleQuery : Value}
    (hread : ∀ v ∈ [strategy, tablesUsed, gotchas, exampleQuery], Json.isRead v = true) :
    let entry := patternEntry (.texts kinds) strategy tablesUsed gotchas exampleQuery host.now
    ∃ host', exec (learnPattern (.text name) (.texts kinds) strategy tablesUsed gotchas exampleQuery)
        host = (.ok entry, host') ∧
      ∀ question,
        ((∀ f ∈ fields, IsPattern f.2) →
          ∃ found, exec (lookupPattern (.text question)) host' = (.ok (.list found), host')) ∧
        ∀ found, exec (lookupPattern (.text question)) host' = (.ok (.list found), host') →
          (shown (.text (nameKey name), entry) ∈ found ↔ ∃ kind ∈ kinds, OfKind question kind) ∧
          (question ∈ kinds → 'x' ∉ (lower question).toList →
            shown (.text (nameKey name), entry) ∈ found) := by
  intro entry
  obtain ⟨files, hlearn, hafter⟩ := exec_learnPattern hopens name
    (forall_mem_cons.mpr ⟨isRead_texts kinds, hread⟩)
  have hmem : (.text (nameKey name), entry) ∈ Fields.put fields (.text (nameKey name)) entry :=
    Fields.mem_of_get? (by rw [Fields.get?_put, if_pos rfl])
  refine ⟨_, hlearn, fun question => ⟨fun hpatterns => ?_, fun found hfound => ?_⟩⟩
  · have hall : ∀ f ∈ Fields.put fields (.text (nameKey name)) entry, IsPattern f.2 := by
      intro f hf
      rcases Json.mem_put hf with hf | ⟨hvalue, -⟩
      · exact hpatterns f hf
      · rw [hvalue]
        exact isPattern_entry kinds host.now
    obtain ⟨picked, hlookup, -⟩ := patternsFor_eq_ok hafter.isRead hall question
    exact ⟨_, by rw [exec_lookupPattern hafter.exec_load, hlookup]⟩
  · rw [exec_lookupPattern hafter.exec_load] at hfound
    have hiff := shown_mem_iff hafter.isRead (congrArg Prod.fst hfound) hmem
    rw [fits_iff, kindsOf_entry] at hiff
    exact ⟨hiff, fun hquestion hx => hiff.mpr ⟨question, hquestion, ofKind_self hx⟩⟩

/-- A question finds the pattern that was learned with a placeholder. -/
theorem mem_lookupPattern_learned_placeholder : ∃ entry host' found,
    exec (learnPattern (.text " Uses") (.texts ["who uses X"]) (.texts ["Join."]) .null .null .null)
        {} = (.ok entry, host') ∧
      exec (lookupPattern (.text "Who uses Exports?")) host' = (.ok (.list found), host') ∧
      shown (.text "uses", entry) ∈ found := by
  have hread : ∀ v ∈ [.texts ["Join."], .null, .null, .null], Json.isRead v = true := by
    simp [Value.texts, Json.madeOf, Json.allMadeOf, Json.atomIsRead, Json.atomIsJson]
  obtain ⟨host', hlearn, hafter⟩ := mem_lookupPattern_learned ((vacant_new _).opens .patterns) " Uses"
    ["who uses X"] hread
  obtain ⟨hreturns, hfound⟩ := hafter "Who uses Exports?"
  obtain ⟨found, hlookup⟩ := hreturns (by simp)
  refine ⟨_, host', found, hlearn, hlookup, (hfound found hlookup).1.mpr ⟨_, mem_cons_self, ?_⟩⟩
  exact questionMatches_iff.mp (by decide +kernel)

/-- A pattern is not found by the question that it was learned with. -/
theorem lookupPattern_misses_learned : ∃ entry host' found,
    exec (learnPattern (.text "exports") (.texts ["how many exports"]) (.texts ["s"]) (.texts ["T"])
        (.list []) .null) {} = (.ok entry, host') ∧
      exec (lookupPattern (.text "how many exports")) host' = (.ok (.list found), host') ∧
      shown (.text "exports", entry) ∉ found := by
  have hread : ∀ v ∈ [.texts ["how many exports"], .texts ["s"], .texts ["T"], .list [], .null],
      Json.isRead v = true := by
    simp [Value.texts, Json.madeOf, Json.allMadeOf, Json.atomIsRead, Json.atomIsJson]
  obtain ⟨files, hlearn, hopens⟩ :=
    exec_learnPattern ((vacant_new _).opens .patterns) "exports" hread
  obtain ⟨picked, hpicked, -⟩ := patternsFor_eq_ok hopens.isRead (forall_mem_singleton.mpr
    (isPattern_entry ["how many exports"] _)) "how many exports"
  refine ⟨_, _, _, hlearn, by rw [exec_lookupPattern hopens.exec_load, hpicked], ?_⟩
  have hkey : "exports" = nameKey "exports" := by decide +kernel
  rw [hkey, shown_mem_iff hopens.isRead hpicked mem_cons_self, fits, kindsOf_entry]
  decide +kernel

end SkillKit.Knowledge
