import SkillKit.Proofs.Data.Sorting
import SkillKit.Proofs.Review.Loading
import SkillKit.Proofs.Json.Strings
import Mathlib.Data.List.Permutation

/-!
# The order in which runs are listed

Runs are ranked by the number of their evaluation, then by name.  Among runs with numbers, or among
runs without, the ranks are a strict order and the runs are listed in it; where there are runs of both
kinds, listing fails.
-/

namespace SkillKit.Review

open Act Text List Value Json

/-! ## Ranks -/

def Run.number? (r : Run) : Option Int :=
  match r.evalId with
  | .int n => some n
  | _ => none

/-- Whether a run belongs to an evaluation with a number, or to none at all. -/
def Run.IsPlaced (r : Run) : Prop :=
  r.evalId = .null ∨ ∃ n, r.evalId = .int n

/-- Whether a run is listed before another: by number, then by name, those without a number last. -/
def Run.precedes (a b : Run) : Bool :=
  match a.number?, b.number? with
  | some m, some n => m < n || m == n && a.id < b.id
  | some _, none => true
  | none, some _ => false
  | none, none => a.id < b.id

theorem Run.precedes_irrefl (a : Run) : a.precedes a = false := by
  unfold precedes
  cases a.number? with
  | none => simp
  | some n => simp

theorem Run.precedes_trans (a b c : Run) (hab : a.precedes b = true) (hbc : b.precedes c = true) :
    a.precedes c = true := by
  unfold precedes at *
  cases ha : a.number? with
  | none =>
    cases hb : b.number? with
    | some n => simp [ha, hb] at hab
    | none =>
      cases hc : c.number? with
      | some k => simp [hb, hc] at hbc
      | none =>
        simp only [ha, hb, hc, decide_eq_true_eq] at hab hbc ⊢
        exact String.lt_trans hab hbc
  | some m =>
    cases hc : c.number? with
    | none => rfl
    | some k =>
      cases hb : b.number? with
      | none => simp [hb, hc] at hbc
      | some n =>
        simp only [ha, hb, hc, Bool.or_eq_true, Bool.and_eq_true, decide_eq_true_eq, beq_iff_eq]
          at hab hbc ⊢
        rcases hab with hab | ⟨rfl, hab⟩
        · rcases hbc with hbc | ⟨rfl, -⟩
          · exact .inl (Int.lt_trans hab hbc)
          · exact .inl hab
        · rcases hbc with hbc | ⟨rfl, hbc⟩
          · exact .inl hbc
          · exact .inr ⟨rfl, String.lt_trans hab hbc⟩

theorem before_names (s t : String) :
    beforeItems [.text s] [.text t] = .ok (decide (s < t)) := by
  simp only [beforeItems, same, Atom.same, before]
  by_cases h : s = t
  · simp [h]
  · simp [h]

theorem before_rank {a b : Run} (ha : a.IsPlaced) (hb : b.IsPlaced)
    (h : a.number?.isSome = b.number?.isSome) :
    before a.rank b.rank = .ok (a.precedes b) := by
  unfold Run.rank Run.precedes
  rcases ha with ha | ⟨m, ha⟩
  · rcases hb with hb | ⟨n, hb⟩
    · have hsame : same .null .null = true := rfl
      simp only [Run.number?, ha, hb, before]
      rw [beforeItems, if_pos hsame, before_names]
    · simp [Run.number?, ha, hb] at h
  · rcases hb with hb | ⟨n, hb⟩
    · simp [Run.number?, ha, hb] at h
    · have hsame : same (.int m) (.int n) = (m == n) := by
        simp [same, Atom.same, Atom.ratio?]
      simp only [Run.number?, ha, hb, before]
      rw [beforeItems, hsame, before_names]
      by_cases hmn : m = n
      · simp [hmn]
      · simp [hmn, before, Number.ofValue?, Number.lessThan, Number.ratio?]

theorem before_rank_error {a b : Run} (ha : a.IsPlaced) (hb : b.IsPlaced)
    (h : a.number?.isSome ≠ b.number?.isSome) :
    before a.rank b.rank = .error .wrongKind := by
  unfold Run.rank
  rcases ha with ha | ⟨m, ha⟩ <;> rcases hb with hb | ⟨n, hb⟩ <;>
    simp [Run.number?, ha, hb] at h <;>
    simp [ha, hb, before, beforeItems, same, Atom.same, Atom.ratio?,
      Number.ofValue?]

/-! ## Listing -/

/-- Runs that all have numbers, or all have none, are listed by number and name, and none is lost.
Where some have a number and others have none, they are not listed at all. -/
theorem loadRuns_by_rank (host : Host) (workspace : Path) (found : List Run)
    (hfound : Finds host workspace found) (hplaced : ∀ r ∈ found, r.IsPlaced) :
    ((∀ r ∈ found, r.number?.isSome = true) ∨ (∀ r ∈ found, r.number? = none) →
      ∃ runs, exec (loadRuns workspace) host = (.ok runs, host) ∧ runs.Perm found ∧
        runs.Pairwise fun a b => b.precedes a = false) ∧
    ((∃ a ∈ found, a.number?.isSome = true) ∧ (∃ b ∈ found, b.number? = none) →
      exec (loadRuns workspace) host = (.error .wrongKind, host)) := by
  rw [exec_loadRuns hfound]
  constructor
  · intro hkinds
    have halike : ∀ a ∈ found, ∀ b ∈ found, a.number?.isSome = b.number?.isSome := by
      intro a ha b hb
      rcases hkinds with h | h
      · rw [h a ha, h b hb]
      · rw [h a ha, h b hb]
    obtain ⟨runs, hruns, hperm, hsorted⟩ := sortBy_eq_ok Run.precedes_irrefl Run.precedes_trans
      fun a ha b hb => before_rank (hplaced a ha) (hplaced b hb) (halike a ha b hb)
    exact ⟨runs, by rw [hruns], hperm, hsorted⟩
  · rintro ⟨⟨a, ha, hnumber⟩, b, hb, hnone⟩
    have hwithin : ∀ a ∈ found, ∀ b ∈ found, a.number?.isSome = b.number?.isSome →
        ∃ first, before a.rank b.rank = .ok first :=
      fun a ha b hb hkind => ⟨_, before_rank (hplaced a ha) (hplaced b hb) hkind⟩
    have hacross : ∀ a ∈ found, ∀ b ∈ found, a.number?.isSome ≠ b.number?.isSome →
        before a.rank b.rank = .error .wrongKind :=
      fun a ha b hb => before_rank_error (hplaced a ha) (hplaced b hb)
    rw [sortBy_eq_error hwithin hacross ha hb (by simp [hnumber, hnone])]

/-! ## Two runs in a workspace -/

def sampleSpace : Path := ⟨"/", ["ws"]⟩

def twoRuns (first second : String) : Host :=
  { files := .dir [("ws", .dir [
      ("a", .dir [("eval_metadata.json", .file first.toUTF8), ("outputs", .dir [])]),
      ("b", .dir [("eval_metadata.json", .file second.toUTF8), ("outputs", .dir [])])])] }

def runOf (id : String) (metadata : Fields) : Run :=
  ⟨id, (Fields.get? metadata "prompt").getD (.text ""), (Fields.get? metadata "eval_id").getD .null,
    [], .null⟩

theorem finds_twoRuns {a b : Fields} {first second : String}
    (hfirst : ReadsBack (.dict a) first) (hsecond : ReadsBack (.dict b) second)
    (ha : (runOf "a" a).prompt.truthy = true) (hb : (runOf "b" b).prompt.truthy = true) :
    Finds (twoRuns first second) sampleSpace [runOf "a" a, runOf "b" b] := by
  have hpaths : runPaths (((twoRuns first second).at? sampleSpace).getD (.dir [])) =
      [["a"], ["b"]] := by
    have hsorted : [["a"], ["b"]].Pairwise fun p q => pathBefore p q = true := by decide
    exact mergeSort_of_pairwise hsorted
  have hread : ∀ {fields : Fields} {s : String}, ReadsBack (.dict fields) s →
      read (unifyLines s) = .ok (.dict fields) := by
    intro fields s hs
    rw [hs.unifyLines, hs.read]
  have hnone : ∀ name ∈ ["a", "b"], ∀ file ∈
      [(sampleSpace.join ⟨"", [name]⟩).child "grading.json",
        (sampleSpace.join ⟨"", [name]⟩).parent.child "grading.json"],
      exec (loadJson? file) (twoRuns first second) = (.ok none, twoRuns first second) := by
    simp only [forall_mem_cons]
    exact ⟨⟨exec_loadJson?_none rfl, exec_loadJson?_none rfl, forall_mem_nil _⟩,
      ⟨exec_loadJson?_none rfl, exec_loadJson?_none rfl, forall_mem_nil _⟩,
      forall_mem_nil _⟩
  rw [Finds, hpaths]
  refine .cons ?_ (.cons ?_ .nil)
  · rw [exec_loadRun (exec_loadJson? rfl (hread hfirst)) rfl ha rfl (exec_loadOutputs_nil rfl)
      (hnone "a" (by simp))]
    rfl
  · rw [exec_loadRun (exec_loadJson? rfl (hread hsecond)) rfl hb rfl (exec_loadOutputs_nil rfl)
      (hnone "b" (by simp))]
    rfl

def numbered (n : Nat) : Fields :=
  [(.text "prompt", .text "do it"), (.text "eval_id", .nat n)]

def unnumbered : Fields :=
  [(.text "prompt", .text "do it")]

theorem isJson_numbered {n : Nat} (h : n < 10 ^ maxDigits) :
    isJson (.dict (numbered n)) = true := by
  simp [numbered, nat, isJson, fieldsAreJson, isTextKey, atomIsJson,
    Atom.same, h]

theorem finds_numbered : Finds (twoRuns "\x7b\"prompt\": \"do it\", \"eval_id\": 2\x7d"
    "\x7b\"prompt\": \"do it\", \"eval_id\": 1\x7d") sampleSpace
    [runOf "a" (numbered 2), runOf "b" (numbered 1)] := by
  have hjson : ∀ n < maxDigits, isJson (.dict (numbered n)) = true :=
    fun n hn => isJson_numbered (hn.trans (Nat.lt_pow_self (by decide)))
  refine finds_twoRuns (readsBack_of_write (hjson 2 (by decide)) ?_)
    (readsBack_of_write (hjson 1 (by decide)) ?_) rfl rfl
  · decide +kernel
  · decide +kernel

theorem finds_mixed : Finds (twoRuns "\x7b\"prompt\": \"do it\"\x7d"
    "\x7b\"prompt\": \"do it\", \"eval_id\": 1\x7d") sampleSpace
    [runOf "a" unnumbered, runOf "b" (numbered 1)] := by
  refine finds_twoRuns (readsBack_of_write rfl ?_)
    (readsBack_of_write (isJson_numbered ?_) ?_) rfl rfl
  · decide +kernel
  · exact Nat.one_lt_pow (by decide) (by decide)
  · decide +kernel

/-- The run of the later evaluation is listed last, though it is found first. -/
theorem loadRuns_by_rank_numbered :
    let host := twoRuns "\x7b\"prompt\": \"do it\", \"eval_id\": 2\x7d"
      "\x7b\"prompt\": \"do it\", \"eval_id\": 1\x7d"
    exec (loadRuns sampleSpace) host =
      (.ok [runOf "b" (numbered 1), runOf "a" (numbered 2)], host) := by
  intro host
  have hplaced : ∀ r ∈ [runOf "a" (numbered 2), runOf "b" (numbered 1)], r.IsPlaced := by
    simp only [forall_mem_cons]
    exact ⟨.inr ⟨2, rfl⟩, .inr ⟨1, rfl⟩, forall_mem_nil _⟩
  obtain ⟨runs, hruns, hperm, hsorted⟩ :=
    (loadRuns_by_rank host sampleSpace _ finds_numbered hplaced).1 (.inl (by decide))
  rcases perm_pair.mp hperm with rfl | rfl
  · exact absurd (rel_of_pairwise_cons hsorted mem_cons_self) (by decide)
  · exact hruns

/-- A run without a number is not listed beside one that has a number. -/
theorem loadRuns_mixed :
    let host := twoRuns "\x7b\"prompt\": \"do it\"\x7d" "\x7b\"prompt\": \"do it\", \"eval_id\": 1\x7d"
    (∃ found, Finds host sampleSpace found ∧ ∀ r ∈ found, r.IsPlaced) ∧
      exec (loadRuns sampleSpace) host = (.error .wrongKind, host) := by
  intro host
  refine ⟨⟨_, finds_mixed, ?_⟩, ?_⟩
  · simp only [forall_mem_cons]
    exact ⟨.inl rfl, .inr ⟨1, rfl⟩, forall_mem_nil _⟩
  · rw [exec_loadRuns finds_mixed]
    rfl

end SkillKit.Review
