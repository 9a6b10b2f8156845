import SkillKit.Optimize.Split
import SkillKit.Proofs.Decimal.Nearest
import SkillKit.Proofs.Run

/-!
# Holding out queries loses none

A shuffle only exchanges items, so a split puts every query of a set into exactly one of its two parts
(`split_perm`).  The held out part has its share of each kind, and a query of each kind that there is
(`split_stratified`).
-/

namespace SkillKit.Random.Twister

open List Result

variable {α : Type}

theorem swapIfInBounds_perm (xs : Array α) (i j : Nat) :
    (xs.swapIfInBounds i j).toList.Perm xs.toList := by
  rw [Array.swapIfInBounds_def]
  split
  · split
    · exact (Array.swap_perm _ _).toList
    · exact Perm.refl _
  · exact Perm.refl _

theorem shuffleFrom_perm (g : Twister) (items : Array α) (i : Nat) :
    (shuffleFrom g items i).1.toList.Perm items.toList := by
  induction i generalizing g items with
  | zero => exact Perm.refl _
  | succ i ih =>
    unfold shuffleFrom
    exact (ih _ _).trans (swapIfInBounds_perm _ _ _)

theorem shuffle_perm (g : Twister) (items : List α) : (g.shuffle items).1.Perm items := by
  unfold shuffle
  exact shuffleFrom_perm g items.toArray (items.length - 1)

end SkillKit.Random.Twister

namespace SkillKit.Optimize

open SkillKit.Random List Result

variable {items wanted unwanted : List Value} {share holdout : Value} {count : Nat} {seed : Int}

theorem heldOut_pos {n : Nat} (h : heldOut count share = .ok n) : 0 < n := by
  unfold heldOut at h
  obtain ⟨k, -, hk⟩ := bind_eq_ok.mp h
  cases hk
  omega

private theorem take_eq_nil_of_pos {α : Type} {xs : List α} {n : Nat} (hn : 0 < n)
    (h : xs.take n = []) : xs = [] := by
  rw [take_eq_nil_iff] at h
  exact h.resolve_left (by omega)

def isWanted (q : Value) : Bool :=
  match q.entry "should_trigger" with
  | .ok wanted => wanted.truthy
  | .error _ => false

private theorem mapM_kinds {items : List Value} {kinds : List (Value × Bool)}
    (h : (items.mapM fun q => do return (q, (← q.entry "should_trigger").truthy)) = .ok kinds) :
    kinds = items.map fun q => (q, isWanted q) := by
  have hpairs : kinds.map id = items.map fun q => (q, isWanted q) := by
    refine map_eq_of_mapM h fun q _ kind hq => ?_
    obtain ⟨wanted, hwanted, hkind⟩ := bind_eq_ok.mp hq
    cases hkind
    simp [isWanted, hwanted]
  simpa using hpairs

/-- What a split that succeeds has done: the items of each kind are permuted and cut apart behind
the ones to hold out. -/
theorem split_cases {s : Split} (h : split (.list items) holdout seed = .ok s) :
    ∃ wanted unwanted : List Value, ∃ m n : Nat,
      heldOut wanted.length holdout = .ok m ∧ heldOut unwanted.length holdout = .ok n ∧
      wanted.Perm (items.filter isWanted) ∧ unwanted.Perm (items.filter (!isWanted ·)) ∧
      s = ⟨wanted.drop m ++ unwanted.drop n, wanted.take m ++ unwanted.take n⟩ := by
  unfold split at h
  obtain ⟨parts, hparts, h⟩ := bind_eq_ok.mp h
  cases hparts
  obtain ⟨kinds, hkinds, h⟩ := bind_eq_ok.mp h
  obtain rfl := mapM_kinds hkinds
  obtain ⟨m, hm, h⟩ := bind_eq_ok.mp h
  obtain ⟨n, hn, h⟩ := bind_eq_ok.mp h
  cases h
  refine ⟨_, _, m, n, hm, hn, ?_, ?_, rfl⟩
  · refine (Twister.shuffle_perm _ _).trans (Perm.of_eq ?_)
    simp [filter_map, Function.comp_def]
  · refine (Twister.shuffle_perm _ _).trans (Perm.of_eq ?_)
    simp [filter_map, Function.comp_def]

theorem split_ok {m n : Nat} (seed : Int)
    (hkinds : ∀ q ∈ items, ∃ wanted, q.entry "should_trigger" = .ok wanted)
    (hm : heldOut (items.filter isWanted).length holdout = .ok m)
    (hn : heldOut (items.filter (!isWanted ·)).length holdout = .ok n) :
    ∃ wanted unwanted : List Value,
      wanted.Perm (items.filter isWanted) ∧ unwanted.Perm (items.filter (!isWanted ·)) ∧
      split (.list items) holdout seed =
        .ok ⟨wanted.drop m ++ unwanted.drop n, wanted.take m ++ unwanted.take n⟩ := by
  have hpairs : (items.mapM fun q => do return (q, (← q.entry "should_trigger").truthy)) =
      Except.ok (items.map fun q => (q, isWanted q)) := by
    refine mapM_ok_map fun q hq => ?_
    obtain ⟨wanted, hwanted⟩ := hkinds q hq
    simp only [isWanted, hwanted, ok_bind, pure_eq]
  have hkind (p : Value × Bool → Bool) : ((items.map fun q => (q, isWanted q)).filter p).map (·.1) =
      items.filter fun q => p (q, isWanted q) := by
    simp [filter_map, Function.comp_def]
  have hwanted := (Twister.ofSeed seed.natAbs).shuffle_perm (items.filter isWanted)
  have hunwanted := ((Twister.ofSeed seed.natAbs).shuffle (items.filter isWanted)).2.shuffle_perm
    (items.filter (!isWanted ·))
  refine ⟨_, _, hwanted, hunwanted, ?_⟩
  have hparts : (Value.list items).parts = .ok items := rfl
  unfold split
  rw [hparts, ok_bind, hpairs, ok_bind, hkind, hkind]
  dsimp only
  rw [hwanted.length_eq, hm, ok_bind, hunwanted.length_eq, hn]
  rfl

theorem split_perm {s : Split} (h : split (.list items) holdout seed = .ok s) :
    (s.train ++ s.test).Perm items := by
  obtain ⟨wanted, unwanted, m, n, -, -, hwanted, hunwanted, rfl⟩ := split_cases h
  have hkinds := (hwanted.append hunwanted).trans (filter_append_perm isWanted items)
  refine Perm.trans ?_ hkinds
  have hw : (wanted.take m ++ wanted.drop m).Perm wanted := by rw [take_append_drop]
  have hu : (unwanted.take n ++ unwanted.drop n).Perm unwanted := by rw [take_append_drop]
  calc (wanted.drop m ++ unwanted.drop n) ++ (wanted.take m ++ unwanted.take n)
      |>.Perm ((wanted.take m ++ unwanted.take n) ++ (wanted.drop m ++ unwanted.drop n)) :=
        perm_append_comm
    _ |>.Perm ((wanted.take m ++ wanted.drop m) ++ (unwanted.take n ++ unwanted.drop n)) := by
        rw [append_assoc, append_assoc]
        refine Perm.append_left _ ?_
        rw [← append_assoc, ← append_assoc]
        exact Perm.append_right _ perm_append_comm
    _ |>.Perm (wanted ++ unwanted) := hw.append hu

theorem split_test_eq_nil_iff {s : Split} (h : split (.list items) holdout seed = .ok s) :
    s.test = [] ↔ items = [] := by
  obtain ⟨wanted, unwanted, m, n, hm, hn, hwanted, hunwanted, rfl⟩ := split_cases h
  have hperm := (hwanted.append hunwanted).trans (filter_append_perm isWanted items)
  constructor
  · intro htest
    obtain ⟨hw, hu⟩ := append_eq_nil_iff.mp htest
    rw [take_eq_nil_of_pos (heldOut_pos hm) hw, take_eq_nil_of_pos (heldOut_pos hn) hu] at hperm
    exact hperm.symm.eq_nil
  · rintro rfl
    obtain ⟨rfl, rfl⟩ := append_eq_nil_iff.mp hperm.eq_nil
    simp

private theorem not_mem_drop_of_perm {α : Type} {xs : List α} {x : α} {n : Nat} (hn : 0 < n)
    (h : xs.Perm [x]) : x ∉ xs.drop n := by
  rw [perm_singleton.mp h, drop_eq_nil_of_le hn]
  exact not_mem_nil

theorem not_mem_train_of_filter_eq {s : Split} {q : Value}
    (h : split (.list items) holdout seed = .ok s)
    (hq : items.filter (isWanted · == isWanted q) = [q]) : q ∉ s.train := by
  obtain ⟨wanted, unwanted, m, n, hm, hn, hwanted, hunwanted, rfl⟩ := split_cases h
  intro hmem
  cases hkind : isWanted q with
  | true =>
    have hsingle : items.filter isWanted = [q] := by simpa [hkind] using hq
    rw [hsingle] at hwanted
    rcases mem_append.mp hmem with hmem | hmem
    · exact not_mem_drop_of_perm (heldOut_pos hm) hwanted hmem
    · have hother := hunwanted.subset (mem_of_mem_drop hmem)
      simp [hkind] at hother
  | false =>
    have hsingle : items.filter (!isWanted ·) = [q] := by simpa [hkind] using hq
    rw [hsingle] at hunwanted
    rcases mem_append.mp hmem with hmem | hmem
    · have hother := hwanted.subset (mem_of_mem_drop hmem)
      simp [hkind] at hother
    · exact not_mem_drop_of_perm (heldOut_pos hn) hunwanted hmem

/-! ## Shares of both kinds -/

/-- The whole part of a share of a number of items: the product itself for a whole share, and for
a double the product of doubles without its fraction. -/
def IsShare (count : Nat) : Number → Int → Prop
  | .int share, k => k = count * share
  | .float share, k => ∃ c v, Decimal.ofNat? count = some c ∧
      Decimal.value? (c * share) = some v ∧ k = Decimal.towardZero v

theorem isShare_of_shareOf {number : Number} {k : Int} (hnumber : Number.ofValue share = .ok number)
    (h : shareOf count share = .ok k) : IsShare count number k := by
  unfold shareOf at h
  split at h
  · cases hnumber
  · obtain ⟨number', hnumber', h⟩ := bind_eq_ok.mp h
    obtain rfl := Except.ok.inj (hnumber.symm.trans hnumber')
    obtain ⟨product, hproduct, h⟩ := bind_eq_ok.mp h
    cases number with
    | int n =>
      obtain rfl := Except.ok.inj hproduct
      exact (Except.ok.inj h).symm
    | float x =>
      obtain ⟨c, hc, hproduct⟩ := bind_eq_ok.mp hproduct
      obtain rfl := Except.ok.inj hproduct
      have hc' : Decimal.ofNat? count = some c := by
        rw [← Decimal.ofInt?_natCast]
        unfold Number.toFloat at hc
        split at hc
        · rename_i heq
          cases heq
        · rename_i heq
          cases heq
          split at hc
          · rename_i hsome
            rw [hsome, Except.ok.inj hc]
          · cases hc
      dsimp only at h
      split at h
      · cases h
      · cases h
      · rename_i negative m q hparts
        rw [Decimal.truncate?_of_parts hparts] at h
        exact ⟨c, _, hc', by rw [Decimal.value?, hparts], (Except.ok.inj h).symm⟩

theorem heldOut_eq_ok {n : Nat} (h : heldOut count share = .ok n) :
    ∃ k, shareOf count share = .ok k ∧ (n : Int) = max 1 k := by
  obtain ⟨k, hk, h⟩ := bind_eq_ok.mp h
  refine ⟨k, hk, ?_⟩
  rw [← Except.ok.inj h]
  omega

theorem countP_kind (hwanted : ∀ q ∈ wanted, isWanted q = true)
    (hunwanted : ∀ q ∈ unwanted, isWanted q = false) (kind : Bool) :
    (wanted ++ unwanted).countP (isWanted · == kind) =
      if kind then wanted.length else unwanted.length := by
  rw [countP_append]
  cases kind with
  | true =>
    have hall : wanted.countP (isWanted · == true) = wanted.length :=
      countP_eq_length.mpr fun q hq => by simp [hwanted q hq]
    have hnone : unwanted.countP (isWanted · == true) = 0 :=
      countP_eq_zero.mpr fun q hq => by simp [hunwanted q hq]
    rw [hall, hnone, Nat.add_zero, if_pos rfl]
  | false =>
    have hnone : wanted.countP (isWanted · == false) = 0 :=
      countP_eq_zero.mpr fun q hq => by simp [hwanted q hq]
    have hall : unwanted.countP (isWanted · == false) = unwanted.length :=
      countP_eq_length.mpr fun q hq => by simp [hunwanted q hq]
    rw [hall, hnone, Nat.zero_add, if_neg (by decide)]

theorem countP_kind_of_perm (hwanted : wanted.Perm (items.filter isWanted))
    (hunwanted : unwanted.Perm (items.filter (!isWanted ·))) (kind : Bool) :
    items.countP (isWanted · == kind) = if kind then wanted.length else unwanted.length := by
  have hboth := (hwanted.append hunwanted).trans (filter_append_perm isWanted items)
  rw [← hboth.countP_eq]
  refine countP_kind (fun q hq => ?_) (fun q hq => ?_) kind
  · exact (mem_filter.mp (hwanted.subset hq)).2
  · simpa using (mem_filter.mp (hunwanted.subset hq)).2

/-- A split keeps every query, and holds out of each kind the whole part of the share, but at least
one query if there is one and at most all that there are. -/
theorem split_stratified {items : List Value} {holdout : Value} {share : Number} {seed : Int}
    {s : Split} (hshare : Number.ofValue holdout = .ok share)
    (h : split (.list items) holdout seed = .ok s) :
    (s.train ++ s.test).Perm items ∧
    ∀ kind : Bool, ∃ k, IsShare (items.countP (isWanted · == kind)) share k ∧
      (s.test.countP (isWanted · == kind) : Int) =
        min (items.countP (isWanted · == kind) : Int) (max 1 k) := by
  refine ⟨split_perm h, fun kind => ?_⟩
  obtain ⟨wanted, unwanted, m, n, hm, hn, hwanted, hunwanted, rfl⟩ := split_cases h
  have hwanted' : ∀ q ∈ wanted, isWanted q = true := fun q hq =>
    (mem_filter.mp (hwanted.subset hq)).2
  have hunwanted' : ∀ q ∈ unwanted, isWanted q = false := fun q hq => by
    simpa using (mem_filter.mp (hunwanted.subset hq)).2
  have htest : (wanted.take m ++ unwanted.take n).countP (isWanted · == kind) =
      if kind then (wanted.take m).length else (unwanted.take n).length :=
    countP_kind (fun q hq => hwanted' q (mem_of_mem_take hq))
      (fun q hq => hunwanted' q (mem_of_mem_take hq)) kind
  rw [countP_kind_of_perm hwanted hunwanted kind, htest]
  cases kind with
  | true =>
    obtain ⟨k, hk, hmax⟩ := heldOut_eq_ok hm
    refine ⟨k, isShare_of_shareOf hshare hk, ?_⟩
    simp only [if_true, length_take]
    omega
  | false =>
    obtain ⟨k, hk, hmax⟩ := heldOut_eq_ok hn
    refine ⟨k, isShare_of_shareOf hshare hk, ?_⟩
    simp only [Bool.false_eq_true, if_false, length_take]
    omega

theorem split_stratified_five :
    let items : List Value := [true, true, false, true, false].map fun wanted =>
      .object [("should_trigger", .bool wanted)]
    ∃ s, Number.ofValue (.float 0.4) = .ok (.float 0.4) ∧
      split (.list items) (.float 0.4) defaultSeed = .ok s ∧
      (s.train ++ s.test).Perm items ∧
      ∀ kind : Bool, ∃ k, IsShare (items.countP (isWanted · == kind)) (.float 0.4) k ∧
        (s.test.countP (isWanted · == kind) : Int) =
          min (items.countP (isWanted · == kind) : Int) (max 1 k) := by
  intro items
  have hkinds : ∀ q ∈ items, ∃ wanted, q.entry "should_trigger" = .ok wanted := by
    intro q hq
    obtain ⟨wanted, -, rfl⟩ := mem_map.mp hq
    exact ⟨.bool wanted, rfl⟩
  have hone : heldOut 3 (.float 0.4) = .ok 1 ∧ heldOut 2 (.float 0.4) = .ok 1 :=
    ⟨eq_ok_of_toOption (by decide +kernel), eq_ok_of_toOption (by decide +kernel)⟩
  obtain ⟨wanted, unwanted, -, -, hsplit⟩ := @split_ok items (.float 0.4) 1 1 defaultSeed hkinds
    hone.1 hone.2
  exact ⟨_, rfl, hsplit, split_stratified rfl hsplit⟩

/-! ## What is left to learn from -/

/-- Nothing is left to learn from exactly if of each kind as many queries are held out as there are. -/
theorem split_train_eq_nil_iff {s : Split} (h : split (.list items) holdout seed = .ok s) :
    s.train = [] ↔ ∀ (kind : Bool) (n : Nat),
      heldOut (items.countP (isWanted · == kind)) holdout = .ok n →
        items.countP (isWanted · == kind) ≤ n := by
  obtain ⟨wanted, unwanted, m, n, hm, hn, hwanted, hunwanted, rfl⟩ := split_cases h
  have hdrop : ∀ {xs : List Value} {k : Nat}, heldOut xs.length holdout = .ok k →
      (xs.drop k = [] ↔ ∀ n, heldOut xs.length holdout = .ok n → xs.length ≤ n) := by
    intro xs k hk
    simp [hk, drop_eq_nil_iff]
  rw [append_eq_nil_iff, hdrop hm, hdrop hn, Bool.forall_bool,
    countP_kind_of_perm hwanted hunwanted, countP_kind_of_perm hwanted hunwanted]
  simp only [if_true, Bool.false_eq_true, if_false, and_comm]

end SkillKit.Optimize
