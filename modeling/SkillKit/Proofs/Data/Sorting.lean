import SkillKit.Data.Number
import SkillKit.Proofs.Run

/-!
# Sorting by a key

Inserting compares keys, which may fail.  Where all keys compare by a strict order, sorting gives the
items in that order (`sortBy_eq_ok`).  Where items of two kinds have keys that do not compare across,
sorting fails as soon as there are items of both (`sortBy_eq_error`).
-/

namespace SkillKit.Value

open List Result

variable {α : Type} {key : α → Value}
variable {β : Type}

/-! ## Keys that compare -/

theorem insertBy_perm {x : α} {ys zs : List α} (h : insertBy key x ys = .ok zs) :
    zs.Perm (x :: ys) := by
  induction ys generalizing zs with
  | nil =>
    cases h
    exact .refl _
  | cons y ys ih =>
    obtain ⟨first, -, h⟩ := bind_eq_ok.mp h
    cases first with
    | true =>
      cases h
      exact .refl _
    | false =>
      obtain ⟨rest, hrest, h⟩ := bind_eq_ok.mp h
      cases h
      exact ((ih hrest).cons y).trans (.swap x y ys)

theorem sortBy_perm {xs zs : List α} (h : sortBy key xs = .ok zs) : zs.Perm xs := by
  have hrun : ∀ (rest done : List α), rest.foldlM (fun sorted x => insertBy key x sorted) done =
      .ok zs → zs.Perm (done ++ rest) := by
    intro rest
    induction rest with
    | nil =>
      intro done hdone
      cases hdone
      rw [append_nil]
    | cons x rest ih =>
      intro done hdone
      obtain ⟨next, hnext, hdone⟩ := bind_eq_ok.mp hdone
      have hperm := (insertBy_perm hnext).append_right rest
      exact (ih next hdone).trans (hperm.trans perm_middle.symm)
  exact hrun xs [] h

theorem exists_insertBy {x : α} {ys : List α}
    (h : ∀ y ∈ ys, ∃ first, before (key x) (key y) = .ok first) :
    ∃ zs, insertBy key x ys = .ok zs := by
  induction ys with
  | nil => exact ⟨[x], rfl⟩
  | cons y ys ih =>
    obtain ⟨first, hfirst⟩ := h y mem_cons_self
    obtain ⟨zs, hzs⟩ := ih fun y' hy' => h y' (mem_cons_of_mem _ hy')
    rw [insertBy, hfirst, ok_bind]
    cases first with
    | true => exact ⟨_, rfl⟩
    | false =>
      rw [hzs]
      exact ⟨_, rfl⟩

section Order

variable {lt : α → α → Bool} {R : α → α → Prop}

theorem pairwise_insertBy (hfront : ∀ a b, lt a b = true → R a b)
    (hbehind : ∀ a b c, lt a b = true → R b c → R a c) {x : α} {ys zs : List α}
    (hcompare : ∀ y ∈ ys, before (key x) (key y) = .ok (lt x y))
    (hnot : ∀ y ∈ ys, lt x y = false → R y x) (hys : ys.Pairwise R)
    (h : insertBy key x ys = .ok zs) : zs.Pairwise R := by
  induction ys generalizing zs with
  | nil =>
    cases h
    exact pairwise_singleton _ _
  | cons y ys ih =>
    rw [insertBy, hcompare y mem_cons_self, ok_bind] at h
    obtain ⟨hy, hys'⟩ := pairwise_cons.mp hys
    cases hfirst : lt x y with
    | true =>
      rw [hfirst] at h
      cases h
      refine .cons (forall_mem_cons.mpr ⟨hfront x y hfirst, fun z hz => ?_⟩) hys
      exact hbehind x y z hfirst (hy z hz)
    | false =>
      rw [hfirst] at h
      obtain ⟨rest, hrest, h⟩ := bind_eq_ok.mp h
      cases h
      refine .cons (fun z hz => ?_) (ih (forall_mem_cons.mp hcompare).2
        (forall_mem_cons.mp hnot).2 hys' hrest)
      rcases mem_cons.mp ((insertBy_perm hrest).mem_iff.mp hz) with rfl | hz
      · exact hnot y mem_cons_self hfirst
      · exact hy z hz

theorem exists_sortBy (hfront : ∀ a b, lt a b = true → R a b)
    (hbehind : ∀ a b c, lt a b = true → R b c → R a c) {xs : List α}
    (hcompare : ∀ a ∈ xs, ∀ b ∈ xs, before (key a) (key b) = .ok (lt a b))
    (hnot : xs.Pairwise fun a b => lt b a = false → R a b) :
    ∃ zs, sortBy key xs = .ok zs ∧ zs.Perm xs ∧ zs.Pairwise R := by
  -- `done` is what was inserted so far, in order.
  have hrun : ∀ rest done : List α, (∀ a ∈ rest, a ∈ xs) → (∀ a ∈ done, a ∈ xs) →
      (∀ a ∈ done, ∀ b ∈ rest, lt b a = false → R a b) →
      (rest.Pairwise fun a b => lt b a = false → R a b) → done.Pairwise R →
      ∃ zs, rest.foldlM (fun sorted x => insertBy key x sorted) done = .ok zs ∧
        zs.Perm (done ++ rest) ∧ zs.Pairwise R := by
    intro rest
    induction rest with
    | nil =>
      intro done _ _ _ _ hdone
      exact ⟨done, rfl, by rw [append_nil], hdone⟩
    | cons x rest ih =>
      intro done hrest hmem hacross hlater hdone
      obtain ⟨hx, hrest⟩ := forall_mem_cons.mp hrest
      obtain ⟨hxlater, hlater⟩ := pairwise_cons.mp hlater
      have hnew : ∀ y ∈ done, before (key x) (key y) = .ok (lt x y) :=
        fun y hy => hcompare x hx y (hmem y hy)
      obtain ⟨next, hnext⟩ := exists_insertBy fun y hy => ⟨_, hnew y hy⟩
      have hperm := insertBy_perm hnext
      have hall : ∀ {P : α → Prop}, P x → (∀ a ∈ done, P a) → ∀ a ∈ next, P a := by
        intro P hPx hP a ha
        exact forall_mem_cons.mpr ⟨hPx, hP⟩ a (hperm.mem_iff.mp ha)
      obtain ⟨zs, hzs, hzperm, hzsorted⟩ := ih next hrest (hall hx hmem)
        (hall hxlater fun a ha => (forall_mem_cons.mp (hacross a ha)).2) hlater
        (pairwise_insertBy hfront hbehind hnew (fun y hy => hacross y hy x mem_cons_self)
          hdone hnext)
      refine ⟨zs, ?_, ?_, hzsorted⟩
      · rw [foldlM_cons, hnext, ok_bind, hzs]
      · exact hzperm.trans ((hperm.append_right rest).trans perm_middle.symm)
  exact hrun xs [] (fun _ => id) (by simp) (by simp) hnot .nil

/-- Items with keys that compare by a strict order are sorted: none is lost, and none stands behind
one that it comes before. -/
theorem sortBy_eq_ok (hirrefl : ∀ a, lt a a = false)
    (htrans : ∀ a b c, lt a b = true → lt b c = true → lt a c = true) {xs : List α}
    (hcompare : ∀ a ∈ xs, ∀ b ∈ xs, before (key a) (key b) = .ok (lt a b)) :
    ∃ zs, sortBy key xs = .ok zs ∧ zs.Perm xs ∧ zs.Pairwise fun a b => lt b a = false := by
  refine exists_sortBy (fun a b hab => ?_) (fun a b c hab hcb => ?_) hcompare
    (pairwise_of_forall fun _ _ => id)
  · -- What comes before an item does not come behind it.
    rw [← Bool.not_eq_true]
    exact fun hba => Bool.false_ne_true ((hirrefl a).symm.trans (htrans a b a hab hba))
  · rw [← Bool.not_eq_true]
    exact fun hca => Bool.false_ne_true (hcb.symm.trans (htrans c a b hca hab))

end Order

/-! ## Ranks -/

theorem before_int (m n : Int) : before (.int m) (.int n) = .ok (decide (m < n)) := by
  simp [before, Number.ofValue?, Number.lessThan, Number.ratio?]

theorem insertBy_map (f : β → α) (x : β) (ys : List β) :
    insertBy key (f x) (ys.map f) = map f <$> insertBy (fun b => key (f b)) x ys := by
  induction ys with
  | nil => rfl
  | cons y ys ih =>
    rw [map_cons, insertBy, insertBy, ih]
    cases before (key (f x)) (key (f y)) with
    | error fault => rfl
    | ok first =>
      cases first with
      | true => rfl
      | false => cases insertBy (fun b => key (f b)) x ys <;> rfl

theorem sortBy_map (f : β → α) (xs : List β) :
    sortBy key (xs.map f) = map f <$> sortBy (fun b => key (f b)) xs := by
  have hrun : ∀ rest done : List β,
      (rest.map f).foldlM (fun sorted x => insertBy key x sorted) (done.map f) =
        map f <$> rest.foldlM (fun sorted x => insertBy (fun b => key (f b)) x sorted) done := by
    intro rest
    induction rest with
    | nil => exact fun _ => rfl
    | cons x rest ih =>
      intro done
      rw [map_cons, foldlM_cons, foldlM_cons, insertBy_map]
      cases insertBy (fun b => key (f b)) x done with
      | error fault => rfl
      | ok next => exact ih next
  exact hrun xs []

theorem sortByDown_map (f : β → α) (xs : List β) :
    sortByDown key (xs.map f) = map f <$> sortByDown (fun b => key (f b)) xs := by
  rw [sortByDown, sortByDown, ← map_reverse, sortBy_map]
  cases sortBy (fun b => key (f b)) xs.reverse with
  | error fault => rfl
  | ok zs => exact congrArg Except.ok map_reverse.symm

theorem sortByDown_perm {xs zs : List α} (h : sortByDown key xs = .ok zs) : zs.Perm xs := by
  obtain ⟨ys, hys, h⟩ := bind_eq_ok.mp h
  cases h
  exact ys.reverse_perm.trans ((sortBy_perm hys).trans xs.reverse_perm)

/-- Items with integers as keys are sorted in falling order, and those of one rank keep theirs. -/
theorem sortByDown_eq_ok {rank : α → Int} {xs : List α} (hkey : ∀ a ∈ xs, key a = .int (rank a)) :
    ∃ zs, sortByDown key xs = .ok zs ∧ zs.Perm xs ∧
      zs.Pairwise fun a b => rank b < rank a ∨ rank a = rank b ∧ [a, b].Sublist xs := by
  have hcompare : ∀ a ∈ xs.reverse, ∀ b ∈ xs.reverse,
      before (key a) (key b) = .ok (decide (rank a < rank b)) := by
    intro a ha b hb
    rw [hkey a (mem_reverse.mp ha), hkey b (mem_reverse.mp hb), before_int]
  have hties : xs.reverse.Pairwise fun a b => decide (rank b < rank a) = false →
      rank a < rank b ∨ rank a = rank b ∧ [b, a].Sublist xs := by
    refine pairwise_iff_forall_sublist.mpr fun {a b} hab hba => ?_
    have horder : [b, a].Sublist xs := sublist_reverse_iff.mp hab
    have hle := of_decide_eq_false hba
    by_cases heq : rank a = rank b
    · exact .inr ⟨heq, horder⟩
    · exact .inl (by omega)
  obtain ⟨zs, hzs, hperm, hsorted⟩ :=
    exists_sortBy (fun a b hab => .inl (of_decide_eq_true hab)) (fun a b c hab hbc => .inl (by
      have := of_decide_eq_true hab
      omega)) hcompare hties
  refine ⟨zs.reverse, ?_, zs.reverse_perm.trans (hperm.trans xs.reverse_perm), ?_⟩
  · rw [sortByDown, hzs]
    rfl
  · rw [pairwise_reverse]
    exact hsorted.imp fun h => h.imp id fun ⟨heq, h⟩ => ⟨heq.symm, h⟩

/-! ## Keys of two kinds -/

theorem sortBy_eq_error {kind : α → Bool} {f : Fault} {xs : List α}
    (hwithin : ∀ a ∈ xs, ∀ b ∈ xs, kind a = kind b → ∃ first, before (key a) (key b) = .ok first)
    (hacross : ∀ a ∈ xs, ∀ b ∈ xs, kind a ≠ kind b → before (key a) (key b) = .error f)
    {a b : α} (ha : a ∈ xs) (hb : b ∈ xs) (hkinds : kind a ≠ kind b) : sortBy key xs = .error f := by
  -- `done` is what was inserted so far: items of one kind.
  have hrun : ∀ (rest done : List α) (k : Bool), (∀ x ∈ rest, x ∈ xs) → (∀ y ∈ done, y ∈ xs) →
      done ≠ [] → (∀ y ∈ done, kind y = k) → (∃ x ∈ rest, kind x ≠ k) →
      rest.foldlM (fun sorted x => insertBy key x sorted) done = .error f := by
    intro rest
    induction rest with
    | nil =>
      rintro done k - - - - ⟨x, hx, -⟩
      cases hx
    | cons x rest ih =>
      intro done k hrest hmem hne hdone hother
      obtain ⟨hx, hrest⟩ := forall_mem_cons.mp hrest
      rw [foldlM_cons]
      by_cases hk : kind x = k
      · obtain ⟨next, hnext⟩ := exists_insertBy fun y hy =>
          hwithin x hx y (hmem y hy) (hk.trans (hdone y hy).symm)
        have hperm := insertBy_perm hnext
        have hnew : ∀ {P : α → Prop}, P x → (∀ y ∈ done, P y) → ∀ y ∈ next, P y := by
          intro P hPx hP y hy
          rcases mem_cons.mp (hperm.mem_iff.mp hy) with rfl | hy
          · exact hPx
          · exact hP y hy
        obtain ⟨x', hx', hkind⟩ := hother
        rw [hnext]
        refine ih next k hrest (hnew hx hmem) ?_ (hnew hk hdone) ⟨x', ?_, hkind⟩
        · rintro rfl
          exact absurd hperm.length_eq (by simp)
        · exact mem_of_ne_of_mem (fun h => hkind (h ▸ hk)) hx'
      · -- The first item of the other kind is compared with one that was inserted.
        obtain ⟨y, ys, rfl⟩ := exists_cons_of_ne_nil hne
        have hy : kind x ≠ kind y := by
          rw [hdone y mem_cons_self]
          exact hk
        rw [insertBy, hacross x hx y (hmem y mem_cons_self) hy]
        rfl
  cases xs with
  | nil => cases ha
  | cons x rest =>
    refine hrun rest [x] (kind x) (fun _ => mem_cons_of_mem x) (by simp) (by simp) (by simp) ?_
    -- One of the two is of another kind than the first item, and so stands behind it.
    have hbehind : ∀ c ∈ x :: rest, kind c ≠ kind x → ∃ x' ∈ rest, kind x' ≠ kind x :=
      fun c hc hkind => ⟨c, mem_of_ne_of_mem (fun h => hkind (h ▸ rfl)) hc, hkind⟩
    by_cases hax : kind a = kind x
    · exact hbehind b hb fun hbx => hkinds (hax.trans hbx.symm)
    · exact hbehind a ha hax

end SkillKit.Value
