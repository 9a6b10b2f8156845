import SkillKit.Proofs.Decimal.Nearest
import SkillKit.Proofs.Text.Digits

/-!
# The shortest digits of a double

Digits are read by their value alone (`ofDigits_congr`).  The digits that are found for a double read
back as the double, and if none were found its exact digits would (`ofDigits_exact`).
-/

namespace SkillKit.Decimal

open Text

variable {x : Float} {m n : Nat} {q e : Int} {negative : Bool}

/-! ## Reading digits -/

theorem places_bounds (hn : n ≠ 0) (e : Int) :
    (10 : ℚ) ^ (e + (Nat.toDigits 10 n).length - 1) ≤ n * 10 ^ e ∧
      (n : ℚ) * 10 ^ e < 10 ^ (e + (Nat.toDigits 10 n).length) := by
  obtain ⟨hlow, hhigh⟩ := toDigits_bounds hn
  have hlen : 0 < (Nat.toDigits 10 n).length := Nat.length_toDigits_pos
  have hten : (10 : ℚ) ≠ 0 := by norm_num
  generalize (Nat.toDigits 10 n).length = len at *
  constructor
  · rw [show e + len - 1 = ((len - 1 : Nat) : Int) + e by omega, zpow_add₀ hten]
    gcongr
    exact_mod_cast hlow
  · rw [add_comm, zpow_add₀ hten]
    gcongr
    exact_mod_cast hhigh

theorem ofDigits_spec (negative : Bool) (hn : n ≠ 0)
    (hlow : ¬ e + (Nat.toDigits 10 n).length < -400)
    (hhigh : ¬ 400 < e + (Nat.toDigits 10 n).length) :
    ∃ num den : Nat, num ≠ 0 ∧ den ≠ 0 ∧ (num : ℚ) / den = n * 10 ^ e ∧
      ofDigits negative n e = ofRatio negative num den := by
  have hpower (k : Nat) : tenTo k ≠ 0 := (Nat.pow_pos (by decide)).ne'
  unfold ofDigits
  rw [if_neg (by simp [hn, hlow]), if_neg hhigh]
  by_cases he : 0 ≤ e
  · obtain ⟨k, rfl⟩ := Int.eq_ofNat_of_zero_le he
    refine ⟨_, 1, Nat.mul_ne_zero hn (hpower k), one_ne_zero, ?_, if_pos he⟩
    simp [tenTo]
  · obtain ⟨k, rfl⟩ : ∃ k : Nat, e = -(k : Int) := ⟨(-e).toNat, by omega⟩
    refine ⟨n, _, hn, hpower _, ?_, if_neg he⟩
    simp [div_eq_mul_inv]

theorem ofDigits_congr {n' : Nat} {e' : Int} (negative : Bool) (hn : n ≠ 0)
    (h : (n : ℚ) * 10 ^ e = n' * 10 ^ e') : ofDigits negative n e = ofDigits negative n' e' := by
  have hn' : n' ≠ 0 := by
    rintro rfl
    rw [Nat.cast_zero, zero_mul] at h
    have hpos : (0 : ℚ) < n * 10 ^ e := by positivity
    exact hpos.ne' h
  obtain ⟨hlow, hhigh⟩ := places_bounds hn e
  obtain ⟨hlow', hhigh'⟩ := places_bounds hn' e'
  have hten : (1 : ℚ) < 10 := by norm_num
  -- Equal values have their first digit in the same place.
  have hplace : e + (Nat.toDigits 10 n).length = e' + (Nat.toDigits 10 n').length := by
    rw [h] at hlow hhigh
    have := (zpow_lt_zpow_iff_right₀ hten).mp (hlow.trans_lt hhigh')
    have := (zpow_lt_zpow_iff_right₀ hten).mp (hlow'.trans_lt hhigh)
    omega
  by_cases hsmall : e + (Nat.toDigits 10 n).length < -400
  · unfold ofDigits
    rw [if_pos (by simp [hsmall]), if_pos (by simp [← hplace, hsmall])]
  by_cases hlarge : 400 < e + (Nat.toDigits 10 n).length
  · unfold ofDigits
    dsimp only
    rw [← hplace, if_neg (by simp [hn, hsmall]), if_pos hlarge, if_neg (by simp [hn', hsmall]),
      if_pos hlarge]
  obtain ⟨num, den, hnum, hden, hvalue, hread⟩ := ofDigits_spec negative hn hsmall hlarge
  rw [hplace] at hsmall hlarge
  obtain ⟨num', den', hnum', hden', hvalue', hread'⟩ := ofDigits_spec negative hn' hsmall hlarge
  rw [hread, hread']
  exact ofRatio_congr negative hnum hden hnum' hden' (by rw [hvalue, hvalue', h])

/-! ## Exact digits -/

theorem exactDigits_spec (m : Nat) (q : Int) :
    ((exactDigits m q).1 : ℚ) * 10 ^ (exactDigits m q).2 = m * 2 ^ q := by
  unfold exactDigits
  split
  · rename_i hq
    obtain ⟨k, rfl⟩ := Int.eq_ofNat_of_zero_le hq
    simp [twoTo]
  · obtain ⟨k, rfl⟩ : ∃ k : Nat, q = -(k : Int) := ⟨(-q).toNat, by omega⟩
    have hten : (10 : ℚ) ^ k = 5 ^ k * 2 ^ k := by rw [← mul_pow]; norm_num
    simp [hten]
    field_simp

theorem ofDigits_exact (negative : Bool) (hc : Canonical m q) (hm : m ≠ 0) :
    ofDigits negative (exactDigits m q).1 (exactDigits m q).2 = assemble negative m q := by
  have hvalue := exactDigits_spec m q
  have hpos : (0 : ℚ) < m * 2 ^ q := by positivity
  have hn : (exactDigits m q).1 ≠ 0 := by
    intro hzero
    rw [hzero, Nat.cast_zero, zero_mul] at hvalue
    exact hpos.ne hvalue
  obtain ⟨hlow, hhigh⟩ := places_bounds hn (exactDigits m q).2
  rw [hvalue] at hlow hhigh
  -- The value of a double is far from the bounds beyond which digits are not looked at.
  have hten : (2 : ℚ) ^ (1200 : Int) ≤ 10 ^ (400 : Int) := by
    rw [show (1200 : Int) = 3 * 400 by norm_num, zpow_mul]
    exact zpow_le_zpow_left₀ (by norm_num) (by norm_num) (by norm_num)
  have hsmall : ¬ (exactDigits m q).2 + (Nat.toDigits 10 (exactDigits m q).1).length < -400 := by
    intro hlt
    have hless : (m : ℚ) * 2 ^ q < 1 * 2 ^ q := by
      calc (m : ℚ) * 2 ^ q < 10 ^ (-400 : Int) :=
            hhigh.trans_le (zpow_le_zpow_right₀ (by norm_num) hlt.le)
        _ ≤ 2 ^ (-1200 : Int) := by
            exact inv_anti₀ (by positivity) hten
        _ ≤ 1 * 2 ^ q := by
            rw [one_mul]
            exact zpow_le_zpow_right₀ one_le_two (by have := hc.least_le; omega)
    have hone : m < 1 := by exact_mod_cast lt_of_mul_lt_mul_right hless (by positivity)
    omega
  have hlarge : ¬ 400 < (exactDigits m q).2 + (Nat.toDigits 10 (exactDigits m q).1).length := by
    intro hgt
    have hmore : (2 : ℚ) ^ 53 * 2 ^ q ≤ m * 2 ^ q := by
      calc (2 : ℚ) ^ 53 * 2 ^ q = 2 ^ (53 + q) := by rw [zpow_add₀ two_ne_zero, zpow_ofNat]
        _ ≤ 2 ^ (1200 : Int) := zpow_le_zpow_right₀ one_le_two (by have := hc.le_most; omega)
        _ ≤ 10 ^ (400 : Int) := hten
        _ ≤ m * 2 ^ q := (zpow_le_zpow_right₀ (by norm_num) (by omega)).trans hlow
    have hfull : 2 ^ 53 ≤ m := by exact_mod_cast le_of_mul_le_mul_right hmore (by positivity)
    exact absurd hc.mantissa_lt (not_lt.mpr hfull)
  obtain ⟨num, den, hnum, hden, hratio, hread⟩ := ofDigits_spec negative hn hsmall hlarge
  rw [hread, ofRatio_exact negative hc hnum hden (hratio.trans hvalue)]

/-! ## The search -/

theorem ofDigits_shortest (hx : parts x = .finite negative m q) (hm : m ≠ 0) :
    ofDigits negative (shortest x negative m q).1 (shortest x negative m q).2 = x := by
  obtain ⟨hc, hassemble⟩ := of_parts hx
  unfold shortest
  dsimp only
  generalize hfind : List.findSome? _ _ = found
  cases found with
  | none => rw [Option.getD_none, ofDigits_exact negative hc hm, hassemble]
  | some found =>
    obtain ⟨e, -, hgrid⟩ := List.exists_of_findSome?_eq_some hfind
    obtain ⟨n, hn, rfl⟩ := Option.map_eq_some_iff.mp hgrid
    have hsame := List.find?_some hn
    exact eq_of_toBits (congrArg UInt64.toNat (beq_iff_eq.mp hsame))

theorem shortest_ne_zero (hx : parts x = .finite negative m q) (hm : m ≠ 0) :
    (shortest x negative m q).1 ≠ 0 := by
  intro hzero
  have hread := ofDigits_shortest hx hm
  have hnone : parts (ofRatio negative 0 1) = .finite negative 0 (-1074) := by
    cases negative <;> decide +kernel
  rw [hzero, ofDigits, if_pos (by simp)] at hread
  rw [← hread, hnone] at hx
  cases hx
  exact hm rfl

end SkillKit.Decimal
