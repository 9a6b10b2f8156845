import SkillKit.Data.Number
import SkillKit.Json.Reader
import Mathlib

/-!
# Doubles and the double nearest to a quotient

A double is its bits, and the bits are told by the parts: what was read apart is put together again
(`of_parts`), an infinite double is one of two, and there is one NaN.

Which double is nearest to a quotient is told by the quotient alone (`ofRatio_congr`).  It is finite
if the quotient is at most one (`isFinite_ofRatio`), and a quotient that is a double is that one
(`ofRatio_exact`).
-/

namespace SkillKit.Decimal

open Float.Model (Format UnpackedFloat)

variable {x : Float} {num den m n : Nat} {q : Int} {negative : Bool}

/-! ## Bits -/

theorem unpackExponent_toNat (v : BitVec 64) :
    (@UnpackedFloat.unpackExponent Format.binary64 v).toNat = v.toNat / 2 ^ 52 % 2 ^ 11 := by
  simp [UnpackedFloat.unpackExponent, Nat.shiftRight_eq_div_pow]

theorem toBits_ofBits (hn : n < 2 ^ 64) (h : n / 2 ^ 52 % 2 ^ 11 ≠ 2047) :
    (Float.ofBits (UInt64.ofNat n)).toBits.toNat = n := by
  have hnat : (UInt64.ofNat n).toBitVec.toNat = n := UInt64.toNat_ofNat_of_lt hn
  have hneg : (-1#11).toNat = 2047 := by decide
  have hnumber : ¬ @UnpackedFloat.isNaNBits Format.binary64 (UInt64.ofNat n).toBitVec := by
    unfold UnpackedFloat.isNaNBits
    rw [decide_eq_true_eq]
    rintro ⟨hfield, -⟩
    have hfield' := congrArg BitVec.toNat hfield
    rw [unpackExponent_toNat, hnat] at hfield'
    exact h (hfield'.trans hneg)
  have hpack := @UnpackedFloat.pack_unpack Format.binary64 (UInt64.ofNat n).toBitVec (by decide)
  rw [if_neg hnumber] at hpack
  exact (congrArg BitVec.toNat hpack).trans hnat

theorem eq_of_toBits {y : Float} (h : x.toBits.toNat = y.toBits.toNat) : x = y := by
  have hbits : x.toBits = y.toBits := UInt64.toNat_inj.mp h
  obtain ⟨⟨c, hc⟩⟩ := y
  cases hbits
  rfl

/-! ## Finite doubles -/

/-- A mantissa and an exponent that a double has: the mantissa has 53 bits, or fewer at the least
exponent. -/
structure Canonical (m : Nat) (q : Int) : Prop where
  mantissa_lt : m < 2 ^ 53
  least_le : -1074 ≤ q
  le_most : q ≤ 971
  full : 2 ^ 52 ≤ m ∨ q = -1074

theorem bits_eq (b : Nat) (hb : b < 2 ^ 64) :
    b = (if b / 2 ^ 63 == 1 then 2 ^ 63 else 0) + (b / 2 ^ 52 % 2 ^ 11 * 2 ^ 52 + b % 2 ^ 52) := by
  by_cases hsign : b / 2 ^ 63 = 1
  · rw [if_pos (beq_iff_eq.mpr hsign)]
    omega
  · rw [if_neg (by simpa using hsign)]
    omega

theorem parts_eq {b : Nat} (hb : x.toBits.toNat = b) : parts x =
    if b / 2 ^ 52 % 2 ^ 11 == 2047 then
      (if b % 2 ^ 52 == 0 then .infinite (b / 2 ^ 63 == 1) else .nan)
    else if b / 2 ^ 52 % 2 ^ 11 == 0 then .finite (b / 2 ^ 63 == 1) (b % 2 ^ 52) (-1074)
    else .finite (b / 2 ^ 63 == 1) (2 ^ 52 + b % 2 ^ 52)
      (((b / 2 ^ 52 % 2 ^ 11 : Nat) : Int) - 1075) := by
  rw [← hb]
  rfl

theorem assemble_eq (negative : Bool) (m : Nat) (q : Int) : assemble negative m q =
    Float.ofBits (UInt64.ofNat ((if negative then 2 ^ 63 else 0) +
      if m < 2 ^ 52 then m
      else if 971 < q then 2047 * 2 ^ 52 else (q + 1075).toNat * 2 ^ 52 + (m - 2 ^ 52))) :=
  rfl

theorem of_parts (h : parts x = .finite negative m q) :
    Canonical m q ∧ assemble negative m q = x := by
  obtain ⟨b, hb⟩ : ∃ b, x.toBits.toNat = b := ⟨_, rfl⟩
  have hlt : b < 2 ^ 64 := hb ▸ UInt64.toNat_lt _
  have hbits := bits_eq b hlt
  have hfraction : b % 2 ^ 52 < 2 ^ 52 := Nat.mod_lt _ (Nat.two_pow_pos _)
  -- Bits with these three pieces are those of the double.
  have hsame {n : Nat} (hn : n = b) (hfinite : b / 2 ^ 52 % 2 ^ 11 ≠ 2047) :
      Float.ofBits (UInt64.ofNat n) = x := by
    subst hn
    exact eq_of_toBits ((toBits_ofBits hlt hfinite).trans hb.symm)
  rw [parts_eq hb] at h
  by_cases hall : b / 2 ^ 52 % 2 ^ 11 = 2047
  · rw [if_pos (beq_iff_eq.mpr hall)] at h
    split at h <;> cases h
  · rw [if_neg (by simpa using hall)] at h
    by_cases hnone : b / 2 ^ 52 % 2 ^ 11 = 0
    · rw [if_pos (beq_iff_eq.mpr hnone)] at h
      cases h
      refine ⟨⟨by omega, by omega, by omega, .inr rfl⟩, ?_⟩
      rw [hnone, Nat.zero_mul, Nat.zero_add] at hbits
      rw [assemble_eq, if_pos hfraction]
      exact hsame hbits.symm hall
    · rw [if_neg (by simpa using hnone)] at h
      cases h
      refine ⟨⟨by omega, by omega, by omega, .inl (by omega)⟩, ?_⟩
      have hfield' : (((b / 2 ^ 52 % 2 ^ 11 : Nat) : Int) - 1075 + 1075).toNat =
          b / 2 ^ 52 % 2 ^ 11 := by omega
      rw [assemble_eq, if_neg (show ¬ 2 ^ 52 + b % 2 ^ 52 < 2 ^ 52 by omega),
        if_neg (show ¬ (971 : Int) < ((b / 2 ^ 52 % 2 ^ 11 : Nat) : Int) - 1075 by omega), hfield',
        Nat.add_sub_cancel_left]
      exact hsame hbits.symm hall

theorem isFinite_assemble (hm : m < 2 ^ 53) (hlow : -1074 ≤ q) (hhigh : q ≤ 971) :
    isFinite (assemble negative m q) = true := by
  obtain ⟨b, hb, hlt, hfield⟩ : ∃ b, assemble negative m q = Float.ofBits (UInt64.ofNat b) ∧
      b < 2 ^ 64 ∧ b / 2 ^ 52 % 2 ^ 11 ≠ 2047 := by
    refine ⟨_, assemble_eq negative m q, ?_⟩
    by_cases hsmall : m < 2 ^ 52
    · split <;> omega
    · obtain ⟨k, hk, hmost⟩ : ∃ k : Nat, (q + 1075).toNat = k ∧ k ≤ 2046 := ⟨_, rfl, by omega⟩
      rw [if_neg (not_lt.mpr hhigh)]
      split <;> constructor <;> omega
  have hparts := parts_eq (toBits_ofBits hlt hfield)
  rw [if_neg (by simpa using hfield)] at hparts
  rw [hb, isFinite, hparts]
  cases b / 2 ^ 52 % 2 ^ 11 == 0 <;> rfl

/-! ## Doubles that are not finite -/

theorem of_parts_special {b : Nat} (hb : x.toBits.toNat = b) (h : isFinite x = false) :
    b / 2 ^ 52 % 2 ^ 11 = 2047 ∧
      parts x = if b % 2 ^ 52 == 0 then .infinite (b / 2 ^ 63 == 1) else .nan := by
  have hparts := parts_eq hb
  by_cases hall : b / 2 ^ 52 % 2 ^ 11 = 2047
  · rw [if_pos (beq_iff_eq.mpr hall)] at hparts
    exact ⟨hall, hparts⟩
  · rw [if_neg (by simpa using hall)] at hparts
    unfold isFinite at h
    rw [hparts] at h
    split at h
    · cases h
    · rename_i hne
      split at hne <;> exact absurd rfl (hne _ _ _)

open Json in
theorem eq_infinity_of_parts (h : parts x = .infinite negative) :
    x = if negative then -infinity else infinity := by
  obtain ⟨b, hb⟩ : ∃ b, x.toBits.toNat = b := ⟨_, rfl⟩
  have hbits := bits_eq b (hb ▸ UInt64.toNat_lt _)
  obtain ⟨hfield, hspecial⟩ := of_parts_special hb (by rw [isFinite, h])
  rw [h] at hspecial
  split at hspecial
  · rename_i hfraction
    cases hspecial
    have hpositive : infinity.toBits.toNat = 2047 * 2 ^ 52 := by decide +kernel
    have hnegative : (-infinity).toBits.toNat = 2 ^ 63 + 2047 * 2 ^ 52 := by decide +kernel
    rw [hfield, beq_iff_eq.mp hfraction, Nat.add_zero] at hbits
    apply eq_of_toBits
    rw [hb, hbits]
    cases b / 2 ^ 63 == 1 with
    | false => exact (Nat.zero_add _).trans hpositive.symm
    | true => exact hnegative.symm
  · cases hspecial

theorem unpackMantissa_toNat (v : BitVec 64) :
    (@UnpackedFloat.unpackMantissa Format.binary64 v).toNat = v.toNat % 2 ^ 52 := by
  simp [UnpackedFloat.unpackMantissa]

theorem toBits_of_parts_nan (h : parts x = .nan) :
    x.toBits.toBitVec = UnpackedFloat.packedNaN Format.binary64 := by
  obtain ⟨b, hb⟩ : ∃ b, x.toBits.toNat = b := ⟨_, rfl⟩
  obtain ⟨hfield, hspecial⟩ := of_parts_special hb (by rw [isFinite, h])
  rw [h] at hspecial
  have hnat : x.toBits.toBitVec.toNat = b := hb
  refine x.toModel.valid.eq_packedNaN ?_ ?_
  · apply BitVec.eq_of_toNat_eq
    change (@UnpackedFloat.unpackExponent Format.binary64 x.toBits.toBitVec).toNat = _
    rw [unpackExponent_toNat, hnat, hfield]
    decide
  · intro hzero
    have hfraction := congrArg BitVec.toNat hzero
    change (@UnpackedFloat.unpackMantissa Format.binary64 x.toBits.toBitVec).toNat = _ at hfraction
    rw [unpackMantissa_toNat, hnat] at hfraction
    have hnone : b % 2 ^ 52 = 0 := hfraction
    rw [if_pos (beq_iff_eq.mpr hnone)] at hspecial
    cases hspecial

open Json in
theorem eq_nan_of_parts (h : parts x = .nan) : x = infinity - infinity := by
  have hnan : parts (infinity - infinity) = .nan := by decide +kernel
  apply eq_of_toBits
  change x.toBits.toBitVec.toNat = (infinity - infinity).toBits.toBitVec.toNat
  rw [toBits_of_parts_nan h, toBits_of_parts_nan hnan]

/-! ## Rounding to the nearest number -/

theorem divNearest_le {b : Nat} (hden : 0 < den) (h : num < b * den) : divNearest num den ≤ b := by
  have hq : num / den < b := (Nat.div_lt_iff_lt_mul hden).mpr h
  unfold divNearest
  dsimp only
  split
  · omega
  · split <;> omega

theorem divNearest_mul_right {k : Nat} (hk : 0 < k) :
    divNearest (num * k) (den * k) = divNearest num den := by
  simp only [divNearest, Nat.mul_div_mul_right _ _ hk, Nat.mul_mod_mul_right, ← Nat.mul_assoc,
    Nat.mul_lt_mul_right hk]

/-! ## Powers of two -/

theorem scaled_spec (n : Nat) (e : Int) :
    0 < (scaled n e).2 ∧ ((scaled n e).1 : ℚ) = n * 2 ^ e * (scaled n e).2 := by
  unfold scaled
  split
  · rename_i he
    obtain ⟨k, rfl⟩ := Int.eq_ofNat_of_zero_le he
    simp [twoTo]
  · obtain ⟨k, hk⟩ : ∃ k : Nat, e = -(k : Int) := ⟨(-e).toNat, by omega⟩
    subst hk
    simp [twoTo]

theorem scaled_div (n : Nat) (e : Int) :
    ((scaled n e).1 : ℚ) / (scaled n e).2 = n * 2 ^ e := by
  obtain ⟨hden, hnum⟩ := scaled_spec n e
  have hden' : ((scaled n e).2 : ℚ) ≠ 0 := by exact_mod_cast hden.ne'
  rw [hnum, mul_div_cancel_right₀ _ hden']

theorem zpow_log2_le {n : Nat} (hn : n ≠ 0) :
    (2 : ℚ) ^ (n.log2 : Int) ≤ n ∧ (n : ℚ) < 2 ^ ((n.log2 : Int) + 1) := by
  have hle : 2 ^ n.log2 ≤ n := Nat.log2_self_le hn
  have hlt : n < 2 ^ (n.log2 + 1) := Nat.lt_log2_self
  constructor
  · exact_mod_cast hle
  · exact_mod_cast hlt

/-! ## Rounding to the nearest double -/

/-- The exponent that is guessed from the numbers of bits is right or one too high, and where it is
too high the quotient has only 52 bits above it. -/
theorem guess_spec (hnum : num ≠ 0) (hden : den ≠ 0) {guess : Int}
    (hguess : (num.log2 : Int) - den.log2 - 52 = guess) :
    ∃ e : Int, (if (scaled num (-guess)).1 < (scaled num (-guess)).2 * den * 2 ^ 52 then guess - 1
        else guess) = e ∧
      (2 : ℚ) ^ (52 + e) ≤ num / den ∧ (num : ℚ) / den < 2 ^ (53 + e) := by
  obtain ⟨hnumLow, hnumHigh⟩ := zpow_log2_le hnum
  obtain ⟨hdenLow, hdenHigh⟩ := zpow_log2_le hden
  have hpos : (0 : ℚ) < den := by exact_mod_cast Nat.pos_of_ne_zero hden
  have htwo : (2 : ℚ) ≠ 0 := two_ne_zero
  have hhigh : (num : ℚ) / den < 2 ^ (53 + guess) := by
    rw [div_lt_iff₀ hpos]
    calc (num : ℚ) < 2 ^ ((num.log2 : Int) + 1) := hnumHigh
      _ = 2 ^ (53 + guess) * 2 ^ (den.log2 : Int) := by
        rw [← zpow_add₀ htwo]
        congr 1
        omega
      _ ≤ 2 ^ (53 + guess) * den := by gcongr
  have hlow : (2 : ℚ) ^ (51 + guess) ≤ num / den := by
    rw [le_div_iff₀ hpos]
    calc (2 : ℚ) ^ (51 + guess) * den ≤ 2 ^ (51 + guess) * 2 ^ ((den.log2 : Int) + 1) := by gcongr
      _ = 2 ^ (num.log2 : Int) := by
        rw [← zpow_add₀ htwo]
        congr 1
        omega
      _ ≤ num := hnumLow
  have hroom : (scaled num (-guess)).1 < (scaled num (-guess)).2 * den * 2 ^ 52 ↔
      (num : ℚ) / den < 2 ^ (52 + guess) := by
    obtain ⟨hbottom, htop⟩ := scaled_spec num (-guess)
    have hbottom' : (0 : ℚ) < (scaled num (-guess)).2 := by exact_mod_cast hbottom
    have hpow : (0 : ℚ) < 2 ^ guess := by positivity
    have hscale : (num : ℚ) * 2 ^ (-guess) * (scaled num (-guess)).2 =
        (scaled num (-guess)).2 * (num / 2 ^ guess) := by
      rw [zpow_neg]
      ring
    have hsplit : (2 : ℚ) ^ (52 + guess) * den = den * 2 ^ 52 * 2 ^ guess := by
      rw [zpow_add₀ htwo]
      ring
    rw [← Nat.cast_lt (α := ℚ), htop, hscale, div_lt_iff₀ hpos, hsplit, Nat.cast_mul, Nat.cast_mul,
      mul_assoc, mul_lt_mul_iff_right₀ hbottom', div_lt_iff₀ hpow]
    norm_cast
  by_cases h : (num : ℚ) / den < 2 ^ (52 + guess)
  · refine ⟨guess - 1, if_pos (hroom.mpr h), ?_, ?_⟩
    · rwa [show 52 + (guess - 1) = 51 + guess by ring]
    · rwa [show 53 + (guess - 1) = 52 + guess by ring]
  · exact ⟨guess, if_neg (hroom.not.mpr h), not_lt.mp h, hhigh⟩

/-- A quotient in units of the last place of a double: it has 53 bits there, or fewer at the least
exponent. -/
structure Shifted (r : ℚ) (e : Int) (top bottom : Nat) : Prop where
  low : (2 : ℚ) ^ (52 + e) ≤ r
  high : r < 2 ^ (53 + e)
  bottom_pos : 0 < bottom
  top_eq : (top : ℚ) = r * 2 ^ (-max e (-1074)) * bottom

namespace Shifted

variable {r : ℚ} {e e' : Int} {top top' bottom bottom' : Nat}

theorem divNearest_le (h : Shifted r e top bottom) : divNearest top bottom ≤ 2 ^ 53 := by
  have hpos : (0 : ℚ) < bottom := by exact_mod_cast h.bottom_pos
  have hlt : (top : ℚ) < 2 ^ 53 * bottom := by
    rw [h.top_eq]
    gcongr
    calc r * 2 ^ (-max e (-1074)) < 2 ^ (53 + e) * 2 ^ (-max e (-1074)) := by
          gcongr
          exact h.high
      _ = 2 ^ (53 + e + -max e (-1074)) := (zpow_add₀ two_ne_zero _ _).symm
      _ ≤ 2 ^ (53 : Int) := zpow_le_zpow_right₀ one_le_two (by omega)
  exact Decimal.divNearest_le h.bottom_pos (by exact_mod_cast hlt)

theorem exponent_le (h : Shifted r e top bottom) (h' : Shifted r e' top' bottom') : e ≤ e' := by
  have := (zpow_lt_zpow_iff_right₀ one_lt_two).mp (h.low.trans_lt h'.high)
  omega

theorem unique (h : Shifted r e top bottom) (h' : Shifted r e' top' bottom') :
    e = e' ∧ divNearest top bottom = divNearest top' bottom' := by
  obtain rfl : e = e' := le_antisymm (h.exponent_le h') (h'.exponent_le h)
  have hcross : top * bottom' = top' * bottom := by
    have hcast : (top : ℚ) * bottom' = top' * bottom := by
      rw [h.top_eq, h'.top_eq]
      ring
    exact_mod_cast hcast
  rw [← divNearest_mul_right h'.bottom_pos, hcross, Nat.mul_comm bottom,
    divNearest_mul_right h.bottom_pos]
  exact ⟨rfl, rfl⟩

end Shifted

/-- The double nearest to a quotient: it is rounded in the last place.  If that takes one more bit,
the double is the next power of two. -/
theorem ofRatio_spec (negative : Bool) (hnum : num ≠ 0) (hden : den ≠ 0) :
    ∃ e top bottom, Shifted (num / den) e top bottom ∧ ofRatio negative num den =
      if divNearest top bottom = 2 ^ 53 then assemble negative (2 ^ 52) (max e (-1074) + 1)
      else assemble negative (divNearest top bottom) (max e (-1074)) := by
  obtain ⟨guess, hguess⟩ : ∃ guess : Int, (num.log2 : Int) - den.log2 - 52 = guess := ⟨_, rfl⟩
  obtain ⟨e, he, hlow, hhigh⟩ := guess_spec hnum hden hguess
  obtain ⟨hbottom, htop⟩ := scaled_spec num (-max e (-1074))
  refine ⟨e, (scaled num (-max e (-1074))).1, (scaled num (-max e (-1074))).2 * den,
    ⟨hlow, hhigh, Nat.mul_pos hbottom (Nat.pos_of_ne_zero hden), ?_⟩, ?_⟩
  · rw [htop]
    push_cast
    field_simp
  · -- the powers are named, or comparing terms would unfold them bit by bit
    obtain ⟨w, hw⟩ : ∃ w, 2 ^ 52 = w := ⟨_, rfl⟩
    obtain ⟨w', hw'⟩ : ∃ w', 2 ^ 53 = w' := ⟨_, rfl⟩
    have hw₁ : twoTo 52 = w := hw
    have hw₂ : twoTo 53 = w' := hw'
    rw [hw] at he
    rw [hw, hw']
    unfold ofRatio
    rw [if_neg (by simpa using hnum), hw₁, hw₂]
    simp only [hguess, he, beq_iff_eq]

theorem isFinite_ofRatio (hle : num ≤ den) (hden : 0 < den) :
    isFinite (ofRatio negative num den) = true := by
  by_cases hnum : num = 0
  · subst hnum
    exact isFinite_assemble (by norm_num) (by omega) (by omega)
  obtain ⟨e, top, bottom, h, hround⟩ := ofRatio_spec negative hnum hden.ne'
  have he : 52 + e ≤ 0 := by
    have hone : (num : ℚ) / den ≤ 1 := div_le_one_of_le₀ (by exact_mod_cast hle) (by positivity)
    rw [← zpow_le_one_iff_right₀ (one_lt_two (α := ℚ))]
    exact h.low.trans hone
  rw [hround]
  split
  · exact isFinite_assemble (by norm_num) (by omega) (by omega)
  · rename_i hne
    exact isFinite_assemble (lt_of_le_of_ne h.divNearest_le hne) (by omega) (by omega)

theorem ofRatio_congr {num' den' : Nat} (negative : Bool) (hnum : num ≠ 0) (hden : den ≠ 0)
    (hnum' : num' ≠ 0) (hden' : den' ≠ 0) (h : (num : ℚ) / den = num' / den') :
    ofRatio negative num den = ofRatio negative num' den' := by
  obtain ⟨e, top, bottom, hs, hround⟩ := ofRatio_spec negative hnum hden
  obtain ⟨e', top', bottom', hs', hround'⟩ := ofRatio_spec negative hnum' hden'
  rw [h] at hs
  obtain ⟨rfl, hmantissa⟩ := hs.unique hs'
  rw [hround, hround', hmantissa]

theorem ofRatio_exact (negative : Bool) (hc : Canonical m q) (hnum : num ≠ 0)
    (hden : den ≠ 0) (h : (num : ℚ) / den = m * 2 ^ q) :
    ofRatio negative num den = assemble negative m q := by
  obtain ⟨e, top, bottom, hs, hround⟩ := ofRatio_spec negative hnum hden
  rw [h] at hs
  have hleast := hc.least_le
  have hplace : max e (-1074) = q := by
    have hle : e ≤ q := by
      have hlt : (2 : ℚ) ^ (52 + e) < 2 ^ (53 + q) := by
        refine hs.low.trans_lt ?_
        rw [zpow_add₀ two_ne_zero]
        gcongr
        exact_mod_cast hc.mantissa_lt
      have := (zpow_lt_zpow_iff_right₀ one_lt_two).mp hlt
      omega
    rcases hc.full with hfull | rfl
    · have hlt : (2 : ℚ) ^ (52 + q) < 2 ^ (53 + e) := by
        refine lt_of_le_of_lt ?_ hs.high
        rw [zpow_add₀ two_ne_zero]
        gcongr
        exact_mod_cast hfull
      have := (zpow_lt_zpow_iff_right₀ one_lt_two).mp hlt
      omega
    · exact max_eq_right hle
  have htop : top = m * bottom := by
    have hcast : (top : ℚ) = m * bottom := by
      rw [hs.top_eq, hplace, mul_assoc (m : ℚ), ← zpow_add₀ two_ne_zero, add_neg_cancel, zpow_zero,
        mul_one]
    exact_mod_cast hcast
  have hmantissa : divNearest top bottom = m := by
    have hwhole : divNearest (m * bottom) (1 * bottom) = divNearest m 1 :=
      divNearest_mul_right hs.bottom_pos
    rw [htop, ← Nat.one_mul bottom, ← Nat.mul_assoc, Nat.mul_one, hwhole]
    simp [divNearest, Nat.mod_one]
  rw [hround, hmantissa, hplace, if_neg hc.mantissa_lt.ne]

/-! ## Values -/

/-- The exact value of a finite double. -/
def value? (x : Float) : Option ℚ :=
  match parts x with
  | .finite negative m q => some ((if negative then -1 else 1) * m * 2 ^ q)
  | _ => none

/-- A number without its fraction. -/
def towardZero (v : ℚ) : Int :=
  if 0 ≤ v then ⌊v⌋ else ⌈v⌉

theorem truncate?_of_parts (h : parts x = .finite negative m q) :
    truncate? x = some (towardZero ((if negative then -1 else 1) * m * 2 ^ q)) := by
  have hfloor : (((scaled m q).1 / (scaled m q).2 : Nat) : Int) = ⌊(m : ℚ) * 2 ^ q⌋ := by
    rw [← scaled_div, Rat.floor_natCast_div_natCast]
    rfl
  have hnonneg : (0 : ℚ) ≤ m * 2 ^ q := by positivity
  rw [truncate?, h]
  dsimp only
  rw [hfloor, towardZero]
  cases negative with
  | false => simp [hnonneg]
  | true =>
    have hneg : (if (true : Bool) then (-1 : ℚ) else 1) * m * 2 ^ q = -(m * 2 ^ q) := by
      rw [if_pos rfl]
      ring
    rw [hneg, if_pos rfl]
    split
    · rw [show (m : ℚ) * 2 ^ q = 0 by linarith]
      simp
    · rw [Int.ceil_neg]

theorem ofInt?_natCast (n : Nat) : ofInt? n = ofNat? n := by
  have hsign : decide ((n : Int) < 0) = false := by simp
  rw [ofInt?, ofNat?, Int.natAbs_natCast, hsign]

end SkillKit.Decimal

namespace SkillKit.Number

theorem divInt_of_le {a b : Nat} (hle : a ≤ b) (hb : 0 < b) :
    ∃ x, divInt a b = .ok x ∧ x = Decimal.ofRatio false a b := by
  have hsign : (decide ((a : Int) < 0) != decide ((b : Int) < 0) && (a : Int) != 0) = false := by
    have ha : ¬ (a : Int) < 0 := by omega
    simp [ha]
  refine ⟨_, ?_, rfl⟩
  unfold divInt
  simp only [hsign, Int.natAbs_natCast]
  rw [if_pos (Decimal.isFinite_ofRatio hle hb)]

end SkillKit.Number
