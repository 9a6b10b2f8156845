import Mathlib.Data.List.Induction
import Mathlib.Tactic.IntervalCases
import Mathlib.Tactic.Common

/-!
# Digits of numbers

Digits padded with zeros to a width: `padded b width n`.  A number that needs no more digits than
`width` has exactly that many, and is the number that they write.
-/

namespace SkillKit.Text

open List

variable {b n width : Nat}

def padded (b width n : Nat) : List Char :=
  replicate (width - (Nat.toDigits b n).length) '0' ++ Nat.toDigits b n

theorem padded_one (h : n < b) : padded b 1 n = [n.digitChar] := by
  rw [padded, Nat.toDigits_of_lt_base h]
  rfl

theorem padded_succ (hb : 1 < b) (hwidth : 0 < width) :
    padded b (width + 1) n = padded b width (n / b) ++ [(n % b).digitChar] := by
  unfold padded
  rcases Nat.lt_or_ge n b with hn | hn
  · obtain ⟨k, rfl⟩ := Nat.exists_eq_succ_of_ne_zero hwidth.ne'
    have hzeros : replicate (k + 1) '0' = replicate k '0' ++ ['0'] :=
      replicate_succ'
    rw [Nat.toDigits_of_lt_base hn, Nat.div_eq_of_lt hn, Nat.mod_eq_of_lt hn, Nat.toDigits_zero]
    simp [hzeros]
  · rw [Nat.toDigits_of_base_le hb hn, length_append, length_singleton,
      Nat.add_sub_add_right, append_assoc]

theorem length_padded (hb : 1 < b) (hwidth : 0 < width) (hn : n < b ^ width) :
    (padded b width n).length = width := by
  have := (Nat.length_toDigits_le_iff hb hwidth).mpr hn
  rw [padded, length_append, length_replicate]
  omega

theorem isDigit_of_mem_padded {c : Char} (h : c ∈ padded 10 width n) : c.isDigit = true := by
  rcases mem_append.mp h with h | h
  · rw [eq_of_mem_replicate h]
    rfl
  · exact Nat.isDigit_of_mem_toDigits (by decide) (by decide) h

theorem ofDigitChars_padded (width n : Nat) : Nat.ofDigitChars 10 (padded 10 width n) 0 = n := by
  rw [padded, Nat.ofDigitChars_append, Nat.ofDigitChars_replicate_zero, Nat.mul_zero,
    Nat.ofDigitChars_ten_toDigits]

theorem foldl_digits (ds : List Char) :
    ds.foldl (fun v c => v * 10 + (c.toNat - '0'.toNat)) 0 = Nat.ofDigitChars 10 ds 0 := by
  simp only [Nat.ofDigitChars_eq_foldl, Nat.mul_comm]

theorem ofDigitChars_lt {ds : List Char} (h : ∀ c ∈ ds, c.isDigit = true) :
    Nat.ofDigitChars 10 ds 0 < 10 ^ ds.length := by
  -- By induction from the end, as the last digit comes last.
  induction ds using reverseRecOn with
  | nil => decide
  | append_singleton ds c ih =>
    have hc : c.toNat - '0'.toNat ≤ 9 := by
      have hdigit := h c (mem_append_right _ mem_cons_self)
      simp only [Char.isDigit, Bool.and_eq_true, decide_eq_true_eq] at hdigit
      have hupper : c.toNat ≤ '9'.toNat := hdigit.2
      have hlast : '9'.toNat = '0'.toNat + 9 := by decide
      omega
    have hds := ih fun d hd => h d (mem_append_left _ hd)
    have hvalue : Nat.ofDigitChars 10 (ds ++ [c]) 0 =
        10 * Nat.ofDigitChars 10 ds 0 + (c.toNat - '0'.toNat) := by
      rw [Nat.ofDigitChars_append]
      rfl
    rw [length_append, length_singleton]
    omega

theorem head?_toDigits_ne (h : n ≠ 0) : (Nat.toDigits 10 n).head? ≠ some '0' := by
  induction n using Nat.strongRecOn with
  | _ n ih =>
    rcases Nat.lt_or_ge n 10 with hn | hn
    · have hpos : 1 ≤ n := Nat.one_le_iff_ne_zero.mpr h
      interval_cases n <;> decide
    · have hfront := ih (n / 10) (by omega) (by omega)
      obtain ⟨c, cs, hcs⟩ := exists_cons_of_ne_nil (Nat.toDigits_ne_nil (n := n / 10) (b := 10))
      rw [hcs] at hfront
      rwa [Nat.toDigits_of_base_le (by decide) hn, hcs]

theorem toDigits_bounds (h : n ≠ 0) :
    10 ^ ((Nat.toDigits 10 n).length - 1) ≤ n ∧ n < 10 ^ (Nat.toDigits 10 n).length := by
  have hpos : 0 < (Nat.toDigits 10 n).length := Nat.length_toDigits_pos
  refine ⟨?_, (Nat.length_toDigits_le_iff (by decide) hpos).mp (Nat.le_refl _)⟩
  rcases Nat.eq_zero_or_pos ((Nat.toDigits 10 n).length - 1) with hone | hmore
  · rw [hone]
    exact Nat.one_le_iff_ne_zero.mpr h
  · rw [← Nat.not_lt, ← Nat.length_toDigits_le_iff (by decide) hmore]
    omega

end SkillKit.Text
