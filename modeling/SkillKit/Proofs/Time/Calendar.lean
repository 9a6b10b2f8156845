import SkillKit.Time.Calendar
import Mathlib.Algebra.Order.Group.Nat
import Mathlib.Algebra.Order.Ring.Nat
import Mathlib.Data.Nat.Basic
import Mathlib.Tactic.Common

/-!
# The order of the calendar

Days are counted in the order of the calendar (`Date.ordinal_lt`), so a time that comes later in the
calendar is later on the wall clock (`Stamp.wall_mono`).
-/

namespace SkillKit.Time

theorem daysBeforeMonth_succ (year : Nat) {month : Nat} (h : 1 ≤ month) :
    daysBeforeMonth year (month + 1) = daysBeforeMonth year month + daysInMonth year month := by
  obtain ⟨n, rfl⟩ := Nat.exists_eq_add_of_le' h
  rw [daysBeforeMonth, daysBeforeMonth, Nat.add_sub_cancel, List.range_succ,
    List.foldl_append]
  rfl

theorem daysBeforeMonth_mono (year : Nat) {month later : Nat} (h : 1 ≤ month)
    (hlater : month ≤ later) : daysBeforeMonth year month ≤ daysBeforeMonth year later := by
  induction later, hlater using Nat.le_induction with
  | base => exact le_refl _
  | succ n hn ih =>
    rw [daysBeforeMonth_succ year (h.trans hn)]
    omega

theorem daysBeforeYear_succ {year : Nat} (h : 1 ≤ year) :
    daysBeforeYear (year + 1) = daysBeforeYear year + daysBeforeMonth year 13 := by
  obtain ⟨n, rfl⟩ := Nat.exists_eq_add_of_le' h
  have hmonths : daysBeforeMonth (n + 1) 13 = if isLeap (n + 1) then 366 else 365 := by
    unfold daysBeforeMonth daysInMonth
    cases isLeap (n + 1) <;> rfl
  have hleap : isLeap (n + 1) = true ↔ 4 ∣ n + 1 ∧ (¬ 100 ∣ n + 1 ∨ 400 ∣ n + 1) := by
    simp [isLeap, Nat.dvd_iff_mod_eq_zero]
  simp only [daysBeforeYear, Nat.add_sub_cancel, Nat.succ_div]
  -- Each quotient grows by one in the years that it counts, and these are the leap years.
  by_cases h4 : 4 ∣ n + 1 <;> by_cases h100 : 100 ∣ n + 1 <;> by_cases h400 : 400 ∣ n + 1 <;>
    simp_all <;> omega

theorem daysBeforeYear_mono {year later : Nat} (h : 1 ≤ year) (hlater : year ≤ later) :
    daysBeforeYear year ≤ daysBeforeYear later := by
  induction later, hlater using Nat.le_induction with
  | base => exact le_refl _
  | succ n hn ih =>
    rw [daysBeforeYear_succ (h.trans hn)]
    omega

theorem Date.ordinal_le {d : Date} (h : d.isValid = true) :
    1 ≤ d.year ∧ 1 ≤ d.month ∧ d.month ≤ 12 ∧ 1 ≤ d.day ∧
      d.ordinal ≤ daysBeforeYear d.year + daysBeforeMonth d.year (d.month + 1) := by
  simp only [Date.isValid, Bool.and_eq_true, decide_eq_true_eq] at h
  obtain ⟨⟨⟨⟨⟨hyear, -⟩, hmonth⟩, hmonth'⟩, hday⟩, hday'⟩ := h
  rw [daysBeforeMonth_succ d.year hmonth, Date.ordinal]
  omega

theorem Date.ordinal_lt {d e : Date} (hd : d.isValid = true) (he : e.isValid = true)
    (h : List.Lex (· < ·) [d.year, d.month, d.day] [e.year, e.month, e.day]) :
    d.ordinal < e.ordinal := by
  obtain ⟨hyear, hmonth, hmonth', -, hle⟩ := Date.ordinal_le hd
  obtain ⟨-, hmonthe, -, hdaye, -⟩ := Date.ordinal_le he
  have hstart : e.ordinal = daysBeforeYear e.year + daysBeforeMonth e.year e.month + e.day := rfl
  simp only [List.cons_lex_cons_iff, List.not_lex_nil, and_false, or_false] at h
  rcases h with hlt | ⟨heq, hlt | ⟨heq', hlt⟩⟩
  · -- The year of the first date is over before the other one begins.
    have hmonths := daysBeforeMonth_mono d.year (by omega) (by omega : d.month + 1 ≤ 13)
    have hyears := daysBeforeYear_mono (by omega) (by omega : d.year + 1 ≤ e.year)
    rw [daysBeforeYear_succ hyear] at hyears
    omega
  · have hmonths := daysBeforeMonth_mono d.year (by omega) (by omega : d.month + 1 ≤ e.month)
    rw [heq] at hle hmonths
    omega
  · rw [Date.ordinal, heq, heq']
    omega

/-- A time as its numbers, the largest unit first: the calendar orders times as these lists. -/
def Stamp.numbers (t : Stamp) : List Nat :=
  [t.date.year, t.date.month, t.date.day, t.time.hour, t.time.minute, t.time.second, t.time.micro]

theorem Stamp.wall_mono {s t : Stamp} (hs : s.date.isValid = true) (hs' : s.time.isValid = true)
    (ht : t.date.isValid = true) (ht' : t.time.isValid = true)
    (h : List.Lex (· < ·) s.numbers t.numbers) : s.wall ≤ t.wall := by
  simp only [Clock.isValid, Bool.and_eq_true, decide_eq_true_eq] at hs' ht'
  rw [Stamp.wall, Stamp.wall, dayMicros, Clock.micros, Clock.micros]
  by_cases hday : List.Lex (· < ·) [s.date.year, s.date.month, s.date.day]
      [t.date.year, t.date.month, t.date.day]
  · have := Date.ordinal_lt hs ht hday
    omega
  · simp only [Stamp.numbers, List.cons_lex_cons_iff] at h hday
    have hdate : s.date = t.date := by
      cases hsd : s.date
      cases htd : t.date
      simp only [hsd, htd, Date.mk.injEq] at *
      omega
    rw [hdate] at h ⊢
    omega

end SkillKit.Time
