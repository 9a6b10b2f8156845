import SkillKit.Time.Iso
import SkillKit.Proofs.Text.Digits
import Mathlib.Data.List.TakeWhile

/-!
# Times through ISO 8601

A time without offset that the calendar has is read back from its text (`Stamp.ofIso?_iso`).  Each
number is written with a fixed width, so it is read back by its width alone (`readDigits_padded`).
-/

namespace SkillKit.Time

open Text
open List hiding contains dropPrefix?

variable {d : Date} {c : Clock}

/-! ## Numbers of a fixed width -/

theorem toList_zeroPadded (width n : Nat) : (zeroPadded width n).toList = padded 10 width n := by
  have hlength : (toString n).length = (Nat.toDigits 10 n).length := by
    rw [Nat.toString_eq_ofList_toDigits, String.length_ofList]
  rw [zeroPadded, padLeft, hlength, padded]
  simp

theorem readDigits_padded {width n : Nat} (hwidth : 0 < width) (hn : n < 10 ^ width)
    (rest : List Char) : readDigits width (padded 10 width n ++ rest) = some (n, rest) := by
  have hlength := length_padded (b := 10) (by decide) hwidth hn
  have htake : (padded 10 width n ++ rest).take width = padded 10 width n := by
    rw [take_append_of_le_length hlength.ge, take_of_length_le hlength.le]
  have hdrop : (padded 10 width n ++ rest).drop width = rest := by
    rw [drop_append_of_le_length hlength.ge, drop_of_length_le hlength.le,
      nil_append]
  have hall : (padded 10 width n).all Char.isDigit = true :=
    all_eq_true.mpr fun c hc => isDigit_of_mem_padded hc
  have hvalue : (padded 10 width n).foldl (fun v c => v * 10 + (c.toNat - 48)) 0 = n :=
    (foldl_digits _).trans (ofDigitChars_padded width n)
  unfold readDigits
  simp only [htake, hdrop, hlength, hall, hvalue, BEq.rfl, Bool.and_self, if_true]

theorem padded_append_cons {width n : Nat} (hwidth : 0 < width) (hn : n < 10 ^ width)
    (rest : List Char) : ∃ c cs, padded 10 width n ++ rest = c :: cs ∧ c.isDigit = true := by
  have hne : padded 10 width n ≠ [] := by
    rw [← length_pos_iff, length_padded (by decide) hwidth hn]
    exact hwidth
  obtain ⟨c, cs, hcs⟩ := exists_cons_of_ne_nil hne
  have hc : c ∈ padded 10 width n := by
    rw [hcs]
    exact mem_cons_self
  exact ⟨c, cs ++ rest, by rw [hcs, cons_append], isDigit_of_mem_padded hc⟩

/-! ## Dates -/

def dateChars (d : Date) : List Char :=
  padded 10 4 d.year ++ '-' :: (padded 10 2 d.month ++ '-' :: padded 10 2 d.day)

theorem toList_dateIso (d : Date) : d.iso.toList = dateChars d := by
  simp [Date.iso, dateChars, toList_zeroPadded]

theorem numbers_of_isValid (h : d.isValid = true) :
    d.year < 10 ^ 4 ∧ d.month < 10 ^ 2 ∧ d.day < 10 ^ 2 := by
  simp only [Date.isValid, Bool.and_eq_true, decide_eq_true_eq] at h
  have hday : daysInMonth d.year d.month ≤ 31 := by
    unfold daysInMonth
    split_ifs <;> omega
  omega

theorem length_dateChars (h : d.isValid = true) : (dateChars d).length = 10 := by
  obtain ⟨hy, hm, hd⟩ := numbers_of_isValid h
  simp only [dateChars, length_append, length_cons, length_padded (by decide) (by decide) hy,
    length_padded (by decide) (by decide) hm, length_padded (by decide) (by decide) hd]

theorem readDate?_dateChars (h : d.isValid = true) : readDate? (dateChars d) = some d := by
  obtain ⟨hy, hm, hd⟩ := numbers_of_isValid h
  have hyear := readDigits_padded (by decide) hy
  have hmonth := readDigits_padded (by decide) hm ('-' :: padded 10 2 d.day)
  have hday := readDigits_padded (by decide) hd []
  rw [append_nil] at hday
  -- Behind the first hyphen stands a digit, so what follows is a month and no week.
  obtain ⟨c, cs, hcs, hc⟩ := padded_append_cons (by decide) hm ('-' :: padded 10 2 d.day)
  rw [hcs] at hmonth
  unfold readDate? dateChars
  rw [hyear, hcs]
  simp only [Option.bind_eq_bind, Option.bind_some]
  split
  · rename_i hweek
    rw [(cons.inj hweek).1] at hc
    cases hc
  · simp [hmonth, dropPrefix?, hday]

/-! ## Times of day -/

def fractionChars (micro : Nat) : List Char :=
  if micro == 0 then [] else '.' :: padded 10 6 micro

def clockChars (c : Clock) : List Char :=
  padded 10 2 c.hour ++ ':' :: (padded 10 2 c.minute ++ ':' :: (padded 10 2 c.second ++
    fractionChars c.micro))

theorem toList_clockIso (c : Clock) : c.iso.toList = clockChars c := by
  have hfraction : (if c.micro == 0 then "" else "." ++ zeroPadded 6 c.micro).toList =
      fractionChars c.micro := by
    unfold fractionChars
    split <;> simp [toList_zeroPadded]
  simp only [Clock.iso, clockChars, String.toList_append, hfraction, toList_zeroPadded]
  simp

theorem numbers_of_clock_isValid (h : c.isValid = true) :
    c.hour < 10 ^ 2 ∧ c.minute < 10 ^ 2 ∧ c.second < 10 ^ 2 ∧ c.micro < 10 ^ 6 := by
  simp only [Clock.isValid, Bool.and_eq_true, decide_eq_true_eq] at h
  omega

theorem not_mark_of_mem_clockChars {x : Char} (h : x ∈ clockChars c) :
    x ≠ '+' ∧ x ≠ '-' ∧ x ≠ 'Z' := by
  have hx : x.isDigit = true ∨ x = ':' ∨ x = '.' := by
    simp only [clockChars, mem_append, mem_cons] at h
    rcases h with h | rfl | h | rfl | h | h
    · exact .inl (isDigit_of_mem_padded h)
    · exact .inr (.inl rfl)
    · exact .inl (isDigit_of_mem_padded h)
    · exact .inr (.inl rfl)
    · exact .inl (isDigit_of_mem_padded h)
    · unfold fractionChars at h
      split at h
      · cases h
      · rcases mem_cons.mp h with rfl | h
        · exact .inr (.inr rfl)
        · exact .inl (isDigit_of_mem_padded h)
  rcases hx with hx | rfl | rfl
  · refine ⟨?_, ?_, ?_⟩ <;> rintro rfl <;> cases hx
  · decide
  · decide

theorem clockTail?_colon {rest : List Char} (h : rest ≠ []) :
    clockTail? true (':' :: rest) = some (.more rest) := by
  obtain ⟨c, cs, rfl⟩ := exists_cons_of_ne_nil h
  rfl

theorem clockTail?_point {rest : List Char} (h : rest ≠ []) :
    clockTail? true ('.' :: rest) = some (.fraction rest) := by
  obtain ⟨c, cs, rfl⟩ := exists_cons_of_ne_nil h
  rfl

theorem readFraction?_padded (hour minute second : Nat) {micro : Nat} (h : micro < 10 ^ 6) :
    readFraction? hour minute second (padded 10 6 micro) =
      some ⟨⟨hour, minute, second, micro⟩, true⟩ := by
  have hdigits := readDigits_padded (by decide) h []
  rw [append_nil] at hdigits
  unfold readFraction?
  simp [length_padded (by decide) (by decide) h, hdigits]

theorem clockTail?_fractionChars {micro : Nat} (h : micro < 10 ^ 6) :
    (micro = 0 ∧ clockTail? true (fractionChars micro) = some (.done true)) ∨
      clockTail? true (fractionChars micro) = some (.fraction (padded 10 6 micro)) := by
  unfold fractionChars
  split
  · rename_i hzero
    exact .inl ⟨by simpa using hzero, rfl⟩
  · refine .inr (clockTail?_point ?_)
    rw [← length_pos_iff, length_padded (by decide) (by decide) h]
    decide

theorem readClock?_clockChars (h : c.isValid = true) :
    readClock? (clockChars c) = some ⟨c, true⟩ := by
  obtain ⟨hh, hm, hs, hf⟩ := numbers_of_clock_isValid h
  have hne : ∀ {n : Nat}, n < 10 ^ 2 → ∀ rest, padded 10 2 n ++ rest ≠ [] := by
    intro n hn rest
    obtain ⟨a, as, has, -⟩ := padded_append_cons (by decide) hn rest
    simp [has]
  unfold readClock? clockChars
  simp only [readDigits_padded (by decide) hh, readDigits_padded (by decide) hm,
    readDigits_padded (by decide) hs, clockTail?_colon (hne hm _), clockTail?_colon (hne hs _),
    Option.bind_eq_bind, Option.bind_some, head?_cons, BEq.rfl]
  rcases clockTail?_fractionChars hf with ⟨hzero, htail⟩ | htail
  · simp only [htail, Option.bind_some, ← hzero]
  · simp only [htail, Option.bind_some, readFraction?_padded _ _ _ hf]

theorem readTime?_clockChars (h : c.isValid = true) :
    readTime? (clockChars c) = some (c, none) := by
  have hmark : ∀ x ∈ clockChars c, (!(x == '+' || x == '-' || x == 'Z')) = true := by
    intro x hx
    obtain ⟨hplus, hminus, hz⟩ := not_mark_of_mem_clockChars hx
    simp [hplus, hminus, hz]
  unfold readTime?
  simp only [takeWhile_eq_self_iff.mpr hmark, dropWhile_eq_nil_iff.mpr hmark,
    readClock?_clockChars h, Option.bind_eq_bind, Option.bind_some, if_true]

/-! ## Stamps -/

theorem dateLength?_dateChars (h : d.isValid = true) (c : Char) (rest : List Char) :
    dateLength? (dateChars d ++ c :: rest) = some 10 := by
  obtain ⟨hy, hm, hd⟩ := numbers_of_isValid h
  have hyear := length_padded (by decide) (by decide) hy
  obtain ⟨x, xs, hxs, hx⟩ :=
    padded_append_cons (by decide) hm ('-' :: (padded 10 2 d.day ++ c :: rest))
  have hchars : dateChars d ++ c :: rest = padded 10 4 d.year ++ '-' :: x :: xs := by
    rw [dateChars, append_assoc, cons_append, append_assoc, cons_append, hxs]
  have hlength : (dateChars d ++ c :: rest).length = rest.length + 11 := by
    rw [length_append, length_dateChars h, length_cons]
    omega
  have hfifth : (padded 10 4 d.year ++ '-' :: x :: xs)[4]? = some '-' := by
    rw [getElem?_append_right hyear.le, hyear]
    rfl
  have hsixth : (padded 10 4 d.year ++ '-' :: x :: xs)[5]? = some x := by
    rw [getElem?_append_right (by omega), hyear]
    rfl
  have hweek : (some x == some 'W') = false := by
    rw [beq_eq_false_iff_ne]
    rintro heq
    rw [Option.some.inj heq] at hx
    cases hx
  unfold dateLength?
  rw [hlength, hchars, hfifth, hsixth, hweek]
  rfl

theorem Stamp.ofIso?_iso {t : Stamp} (hdate : t.date.isValid = true) (htime : t.time.isValid = true)
    (hoffset : t.offset = none) : Stamp.ofIso? t.iso = some t := by
  have hchars : t.iso.toList = dateChars t.date ++ 'T' :: clockChars t.time := by
    simp [Stamp.iso, Stamp.isoWith, hoffset, toList_dateIso, toList_clockIso]
  have hlength := length_dateChars hdate
  have hlong : ¬ (dateChars t.date ++ 'T' :: clockChars t.time).length < 7 := by
    rw [length_append]
    omega
  have htake : (dateChars t.date ++ 'T' :: clockChars t.time).take 10 = dateChars t.date := by
    rw [← hlength, take_left]
  have hdrop : (dateChars t.date ++ 'T' :: clockChars t.time).drop 10 = 'T' :: clockChars t.time := by
    rw [← hlength, drop_left]
  unfold Stamp.ofIso?
  simp only [hchars, hlong, dateLength?_dateChars hdate, htake, hdrop,
    readDate?_dateChars hdate, readTime?_clockChars htime, hdate, htime, Option.bind_eq_bind,
    Option.bind_some]
  cases t
  cases hoffset
  rfl

end SkillKit.Time
