import SkillKit.Json.Writer
import SkillKit.Proofs.Text.Digits
import SkillKit.Proofs.Text.Search
import SkillKit.Proofs.Run

/-!
# Texts and numbers through JSON

A text is written in ASCII and read back as it was (`readString_written`): each escape stands for one
character (`Written.readChars`), those above the first plane being written as two.  An integer with
no more digits than are taken is read back too (`readNumber_written`).
-/

namespace SkillKit.Json

open Text List

variable {n : Nat} {rest written : List Char} {c : Char}

/-! ## Hexadecimal digits -/

theorem hexValue?_digitChar {d : Nat} (h : d < 16) : hexValue? d.digitChar = some d := by
  interval_cases d <;> decide

theorem hexPadded_four (h : n < 0x10000) :
    hexPadded 4 n = [(n / 4096).digitChar, (n / 256 % 16).digitChar, (n / 16 % 16).digitChar,
      (n % 16).digitChar] := by
  have hpad : hexPadded 4 n = padded 16 4 n := rfl
  rw [hpad, padded_succ (by decide) (by decide), padded_succ (by decide) (by decide),
    padded_succ (by decide) (by decide), padded_one (by omega)]
  simp only [Nat.div_div_eq_div_mul, cons_append, nil_append]

theorem hex4?_hexPadded (h : n < 0x10000) (hrest : rest ≠ []) :
    hex4? (hexPadded 4 n ++ rest) = some (n, rest) := by
  obtain ⟨e, rest, rfl⟩ := exists_cons_of_ne_nil hrest
  have h3 : n / 4096 < 16 := by omega
  have h2 : n / 256 % 16 < 16 := by omega
  have h1 : n / 16 % 16 < 16 := by omega
  have h0 : n % 16 < 16 := by omega
  rw [hexPadded_four h]
  simp only [cons_append, nil_append, hex4?, hexValue?_digitChar, h3, h2, h1, h0,
    Option.bind_eq_bind, Option.bind_some, Option.some.injEq, Prod.mk.injEq, and_true]
  omega

/-! ## Characters of a text -/

theorem toNat_not_surrogate (c : Char) : c.toNat < 0xd800 ∨ 0xdfff < c.toNat := by
  have h := c.valid
  change c.val.toNat < 0xd800 ∨ 0xdfff < c.val.toNat
  omega

theorem toNat_lt (c : Char) : c.toNat < 0x110000 := by
  have h := c.valid
  change c.val.toNat < 0x110000
  omega

theorem numericEscape_unit (h : c.toNat < 0x10000) (hrest : rest ≠ []) :
    numericEscape (hexPadded 4 c.toNat ++ rest) = .ok (c, rest) := by
  -- A character is no surrogate, so its unit is no half of a pair.
  have hlone := toNat_not_surrogate c
  have hhigh : (0xd800 ≤ c.toNat && c.toNat ≤ 0xdbff && 6 < rest.length) = false := by
    simp only [Bool.and_eq_false_iff, decide_eq_false_iff_not]
    omega
  have hnone : (0xd800 ≤ c.toNat && c.toNat ≤ 0xdfff) = false := by
    simp only [Bool.and_eq_false_iff, decide_eq_false_iff_not]
    omega
  unfold numericEscape
  simp only [hex4?_hexPadded h hrest, hhigh, hnone, Bool.false_eq_true, if_false, Char.ofNat_toNat]

theorem numericEscape_pair (high low : Nat) (hhigh : 0xd800 ≤ high ∧ high ≤ 0xdbff)
    (hlow : 0xdc00 ≤ low ∧ low ≤ 0xdfff) (hrest : rest ≠ []) :
    numericEscape (hexPadded 4 high ++ (unitEscape low ++ rest)) =
      .ok (Char.ofNat (0x10000 + (high - 0xd800) * 0x400 + (low - 0xdc00)), rest) := by
  have hlength := length_pos_iff.mpr hrest
  have hfirst : (0xd800 ≤ high && high ≤ 0xdbff && 6 < (unitEscape low ++ rest).length) = true := by
    have hdigits : (hexPadded 4 low).length = 4 :=
      length_padded (by decide) (by decide) (Nat.lt_of_le_of_lt hlow.2 (by decide))
    simp only [unitEscape, length_cons, length_append,
      Bool.and_eq_true, decide_eq_true_eq]
    exact ⟨hhigh, by omega⟩
  have hsecond : (0xdc00 ≤ low && low ≤ 0xdfff) = true := by
    simp only [Bool.and_eq_true, decide_eq_true_eq]
    exact hlow
  have hne : unitEscape low ++ rest ≠ [] := by simp [unitEscape]
  unfold numericEscape
  simp only [hex4?_hexPadded (Nat.lt_of_le_of_lt hhigh.2 (by decide)) hne, hfirst]
  simp only [unitEscape, cons_append,
    hex4?_hexPadded (Nat.lt_of_le_of_lt hlow.2 (by decide)) hrest, hsecond, if_true]

/-- How a character is written: by a short escape, as itself, or by one or two units. -/
inductive Written : Char → List Char → Prop
  | short {c e : Char} (h : shortEscape? e = some c) : Written c ['\\', e]
  | plain {c : Char} (hquote : c ≠ '"') (hback : c ≠ '\\') (h : 0x20 ≤ c.toNat ∧ c.toNat < 0x7f) :
      Written c [c]
  | unit {c : Char} (h : c.toNat < 0x10000) : Written c (unitEscape c.toNat)
  | pair {c : Char} {high low : Nat} (hhigh : 0xd800 ≤ high ∧ high ≤ 0xdbff)
      (hlow : 0xdc00 ≤ low ∧ low ≤ 0xdfff)
      (h : 0x10000 + (high - 0xd800) * 0x400 + (low - 0xdc00) = c.toNat) :
      Written c (unitEscape high ++ unitEscape low)

theorem written_escapeChar (c : Char) : Written c (escapeChar c) := by
  unfold escapeChar
  split_ifs with hquote hback hn hr ht hb hf hprint hunit
  · obtain rfl := beq_iff_eq.mp hquote
    exact .short rfl
  · obtain rfl := beq_iff_eq.mp hback
    exact .short rfl
  · obtain rfl := beq_iff_eq.mp hn
    exact .short rfl
  · obtain rfl := beq_iff_eq.mp hr
    exact .short rfl
  · obtain rfl := beq_iff_eq.mp ht
    exact .short rfl
  · obtain rfl := beq_iff_eq.mp hb
    exact .short rfl
  · obtain rfl := beq_iff_eq.mp hf
    exact .short rfl
  · exact .plain (by simpa using hquote) (by simpa using hback) (by simpa using hprint)
  · exact .unit hunit
  · -- What is left has more than sixteen bits, and both of its units are surrogates.
    have hmax := toNat_lt c
    exact .pair (by omega) (by omega) (by omega)

theorem Written.readChars (h : Written c written) (start fuel : Nat) {cs : List Char}
    (hcs : cs ≠ []) :
    readChars start (fuel + 1) (written ++ cs) = (do
      let (s, rest) ← readChars start fuel cs
      .ok (c :: s, rest)) := by
  cases h with
  | @short e hshort =>
    have hu : e ≠ 'u' := by
      rintro rfl
      cases hshort
    rw [List.cons_append, List.singleton_append, Json.readChars]
    · simp only [hshort]
    · exact hu
  | plain hquote hback h =>
    rw [List.singleton_append, Json.readChars]
    · rw [if_neg (Nat.not_lt.mpr h.1)]
    · exact fun h => hquote h
    · exact fun h => hback h
  | unit h =>
    rw [unitEscape, List.cons_append, List.cons_append, Json.readChars, numericEscape_unit h hcs]
    rfl
  | @pair high low hhigh hlow h =>
    have hpair := numericEscape_pair high low hhigh hlow hcs
    rw [h, Char.ofNat_toNat] at hpair
    rw [List.append_assoc, unitEscape, List.cons_append, List.cons_append, Json.readChars, hpair]
    rfl

theorem Written.ne_nil (h : Written c written) : written ≠ [] := by
  cases h with
  | short _ => exact List.cons_ne_nil _ _
  | plain _ _ _ => exact List.cons_ne_nil _ _
  | unit _ => exact List.cons_ne_nil _ _
  | pair _ _ _ => exact List.append_ne_nil_of_left_ne_nil (List.cons_ne_nil _ _) _

theorem length_le_flatMap_escapeChar (cs : List Char) :
    cs.length ≤ (cs.flatMap escapeChar).length := by
  induction cs with
  | nil => rfl
  | cons c cs ih =>
    have := List.length_pos_iff.mpr (written_escapeChar c).ne_nil
    rw [List.flatMap_cons, List.length_append, List.length_cons]
    omega

theorem readChars_flatMap {start fuel : Nat} {cs : List Char} (rest : List Char)
    (h : cs.length < fuel) :
    readChars start fuel (cs.flatMap escapeChar ++ '"' :: rest) = .ok (cs, rest) := by
  induction cs generalizing fuel with
  | nil =>
    obtain ⟨fuel, rfl⟩ := Nat.exists_eq_succ_of_ne_zero (Nat.ne_zero_of_lt h)
    rfl
  | cons c cs ih =>
    obtain ⟨fuel, rfl⟩ := Nat.exists_eq_succ_of_ne_zero (Nat.ne_zero_of_lt h)
    have hfuel : cs.length < fuel := by simpa using h
    rw [flatMap_cons, append_assoc, (written_escapeChar c).readChars _ _ (by simp), ih hfuel]
    rfl

theorem readString_written (s : String) (rest : List Char) :
    readString (s.toList.flatMap escapeChar ++ '"' :: rest) = .ok (s, rest) := by
  have hfuel : s.toList.length <
      (s.toList.flatMap escapeChar ++ '"' :: rest).length + 1 := by
    have := length_le_flatMap_escapeChar s.toList
    simp only [length_append]
    omega
  rw [readString, readChars_flatMap rest hfuel]
  simp only [bind, Except.bind, String.ofList_toList]

/-! ## Characters that are written -/

/-- The characters of written documents: the line feed and what can be seen of ASCII. -/
def IsPlain (c : Char) : Prop := c = '\n' ∨ 0x20 ≤ c.toNat ∧ c.toNat < 0x7f

/-- A character that can be seen. -/
def IsVisible (c : Char) : Prop := 0x20 ≤ c.toNat ∧ c.toNat < 0x7f

instance (c : Char) : Decidable (IsVisible c) :=
  inferInstanceAs (Decidable (_ ∧ _))

theorem not_mem_unitEscape (hback : c ≠ '\\') (hu : c ≠ 'u') (hdigit : ∀ d < 16, c ≠ d.digitChar)
    (h : n < 0x10000) : c ∉ unitEscape n := by
  rw [unitEscape, hexPadded_four h]
  simp only [mem_cons, not_mem_nil, or_false, not_or]
  exact ⟨hback, hu, hdigit _ (by omega), hdigit _ (by omega), hdigit _ (by omega),
    hdigit _ (by omega)⟩

theorem isVisible_unitEscape (h : n < 0x10000) (hc : c ∈ unitEscape n) : IsVisible c := by
  by_contra hnone
  refine not_mem_unitEscape ?_ ?_ ?_ h hc
  · rintro rfl
    exact hnone (by decide)
  · rintro rfl
    exact hnone (by decide)
  · rintro d hd rfl
    interval_cases d <;> exact hnone (by decide)

theorem Written.isVisible {x : Char} (h : Written c written) (hx : x ∈ written) : IsVisible x := by
  cases h with
  | @short e h =>
    have he : IsVisible e := by
      unfold shortEscape? at h
      split at h <;> cases h
      all_goals decide
    simp only [mem_cons, not_mem_nil, or_false] at hx
    rcases hx with rfl | rfl
    · decide
    · exact he
  | plain _ _ h =>
    rw [mem_singleton.mp hx]
    exact h
  | unit h => exact isVisible_unitEscape h hx
  | pair hhigh hlow _ =>
    rcases mem_append.mp hx with hx | hx
    · exact isVisible_unitEscape (Nat.lt_of_le_of_lt hhigh.2 (by decide)) hx
    · exact isVisible_unitEscape (Nat.lt_of_le_of_lt hlow.2 (by decide)) hx

theorem isVisible_writeString {s : String} (h : c ∈ (writeString s).toList) : IsVisible c := by
  rw [writeString, String.toList_ofList, mem_cons, mem_append, mem_singleton, mem_flatMap] at h
  rcases h with rfl | ⟨x, -, hc⟩ | rfl
  · decide
  · exact (written_escapeChar x).isVisible hc
  · decide

/-! ## Integers -/

/-- A text that does not go on with a number. -/
def Stops (rest : List Char) : Prop :=
  ∀ c ∈ rest.head?, c.isDigit = false ∧ c ≠ '.' ∧ c ≠ 'e' ∧ c ≠ 'E'

theorem digitsValue_eq (ds : List Char) : digitsValue ds = Nat.ofDigitChars 10 ds 0 :=
  foldl_digits ds

theorem Stops.not_digit (h : Stops rest) : ∀ c ∈ rest.head?, c.isDigit = false :=
  fun c hc => (h c hc).1

theorem readFraction_stops (h : Stops rest) : readFraction rest = ([], rest) := by
  unfold readFraction
  split
  · exact absurd rfl (h '.' rfl).2.1
  · rfl

theorem readExponent_stops (h : Stops rest) : readExponent rest = (none, rest) := by
  cases rest with
  | nil => rfl
  | cons c rest =>
    obtain ⟨-, -, he, hE⟩ := h c rfl
    simp [readExponent, he, hE]

theorem readNumber_written (start : Nat) (negative : Bool) (hn : n < 10 ^ maxDigits)
    (hrest : Stops rest) :
    readNumber start negative (Nat.toDigits 10 n ++ rest) =
      .ok (.int (if negative then -n else n), rest) := by
  have hdigits : ∀ c ∈ Nat.toDigits 10 n, c.isDigit = true :=
    fun c hc => Nat.isDigit_of_mem_toDigits (by decide) (by decide) hc
  have hlength : ¬ maxDigits < (Nat.toDigits 10 n).length :=
    Nat.not_lt.mpr ((Nat.length_toDigits_le_iff (by decide) (by decide)).mpr hn)
  -- Behind a zero no further digit is read, but only zero itself starts with one.
  have hwhole : (if (Nat.toDigits 10 n).head? == some '0' then (Nat.toDigits 10 n).take 1
      else Nat.toDigits 10 n) = Nat.toDigits 10 n := by
    rcases Nat.eq_zero_or_pos n with rfl | hpos
    · rfl
    · rw [if_neg]
      simpa using head?_toDigits_ne hpos.ne'
  have hne : (Nat.toDigits 10 n).isEmpty = false := by simp
  unfold readNumber
  simp only [takeWhile_pad hdigits hrest.not_digit, hwhole, hne, drop_left,
    readFraction_stops hrest, readExponent_stops hrest, Bool.false_eq_true, if_false, isEmpty_nil, Option.isNone_none,
    Bool.and_self, if_true, hlength, digitsValue_eq, Nat.ofDigitChars_ten_toDigits]

end SkillKit.Json
