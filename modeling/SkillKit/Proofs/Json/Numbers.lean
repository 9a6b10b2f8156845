import SkillKit.Proofs.Decimal.Shortest
import SkillKit.Proofs.Json.Strings

/-!
# Floating point numbers through JSON

Every double is read back from its text, bit for bit (`reads_float`).  A `Numeral` is a text with
a fraction or an exponent, read as the double nearest to its value (`Numeral.read`); what is written
for a double is one, with the value of the shortest digits (`exists_numeral`).
-/

namespace SkillKit.Json

open Text SkillKit.Decimal List

variable {rest : List Char} {v : Value}

/-! ## Texts of numbers with a fraction or an exponent -/

/-- The digits of a number with a fraction or an exponent. -/
structure Numeral where
  whole : List Char
  frac : List Char
  /-- Whether the exponent is negative, and its digits. -/
  exp : Option (Bool × List Char)
  whole_ne_nil : whole ≠ []
  whole_digits : ∀ c ∈ whole, c.isDigit = true
  /-- A zero in front stands alone. -/
  whole_zero : whole.head? = some '0' → whole = ['0']
  frac_digits : ∀ c ∈ frac, c.isDigit = true
  exp_digits : ∀ e ∈ exp, e.2 ≠ [] ∧ ∀ c ∈ e.2, c.isDigit = true
  fractional : frac ≠ [] ∨ exp ≠ none

namespace Numeral

def fracText (t : Numeral) : List Char :=
  if t.frac = [] then [] else '.' :: t.frac

def expText (t : Numeral) : List Char :=
  match t.exp with
  | none => []
  | some (negative, ds) => 'e' :: (if negative then '-' else '+') :: ds

def text (t : Numeral) : List Char :=
  t.whole ++ (t.fracText ++ t.expText)

def number (t : Numeral) : Nat :=
  digitsValue (t.whole ++ t.frac)

def scale (t : Numeral) : Option Int :=
  t.exp.map fun e => if e.1 then -(digitsValue e.2 : Int) else digitsValue e.2

def exponent (t : Numeral) : Int :=
  t.scale.getD 0 - t.frac.length

theorem readExponent_expText (t : Numeral) (hrest : Stops rest) :
    readExponent (t.expText ++ rest) = (t.scale, rest) := by
  unfold expText scale
  cases hexp : t.exp with
  | none => exact readExponent_stops hrest
  | some e =>
    obtain ⟨negative, ds⟩ := e
    obtain ⟨hne, hds⟩ := t.exp_digits (negative, ds) hexp
    have htake := takeWhile_pad hds hrest.not_digit
    have hdrop := dropWhile_pad hds hrest.not_digit
    have hempty : ds.isEmpty = false := by simpa using hne
    cases negative <;> simp [readExponent, htake, hdrop, hempty]

theorem head?_expText (t : Numeral) (hrest : Stops rest) :
    ∀ c ∈ (t.expText ++ rest).head?, c.isDigit = false ∧ c ≠ '.' := by
  unfold expText
  cases t.exp with
  | none => exact fun c hc => ⟨(hrest c hc).1, (hrest c hc).2.1⟩
  | some e =>
    rintro c hc
    obtain rfl : 'e' = c := Option.some.inj hc
    decide

theorem readFraction_fracText (t : Numeral) (hrest : Stops rest) :
    readFraction (t.fracText ++ (t.expText ++ rest)) = (t.frac, t.expText ++ rest) := by
  have hhead := t.head?_expText hrest
  unfold fracText
  split
  · rename_i hnil
    rw [hnil, nil_append, readFraction]
    -- Neither the exponent nor what follows starts with a point.
    intro tail htail
    exact absurd rfl (hhead '.' (by rw [htail]; rfl)).2
  · rename_i hne
    obtain ⟨c, cs, hcs⟩ := exists_cons_of_ne_nil hne
    have hc : c.isDigit = true := t.frac_digits c (hcs ▸ mem_cons_self)
    have htake := takeWhile_pad t.frac_digits fun c hc => (hhead c hc).1
    have hdrop := dropWhile_pad t.frac_digits fun c hc => (hhead c hc).1
    rw [cons_append, readFraction, htake, hdrop, if_pos]
    rw [hcs]
    simpa using hc

theorem head?_fracText (t : Numeral) (hrest : Stops rest) :
    ∀ c ∈ (t.fracText ++ (t.expText ++ rest)).head?, c.isDigit = false := by
  unfold fracText
  split
  · exact fun c hc => (t.head?_expText hrest c hc).1
  · intro c hc
    obtain rfl : '.' = c := Option.some.inj hc
    rfl

theorem read (t : Numeral) (start : Nat) (negative : Bool) (hrest : Stops rest) :
    readNumber start negative (t.text ++ rest) =
      .ok (.float (ofDigits negative t.number t.exponent), rest) := by
  have htext : t.text ++ rest = t.whole ++ (t.fracText ++ (t.expText ++ rest)) := by
    simp only [text, append_assoc]
  have htake := takeWhile_pad t.whole_digits (t.head?_fracText hrest)
  have hzero : (if t.whole.head? == some '0' then t.whole.take 1 else t.whole) = t.whole := by
    split
    · rename_i hhead
      rw [t.whole_zero (by simpa using hhead)]
      rfl
    · rfl
  have hempty : t.whole.isEmpty = false := by simpa using t.whole_ne_nil
  have hfractional : (t.frac.isEmpty && t.scale.isNone) = false := by
    rcases t.fractional with h | h
    · simp [h]
    · have hscale : t.scale ≠ none := by simpa [scale] using h
      simp [Option.isSome_iff_ne_none.mpr hscale]
  unfold readNumber
  simp only [htext, htake, hzero, hempty, drop_left, t.readFraction_fracText hrest,
    t.readExponent_expText hrest, hfractional]
  rfl

theorem exists_cons (t : Numeral) : ∃ c cs, t.text = c :: cs ∧ c.isDigit = true := by
  obtain ⟨c, cs, hcs⟩ := exists_cons_of_ne_nil t.whole_ne_nil
  exact ⟨c, cs ++ (t.fracText ++ t.expText), by rw [text, hcs, cons_append],
    t.whole_digits c (hcs ▸ mem_cons_self)⟩

end Numeral

/-! ## The digits that are written -/

theorem digitsValue_append_zeros (ds : List Char) (k : Nat) :
    digitsValue (ds ++ replicate k '0') = digitsValue ds * 10 ^ k := by
  rw [digitsValue_eq, digitsValue_eq, Nat.ofDigitChars_append, Nat.ofDigitChars_replicate_zero,
    Nat.mul_comm]

theorem digitsValue_zeros_append (ds : List Char) (k : Nat) :
    digitsValue (replicate k '0' ++ ds) = digitsValue ds := by
  rw [digitsValue_eq, digitsValue_eq, Nat.ofDigitChars_append, Nat.ofDigitChars_replicate_zero,
    Nat.mul_zero]

theorem digitsValue_toDigits (n : Nat) : digitsValue (Nat.toDigits 10 n) = n := by
  rw [digitsValue_eq, Nat.ofDigitChars_ten_toDigits]

theorem trimZeros_ne_nil (ds : List Char) : trimZeros ds ≠ [] := by
  unfold trimZeros
  split
  · exact cons_ne_nil _ _
  · assumption

theorem exists_trimZeros {n : Nat} (hn : n ≠ 0) :
    ∃ k, Nat.toDigits 10 n = trimZeros (Nat.toDigits 10 n) ++ replicate k '0' := by
  set all := Nat.toDigits 10 n with hall
  have hsplit : all = (all.reverse.dropWhile (· == '0')).reverse ++
      (all.reverse.takeWhile (· == '0')).reverse := by
    rw [← reverse_append, takeWhile_append_dropWhile, reverse_reverse]
  have hzeros : (all.reverse.takeWhile (· == '0')).reverse =
      replicate (all.reverse.takeWhile (· == '0')).length '0' := by
    rw [← length_reverse]
    refine eq_replicate_of_mem fun c hc => ?_
    simpa using mem_takeWhile_imp (mem_reverse.mp hc)
  rw [hzeros] at hsplit
  -- The first digit is none of these zeros, so digits are left.
  have hne : (all.reverse.dropWhile (· == '0')).reverse ≠ [] := by
    intro hnil
    rw [hnil, nil_append] at hsplit
    have hfirst := head?_toDigits_ne hn
    rw [← hall, hsplit, head?_replicate] at hfirst
    split at hfirst
    · rename_i hlength
      rw [hlength] at hsplit
      exact Nat.toDigits_ne_nil hsplit
    · exact hfirst rfl
  have htrim : trimZeros all = (all.reverse.dropWhile (· == '0')).reverse := by
    unfold trimZeros
    split
    · rename_i hnil
      exact absurd hnil hne
    · rfl
  exact ⟨_, htrim ▸ hsplit⟩

theorem toList_toString (n : Nat) : (toString n).toList = Nat.toDigits 10 n := by
  rw [Nat.toString_eq_repr, Nat.repr_eq_ofList_toDigits, String.toList_ofList]

section Layouts

variable {ds : List Char} (hne : ds ≠ []) (hdigits : ∀ c ∈ ds, c.isDigit = true)
  (hfirst : ds.head? ≠ some '0')

include hne hdigits in
theorem exists_numeral_below (zeros : Nat) :
    ∃ t : Numeral, ("0." ++ String.ofList (replicate zeros '0' ++ ds)).toList = t.text ∧
      t.number = digitsValue ds ∧ t.exponent = -(zeros + ds.length : Int) := by
  have hfrac : replicate zeros '0' ++ ds ≠ [] := append_ne_nil_of_right_ne_nil _ hne
  refine ⟨⟨['0'], replicate zeros '0' ++ ds, none, cons_ne_nil _ _, by simp, fun _ => rfl,
    ?_, nofun, .inl hfrac⟩, ?_, ?_, ?_⟩
  · intro c hc
    rcases mem_append.mp hc with hc | hc
    · rw [eq_of_mem_replicate hc]
      rfl
    · exact hdigits c hc
  · simp [Numeral.text, Numeral.fracText, Numeral.expText, hne]
  · exact digitsValue_zeros_append ds (zeros + 1)
  · simp [Numeral.exponent, Numeral.scale]

include hdigits hfirst hne in
theorem exists_numeral_point {places : Nat} (hplaces : places ≠ 0) :
    ∃ t : Numeral, (String.ofList (ds.take places ++
        replicate (places - (ds.take places).length) '0') ++ "." ++
          (if (ds.drop places).isEmpty then "0" else String.ofList (ds.drop places))).toList = t.text ∧
      (t.number : ℚ) * 10 ^ t.exponent = digitsValue ds * 10 ^ (places - ds.length : Int) := by
  have hpad : places - (ds.take places).length = places - ds.length := by
    rw [length_take]
    omega
  rw [hpad]
  set zeros := replicate (places - ds.length) '0' with hzeros
  have hwhole : ds.take places ++ zeros ≠ [] := by
    have htake : ds.take places ≠ [] := by simpa using ⟨hplaces, hne⟩
    exact append_ne_nil_of_left_ne_nil htake _
  have hwhole_digits : ∀ c ∈ ds.take places ++ zeros, c.isDigit = true := by
    intro c hc
    rcases mem_append.mp hc with hc | hc
    · exact hdigits c (mem_of_mem_take hc)
    · rw [eq_of_mem_replicate hc]
      rfl
  have hhead : (ds.take places ++ zeros).head? ≠ some '0' := by
    obtain ⟨c, cs, rfl⟩ := exists_cons_of_ne_nil hne
    obtain ⟨places, rfl⟩ := Nat.exists_eq_succ_of_ne_zero hplaces
    exact hfirst
  by_cases hrest : ds.drop places = []
  · -- All digits stand in front of the point, and zeros may follow them.
    have hle : ds.length ≤ places := drop_eq_nil_iff.mp hrest
    refine ⟨⟨_, ['0'], none, hwhole, hwhole_digits, fun h => absurd h hhead, by simp, nofun,
      .inl (cons_ne_nil _ _)⟩, ?_, ?_⟩
    · simp [hrest, Numeral.text, Numeral.fracText, Numeral.expText]
    · have hnumber : digitsValue (ds.take places ++ zeros ++ ['0']) =
          digitsValue ds * 10 ^ (places - ds.length) * 10 := by
        rw [take_of_length_le hle, hzeros, ← digitsValue_append_zeros]
        exact digitsValue_append_zeros _ 1
      simp only [Numeral.number, Numeral.exponent, Numeral.scale, hnumber]
      push_cast
      rw [← Nat.cast_sub hle, zpow_natCast, mul_assoc]
      norm_num
  · have hlt : places < ds.length := by
      rw [← Nat.not_le, ← drop_eq_nil_iff]
      exact hrest
    have hnone : zeros = [] := by rw [hzeros, Nat.sub_eq_zero_of_le hlt.le, replicate_zero]
    refine ⟨⟨_, ds.drop places, none, hwhole, hwhole_digits, fun h => absurd h hhead,
      fun c hc => hdigits c (mem_of_mem_drop hc), nofun, .inl hrest⟩, ?_, ?_⟩
    · simp [hrest, Numeral.text, Numeral.fracText, Numeral.expText]
    · simp only [Numeral.number, Numeral.exponent, Numeral.scale, hnone, append_nil,
        take_append_drop, length_drop, Option.map_none, Option.getD_none,
        Nat.cast_sub hlt.le, zero_sub, neg_sub]

theorem exists_size (k : Nat) :
    ∃ size : List Char, (if (toString k).length < 2 then "0" ++ toString k else toString k).toList = size ∧
      digitsValue size = k ∧ size ≠ [] ∧ ∀ c ∈ size, c.isDigit = true := by
  have hdigit : ∀ c ∈ Nat.toDigits 10 k, c.isDigit = true :=
    fun c hc => Nat.isDigit_of_mem_toDigits (by decide) (by decide) hc
  refine ⟨_, rfl, ?_⟩
  split
  · rw [String.toList_append, toList_toString]
    refine ⟨?_, append_ne_nil_of_right_ne_nil _ Nat.toDigits_ne_nil, ?_⟩
    · exact (digitsValue_zeros_append (Nat.toDigits 10 k) 1).trans (digitsValue_toDigits k)
    · intro c hc
      rcases mem_append.mp hc with hc | hc
      · obtain rfl : c = '0' := mem_singleton.mp hc
        rfl
      · exact hdigit c hc
  · rw [toList_toString]
    exact ⟨digitsValue_toDigits k, Nat.toDigits_ne_nil, hdigit⟩

include hdigits hfirst hne in
theorem exists_numeral_exponent (k : Int) :
    ∃ t : Numeral, (String.ofList (ds.take 1) ++
        (if (ds.drop 1).isEmpty then "" else "." ++ String.ofList (ds.drop 1)) ++
          (if k < 0 then "e-" else "e+") ++
            (if (toString k.natAbs).length < 2 then "0" ++ toString k.natAbs
              else toString k.natAbs)).toList = t.text ∧
      t.number = digitsValue ds ∧ t.exponent = k + 1 - ds.length := by
  obtain ⟨c, frac, rfl⟩ := exists_cons_of_ne_nil hne
  obtain ⟨size, htext, hvalue, hsize, hsize_digits⟩ := exists_size k.natAbs
  refine ⟨⟨[c], frac, some (decide (k < 0), size), cons_ne_nil _ _, ?_, ?_,
    fun d hd => hdigits d (mem_cons_of_mem _ hd), ?_, .inr (Option.some_ne_none _)⟩, ?_, rfl, ?_⟩
  · simpa using hdigits c mem_cons_self
  · exact fun h => absurd h hfirst
  · rintro e he
    obtain rfl := Option.some.inj he
    exact ⟨hsize, hsize_digits⟩
  · rw [String.toList_append, htext]
    simp only [String.toList_append, Numeral.text, Numeral.fracText, Numeral.expText]
    cases frac <;> by_cases hk : k < 0 <;> simp [hk]
  · simp only [Numeral.exponent, Numeral.scale, Option.map_some, Option.getD_some, hvalue,
      length_cons]
    by_cases hk : k < 0
    · rw [if_pos (decide_eq_true hk), Int.ofNat_natAbs_of_nonpos hk.le]
      omega
    · rw [if_neg (by simpa using hk), Int.natAbs_of_nonneg (Int.not_lt.mp hk)]
      omega

end Layouts

theorem exists_numeral {n : Nat} (hn : n ≠ 0) (e : Int) :
    ∃ t : Numeral, (writeDigits n e).toList = t.text ∧
      (t.number : ℚ) * 10 ^ t.exponent = n * 10 ^ e := by
  obtain ⟨zeros, hall⟩ := exists_trimZeros hn
  have hdigits : ∀ c ∈ trimZeros (Nat.toDigits 10 n), c.isDigit = true := by
    intro c hc
    have hmem : c ∈ Nat.toDigits 10 n := by
      rw [hall]
      exact mem_append_left _ hc
    exact Nat.isDigit_of_mem_toDigits (by decide) (by decide) hmem
  have hlength := congrArg length hall
  rw [length_append, length_replicate] at hlength
  have hfirst := head?_toDigits_ne hn
  have hvalue := digitsValue_toDigits n
  rw [hall] at hfirst hvalue
  rw [digitsValue_append_zeros] at hvalue
  unfold writeDigits
  set ds := trimZeros (Nat.toDigits 10 n)
  have hne : ds ≠ [] := trimZeros_ne_nil _
  have hhead : ds.head? ≠ some '0' := by
    obtain ⟨c, cs, hcs⟩ := exists_cons_of_ne_nil hne
    rw [hcs] at hfirst ⊢
    exact hfirst
  -- The zeros that were cut off count in the exponent.
  have hscale : ∀ E : Int, E = zeros + e → (digitsValue ds : ℚ) * 10 ^ E = n * 10 ^ e := by
    rintro E rfl
    rw [zpow_add₀ (by norm_num), zpow_natCast, ← hvalue]
    push_cast
    ring
  dsimp only
  generalize hk : ((Nat.toDigits 10 n).length + e - 1 : Int) = k
  by_cases hpoint : (decide (-4 ≤ k) && decide (k < 16)) = true
  · rw [if_pos hpoint]
    by_cases hbelow : k < 0
    · obtain ⟨t, htext, hnumber, hexponent⟩ := exists_numeral_below hne hdigits (-k - 1).toNat
      rw [if_pos hbelow]
      refine ⟨t, htext, ?_⟩
      rw [hnumber, hscale]
      omega
    · obtain ⟨t, htext, hnumber⟩ :=
        exists_numeral_point hne hdigits hhead (Nat.succ_ne_zero k.toNat)
      rw [if_neg hbelow]
      refine ⟨t, htext, hnumber.trans (hscale _ ?_)⟩
      omega
  · obtain ⟨t, htext, hnumber, hexponent⟩ := exists_numeral_exponent hne hdigits hhead k
    rw [if_neg hpoint]
    refine ⟨t, htext, ?_⟩
    rw [hnumber, hscale]
    omega

/-! ## Floating point numbers -/

theorem reads_numeral {x : Float} {s : String} (negative : Bool) (t : Numeral)
    (hs : s = (if negative then "-" else "") ++ String.ofList t.text)
    (hx : ofDigits negative t.number t.exponent = x) : Reads (.float x) s := by
  obtain ⟨c, cs, hcs, hc⟩ := t.exists_cons
  have htext : s.toList = if negative then '-' :: c :: cs else c :: cs := by
    rw [hs, hcs]
    cases negative <;> simp
  refine .of_readNumber negative htext hc fun start rest hrest => ?_
  rw [← hcs, t.read start negative hrest, hx]

theorem reads_float (x : Float) : Reads (.float x) (writeFloat x) := by
  unfold writeFloat
  cases hparts : parts x with
  | nan =>
    rw [eq_nan_of_parts hparts]
    exact .of_readAtom rfl rfl (by decide) (by decide) (by decide) fun _ _ => rfl
  | infinite negative =>
    rw [eq_infinity_of_parts hparts]
    cases negative <;>
      exact .of_readAtom rfl rfl (by decide) (by decide) (by decide) fun _ _ => rfl
  | finite negative m q =>
    simp only [render, hparts]
    obtain ⟨hc, hassemble⟩ := of_parts hparts
    by_cases hm : m = 0
    · subst hm
      refine reads_numeral negative ⟨['0'], ['0'], none, cons_ne_nil _ _, by simp,
        fun _ => rfl, by simp, by simp, .inl (cons_ne_nil _ _)⟩ rfl ?_
      rw [← hassemble]
      rfl
    · have hn := shortest_ne_zero hparts hm
      obtain ⟨t, htext, hvalue⟩ := exists_numeral hn (shortest x negative m q).2
      have hne : (m == 0) = false := by simpa using hm
      simp only [hne, Bool.false_eq_true, if_false]
      refine reads_numeral negative t ?_ ?_
      · rw [← htext, String.ofList_toList]
      · rw [← ofDigits_congr negative hn hvalue.symm, ofDigits_shortest hparts hm]

/-! ## Documents that are read -/

/-- Whether an atom is one that is read: also numbers with a fraction, infinities and the number that
is none. -/
def atomIsRead : Atom → Bool
  | .float _ => true
  | a => atomIsJson a

abbrev isRead : Value → Bool := madeOf atomIsRead

theorem atomsRead_isRead (lenient : Bool) : AtomsRead lenient atomIsRead := by
  intro a ha
  cases a with
  | float x => exact ⟨writeFloat x, rfl, reads_float x⟩
  | _ => exact writeAtom_reads lenient ha

theorem writeIn_readsBack_of_isRead (lenient : Bool) (layout : Layout) (h : isRead v = true) :
    ∃ s, writeIn lenient layout v = .ok s ∧ ReadsBack v s :=
  readsBack_of_madeOf (atomsRead_isRead lenient) layout v h

theorem isRead_int {whole : List Char} (hdigits : ∀ c ∈ whole, c.isDigit = true)
    (hlength : whole.length ≤ maxDigits) (negative : Bool) :
    isRead (.int (if negative then -(digitsValue whole : Int) else digitsValue whole)) = true := by
  have hlt : digitsValue whole < 10 ^ maxDigits :=
    calc digitsValue whole < 10 ^ whole.length := by
          rw [digitsValue_eq]
          exact ofDigitChars_lt hdigits
      _ ≤ 10 ^ maxDigits := Nat.pow_le_pow_right (by decide) hlength
  cases negative <;> simpa [madeOf, atomIsRead, atomIsJson] using hlt

theorem isRead_readNumber {start : Nat} {negative : Bool} {cs : List Char}
    (h : readNumber start negative cs = .ok (v, rest)) : isRead v = true := by
  unfold readNumber at h
  dsimp only at h
  set whole := if (cs.takeWhile Char.isDigit).head? == some '0' then
    (cs.takeWhile Char.isDigit).take 1 else cs.takeWhile Char.isDigit with hwhole
  have hdigits : ∀ c ∈ whole, c.isDigit = true := by
    intro c hc
    have hmem : c ∈ cs.takeWhile Char.isDigit := by
      rw [hwhole] at hc
      split at hc
      · exact mem_of_mem_take hc
      · exact hc
    exact mem_takeWhile_imp hmem
  have hint := fun hlength => isRead_int hdigits hlength negative
  generalize (if negative then -(digitsValue whole : Int) else digitsValue whole) = n at h hint
  split_ifs at h with hempty hwhole hlong
  · obtain ⟨rfl, -⟩ := Prod.mk.inj (Except.ok.inj h)
    exact hint (Nat.not_lt.mp hlong)
  · obtain ⟨rfl, -⟩ := Prod.mk.inj (Except.ok.inj h)
    rfl

theorem isRead_readAtom {cs : List Char} (h : readAtom cs = .ok (v, rest)) : isRead v = true := by
  unfold readAtom at h
  dsimp only at h
  split at h
  · -- A text.
    obtain ⟨⟨s, rest'⟩, -, hs⟩ := Result.bind_eq_ok.mp h
    cases hs
    rfl
  · split at h
    · cases h
      rfl
    · exact isRead_readNumber h
  · -- One of the words, or a number.
    iterate 5
      split at h
      · cases h
        rfl
    exact isRead_readNumber h

theorem isRead_readValue (fuel : Nat) :
    (∀ cs rest v, readValue fuel cs = .ok (v, rest) → isRead v = true) ∧
    (∀ cs rest vs, readItems fuel cs = .ok (vs, rest) → allMadeOf atomIsRead vs = true) ∧
    (∀ fields cs rest fields', fieldsMadeOf atomIsRead fields = true →
      readFields fuel fields cs = .ok (fields', rest) → fieldsMadeOf atomIsRead fields' = true) := by
  induction fuel with
  | zero => exact ⟨nofun, nofun, nofun⟩
  | succ fuel ih =>
    obtain ⟨ihValue, ihItems, ihFields⟩ := ih
    refine ⟨fun cs rest v h => ?_, fun cs rest vs h => ?_, fun fields cs rest fields' hfields h => ?_⟩
    · rw [readValue.eq_def] at h
      dsimp only at h
      split at h
      · split at h
        · cases h
          rfl
        · obtain ⟨⟨vs, rest'⟩, hvs, hv⟩ := Result.bind_eq_ok.mp h
          cases hv
          exact ihItems _ _ _ hvs
      · split at h
        · cases h
          rfl
        · obtain ⟨⟨fs, rest'⟩, hfs, hv⟩ := Result.bind_eq_ok.mp h
          cases hv
          exact ihFields _ _ _ _ rfl hfs
      · exact isRead_readAtom h
    · obtain ⟨⟨v, rest'⟩, hv, h⟩ := Result.bind_eq_ok.mp h
      have hv := ihValue _ _ _ hv
      dsimp only at h
      split at h
      · cases h
        simp [allMadeOf, hv]
      · obtain ⟨⟨ws, rest''⟩, hws, h⟩ := Result.bind_eq_ok.mp h
        cases h
        simp [allMadeOf, hv, ihItems _ _ _ hws]
      · cases h
    · rw [readFields.eq_def] at h
      dsimp only at h
      split at h
      · obtain ⟨⟨key, rest'⟩, -, h⟩ := Result.bind_eq_ok.mp h
        split at h
        · obtain ⟨⟨v, rest''⟩, hv, h⟩ := Result.bind_eq_ok.mp h
          have hput := fieldsMadeOf_put hfields key (ihValue _ _ _ hv)
          split at h
          · cases h
            exact hput
          · exact ihFields _ _ _ _ hput h
          · cases h
        · cases h
      · cases h

theorem isRead_of_read {s : String} (h : read s = .ok v) : isRead v = true := by
  have hchars : readChars? s.toList = .ok v := by
    rw [Json.read] at h
    cases hread : readChars? s.toList with
    | ok w =>
      rw [hread] at h
      exact congrArg Except.ok (Except.ok.inj h)
    | error stop =>
      rw [hread] at h
      cases h
  unfold readChars? at hchars
  split at hchars
  · cases hchars
  · obtain ⟨⟨w, rest⟩, hvalue, hchars⟩ := Result.bind_eq_ok.mp hchars
    dsimp only at hchars
    split at hchars
    · cases hchars
      exact (isRead_readValue _).1 _ _ _ hvalue
    · cases hchars

theorem isRead_of_isJson (h : isJson v = true) : isRead v = true := by
  obtain ⟨s, -, hreads⟩ := writeIn_readsBack false .line v h
  exact isRead_of_read hreads.read

end SkillKit.Json
