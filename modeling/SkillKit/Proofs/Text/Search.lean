import SkillKit.Text.Basic
import SkillKit.Text.LetterCase
import Mathlib.Data.List.Infix
import Mathlib.Data.List.TakeWhile

/-!
# Searching and trimming

The search for a part finds exactly the parts that stand in a text (`isInfix_iff`).  Trimming takes
blanks off the two ends and nothing else: a part without blanks stands in what is left exactly if it
stood in the text (`contains_strip`).
-/

namespace SkillKit.Text

open List

variable {pad rest word front : List Char} {d w : Char}

variable {part cs : List Char} {c : Char}

/-! ## Parts of a text -/

theorem dropPrefix?_append (part rest : List Char) :
    dropPrefix? part (part ++ rest) = some rest := by
  induction part with
  | nil => rfl
  | cons c cs ih => simpa [dropPrefix?] using ih

theorem eq_append_of_dropPrefix? (h : dropPrefix? part cs = some rest) : cs = part ++ rest := by
  induction part generalizing cs with
  | nil => exact Option.some.inj h
  | cons p part ih =>
    cases cs with
    | nil => cases h
    | cons c cs =>
      rw [dropPrefix?] at h
      split at h
      · rename_i hp
        rw [ih h, beq_iff_eq.mp hp, cons_append]
      · cases h

theorem isSome_dropPrefix? (part cs : List Char) :
    (dropPrefix? part cs).isSome = true ↔ part <+: cs := by
  constructor
  · intro h
    obtain ⟨rest, hrest⟩ := Option.isSome_iff_exists.mp h
    exact ⟨rest, (eq_append_of_dropPrefix? hrest).symm⟩
  · rintro ⟨rest, rfl⟩
    rw [dropPrefix?_append]
    rfl

theorem startsWith_iff (s pre : String) : startsWith s pre = true ↔ pre.toList <+: s.toList :=
  isSome_dropPrefix? _ _

theorem endsWith_iff (s post : String) : endsWith s post = true ↔ post.toList <:+ s.toList := by
  rw [endsWith, isSome_dropPrefix?, reverse_prefix]

theorem isInfix_append (pre part post : List Char) : isInfix part (pre ++ part ++ post) = true := by
  induction pre with
  | nil =>
    have hdrop := dropPrefix?_append part post
    cases hcs : part ++ post with
    | nil =>
      rw [hcs] at hdrop
      simp [isInfix, cutAt?, hcs, hdrop]
    | cons c cs =>
      rw [hcs] at hdrop
      simp [isInfix, cutAt?, hcs, hdrop]
  | cons c cs ih =>
    unfold isInfix at ih
    simp only [isInfix, cons_append, cutAt?]
    split
    · rfl
    · simpa using ih

theorem eq_append_of_cutAt? (h : cutAt? part cs = some (front, rest)) :
    cs = front ++ part ++ rest := by
  induction cs generalizing front with
  | nil =>
    rw [cutAt?, Option.map_eq_some_iff] at h
    obtain ⟨_, hdrop, hpair⟩ := h
    cases hpair
    exact eq_append_of_dropPrefix? hdrop
  | cons c cs ih =>
    rw [cutAt?] at h
    split at h
    · rename_i hdrop
      cases h
      exact eq_append_of_dropPrefix? hdrop
    · obtain ⟨⟨front', rest'⟩, hcut, hpair⟩ := Option.map_eq_some_iff.mp h
      cases hpair
      rw [ih hcut, cons_append, cons_append]

theorem isInfix_iff (part cs : List Char) : isInfix part cs = true ↔ part <:+: cs := by
  constructor
  · intro h
    obtain ⟨⟨front, rest⟩, hcut⟩ := Option.isSome_iff_exists.mp h
    exact ⟨front, rest, (eq_append_of_cutAt? hcut).symm⟩
  · rintro ⟨front, rest, rfl⟩
    exact isInfix_append front part rest

/-! ## Words in a text -/

section Words

variable {α : Type}

theorem prefix_append_iff {word front back : List α} (h : ∀ c ∈ back.head?, c ∉ word) :
    word <+: front ++ back ↔ word <+: front := by
  refine ⟨fun hword => ?_, fun hword => hword.trans (prefix_append _ _)⟩
  induction word generalizing front with
  | nil => exact nil_prefix
  | cons w word ih =>
    cases front with
    | nil =>
      -- The rest of the word would start with the character at the seam.
      obtain ⟨rest, rfl⟩ := hword
      exact absurd mem_cons_self (h w rfl)
    | cons x front =>
      rw [cons_append, cons_prefix_cons] at hword
      rw [cons_prefix_cons]
      exact ⟨hword.1, ih (fun c hc hmem => h c hc (mem_cons_of_mem _ hmem)) hword.2⟩

theorem infix_append_iff {word front back : List α} (hne : word ≠ [])
    (h : ∀ c ∈ back.head?, c ∉ word) :
    word <:+: front ++ back ↔ word <:+: front ∨ word <:+: back := by
  induction front with
  | nil => simp [hne]
  | cons x front ih =>
    -- The word starts at the first character, and then it ends before the seam, or it starts later.
    rw [cons_append, infix_cons_iff, infix_cons_iff, ih, ← cons_append,
      prefix_append_iff h, or_assoc]

theorem infix_append_iff_of_not_mem {w : α} {word front back : List α} (h : w ∉ front) :
    w :: word <:+: front ++ back ↔ w :: word <:+: back := by
  induction front with
  | nil => rfl
  | cons x front ih =>
    rw [mem_cons, not_or] at h
    rw [cons_append, infix_cons_iff, ih h.2]
    simp [h.1]

end Words

theorem cutAt?_append (hw : w ∉ word) (hfront : ¬ w :: word <:+: front) (rest : List Char) :
    cutAt? (w :: word) (front ++ (w :: word ++ rest)) = some (front, rest) := by
  induction front with
  | nil => rw [nil_append, cons_append, cutAt?, ← cons_append, dropPrefix?_append]
  | cons c front ih =>
    rw [infix_cons_iff, not_or] at hfront
    have hnone : dropPrefix? (w :: word) (c :: (front ++ (w :: word ++ rest))) = none := by
      rw [← Option.not_isSome_iff_eq_none, isSome_dropPrefix?]
      intro h
      -- A word that starts here ends before the next one, in which its first character stands first.
      rw [cons_prefix_cons, prefix_append_iff (by simpa using hw)] at h
      exact hfront.1 (cons_prefix_cons.mpr h)
    rw [cons_append, cutAt?, hnone, ih hfront.2]
    rfl

theorem cut?_append {sep front : String} (hsep : sep.toList = w :: word) (hw : w ∉ word)
    (hfront : contains front sep = false) (rest : String) :
    cut? sep (front ++ sep ++ rest) = some (front, rest) := by
  have hfree : ¬ w :: word <:+: front.toList := by
    rw [← hsep, ← isInfix_iff, Bool.not_eq_true]
    exact hfront
  rw [cut?, String.toList_append, String.toList_append, hsep, append_assoc,
    cutAt?_append hw hfree]
  simp

/-! ## Ends of a text -/

variable {p : Char → Bool}

theorem trim_infix_self (p : Char → Bool) (cs : List Char) : trim p cs <:+: cs := by
  have hright : trimRight p (trimLeft p cs) <+: trimLeft p cs := by
    rw [trimRight, ← reverse_suffix, reverse_reverse]
    exact dropWhile_suffix p
  exact hright.isInfix.trans (dropWhile_suffix p).isInfix

theorem infix_dropWhile (hpart : ∀ c ∈ part, p c = false) (h : part <:+: cs) :
    part <:+: cs.dropWhile p := by
  obtain ⟨front, back, rfl⟩ := h
  rw [append_assoc, dropWhile_append]
  split
  · cases part with
    | nil => exact nil_infix
    | cons c part =>
      rw [cons_append, dropWhile_cons_of_neg (by simp [hpart c mem_cons_self])]
      exact (prefix_append (c :: part) back).isInfix
  · exact ⟨_, back, append_assoc _ _ _⟩

theorem infix_trim (hpart : ∀ c ∈ part, p c = false) (h : part <:+: cs) : part <:+: trim p cs := by
  have hleft : part.reverse <:+: (trimLeft p cs).reverse :=
    reverse_infix.mpr (infix_dropWhile hpart h)
  have hright := infix_dropWhile (fun c hc => hpart c (mem_reverse.mp hc)) hleft
  rwa [← reverse_infix, reverse_reverse] at hright

section

variable {α : Type} {p : α → Bool} {pad rest : List α}

theorem dropWhile_pad (hpad : ∀ c ∈ pad, p c = true) (hrest : ∀ c ∈ rest.head?, p c = false) :
    (pad ++ rest).dropWhile p = rest := by
  rw [dropWhile_append_of_pos hpad]
  cases rest with
  | nil => rfl
  | cons c rest => exact dropWhile_cons_of_neg (by simp [hrest c rfl])

theorem takeWhile_pad (hpad : ∀ c ∈ pad, p c = true) (hrest : ∀ c ∈ rest.head?, p c = false) :
    (pad ++ rest).takeWhile p = pad := by
  have hcut := (pad ++ rest).takeWhile_append_dropWhile (p := p)
  rw [dropWhile_pad hpad hrest] at hcut
  exact append_cancel_right hcut

end

theorem trim_between {pad' : List Char} (hpad : ∀ c ∈ pad ++ pad', p c = true)
    (hends : ∀ c, c ∈ cs.head? ∨ c ∈ cs.getLast? → p c = false) :
    trim p (pad ++ cs ++ pad') = cs := by
  have hright : (pad'.reverse ++ cs.reverse).dropWhile p = cs.reverse :=
    dropWhile_pad (by simp_all) (by simp_all)
  cases cs with
  | nil =>
    rw [append_nil, trim, trimLeft, dropWhile_eq_nil_iff.mpr hpad]
    rfl
  | cons c cs =>
    rw [append_assoc, trim, trimLeft, dropWhile_pad (by simp_all) (by simp_all), trimRight,
      reverse_append, hright, reverse_reverse]

theorem trim_of_ends (hends : ∀ c, c ∈ cs.head? ∨ c ∈ cs.getLast? → p c = false) :
    trim p cs = cs := by
  have hnone : ∀ c ∈ ([] ++ [] : List Char), p c = true := by simp
  simpa using trim_between hnone hends

theorem strip_of_ends {s : String} (hs : s.toList = c :: (cs ++ [d])) (hc : isBlank c = false)
    (hd : isBlank d = false) : strip s = s := by
  have hends : ∀ b, b ∈ s.toList.head? ∨ b ∈ s.toList.getLast? → isBlank b = false := by
    simp [hs, getLast?_cons, or_imp, forall_and, hc, hd]
  rw [strip, trim_of_ends hends, String.ofList_toList]

theorem length_strip_le (s : String) : (strip s).length ≤ s.length := by
  rw [← String.length_toList, strip, String.toList_ofList]
  exact (trim_infix_self _ _).length_le

theorem contains_strip (s : String) {part : String} (h : part.toList.all (!isBlank ·) = true) :
    contains (strip s) part = contains s part := by
  have hpart : ∀ c ∈ part.toList, isBlank c = false := by simpa using h
  rw [Bool.eq_iff_iff, contains, contains, isInfix_iff, isInfix_iff, strip, String.toList_ofList]
  exact ⟨fun hfound => hfound.trans (trim_infix_self _ _), infix_trim hpart⟩

/-! ## Single characters -/

theorem contains_char_iff {part : String} (h : part.toList = [c]) (s : String) :
    contains s part = true ↔ c ∈ s.toList := by
  rw [contains, isInfix_iff, h]
  exact singleton_infix_iff _ _

end SkillKit.Text
