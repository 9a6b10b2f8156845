import Mathlib.Logic.Basic
import SkillKit.Source.Token
import SkillKit.Proofs.Text.Lines

/-!
# Calls that print a literal

A line `print("…")` or `print(f"…")` is read as one call of `print` on one string, written as the
text between the quotes, exactly if nothing in the text ends the string or the line early
(`tokens?_printed_iff`).
-/

namespace SkillKit.Source

open Text List

variable {cs body text after taken : List Char} {alt column : Nat} {c : Char}

/-! ## What has been read stays read -/

theorem dedentTo_tokens {indents : List (Nat × Nat)} {p p' : Progress}
    (h : Progress.dedentTo column alt indents p = some p') : p.tokens <:+ p'.tokens := by
  induction indents generalizing p with
  | nil => cases h
  | cons top up ih =>
    rw [Progress.dedentTo] at h
    split at h
    · exact (suffix_cons _ _).trans (ih h)
    · split at h
      · cases h
        exact suffix_rfl
      · cases h

theorem indentTo_tokens {p p' : Progress} (h : p.indentTo column alt = some p') :
    p.tokens <:+ p'.tokens := by
  unfold Progress.indentTo at h
  split at h
  · split at h
    · split at h
      · cases h
        exact suffix_rfl
      · cases h
    · split at h
      · split at h
        · cases h
        · cases h
          exact suffix_cons _ _
      · exact dedentTo_tokens h
  · cases h

/-- Reading goes on from a place where all that was read before still stands. -/
def GoesOn (p : Progress) (fuel : Nat) (ts : List Token) : Prop :=
  ∃ p' cs, p.tokens <:+ p'.tokens ∧
    (readLine p' fuel cs = some ts ∨ readTokens p' fuel cs = some ts)

section Steps

variable {p p' : Progress} {fuel : Nat} {ts : List Token}

theorem GoesOn.line (h : readLine p' fuel cs = some ts) (htokens : p.tokens <:+ p'.tokens) :
    GoesOn p fuel ts :=
  ⟨p', cs, htokens, .inl h⟩

theorem GoesOn.tokens (h : readTokens p' fuel cs = some ts) (htokens : p.tokens <:+ p'.tokens) :
    GoesOn p fuel ts :=
  ⟨p', cs, htokens, .inr h⟩

theorem readLine_step (h : readLine p (fuel + 1) cs = some ts) :
    GoesOn p fuel ts ∨ ∃ p' : Progress, p.tokens <:+ p'.tokens ∧ ts = p'.tokens.reverse := by
  obtain ⟨⟨m, rest⟩, _, h⟩ := Option.bind_eq_some_iff.1 h
  dsimp only at h
  split at h
  · exact .inl (.line h suffix_rfl)
  · split at h
    · split at h
      · obtain ⟨p', hindent, rfl⟩ := Option.map_eq_some_iff.1 h
        exact .inr ⟨p', (indentTo_tokens hindent :), rfl⟩
      · obtain ⟨p', hindent, h⟩ := Option.bind_eq_some_iff.1 h
        exact .inl (.tokens h (indentTo_tokens hindent :))
    · exact .inl (.tokens h suffix_rfl)

theorem readTokens_step (h : readTokens p (fuel + 1) (c :: cs) = some ts) : GoesOn p fuel ts := by
  -- A blank, a comment, the end of the line and a line that is continued.
  obtain ⟨-, h⟩ | ⟨-, h⟩ := ite_eq_iff.1 h
  · exact .tokens h suffix_rfl
  obtain ⟨-, h⟩ | ⟨-, h⟩ := ite_eq_iff.1 h
  · exact .tokens h suffix_rfl
  obtain ⟨-, h⟩ | ⟨-, h⟩ := ite_eq_iff.1 h
  · refine .line h ?_
    split
    · exact suffix_cons _ _
    · exact suffix_rfl
  obtain ⟨-, h⟩ | ⟨-, h⟩ := ite_eq_iff.1 h
  · split at h
    · exact .tokens h suffix_rfl
    · cases h
  -- A string.
  cases hstart : stringStart? (c :: cs) with
  | some start =>
    rw [hstart] at h
    dsimp only at h
    split at h
    · exact .tokens h (suffix_cons _ _)
    · cases h
  | none =>
    rw [hstart] at h
    dsimp only at h
    -- A word, and the two forms of numbers.
    obtain ⟨-, h⟩ | ⟨-, h⟩ := ite_eq_iff.1 h
    · split at h
      · exact .tokens h (suffix_cons _ _)
      · cases h
    obtain ⟨-, h⟩ | ⟨-, h⟩ := ite_eq_iff.1 h
    · split at h
      · exact .tokens h (suffix_cons _ _)
      · cases h
    obtain ⟨-, h⟩ | ⟨-, h⟩ := ite_eq_iff.1 h
    · split at h
      · exact .tokens h (suffix_cons _ _)
      · cases h
    -- An operator, which may open or close a bracket.
    split at h
    · cases h
    obtain ⟨-, h⟩ | ⟨-, h⟩ := ite_eq_iff.1 h
    · split at h
      · cases h
      · exact .tokens h (suffix_cons _ _)
    obtain ⟨-, h⟩ | ⟨-, h⟩ := ite_eq_iff.1 h
    · split at h
      · split at h
        · exact .tokens h (suffix_cons _ _)
        · cases h
      · cases h
    · exact .tokens h (suffix_cons _ _)

theorem tokens_kept (fuel : Nat) {p : Progress} {ts : List Token}
    (h : readLine p fuel cs = some ts ∨ readTokens p fuel cs = some ts) :
    p.tokens.reverse <+: ts := by
  induction fuel generalizing p cs with
  | zero =>
    rcases h with h | h
    · cases h
    · cases h
  | succ fuel ih =>
    have hsteps : GoesOn p fuel ts ∨
        ∃ p' : Progress, p.tokens <:+ p'.tokens ∧ ts = p'.tokens.reverse := by
      rcases h with h | h
      · exact readLine_step h
      · cases cs with
        | nil => cases h
        | cons c rest => exact .inl (readTokens_step h)
    rcases hsteps with ⟨p', cs', htokens, h⟩ | ⟨p', htokens, rfl⟩
    · exact ( reverse_prefix.2 htokens).trans (ih h)
    · exact reverse_prefix.2 htokens

end Steps

/-! ## Strings -/

theorem readQuoted?_cons (hslash : c ≠ '\\') (taken rest : List Char) :
    readQuoted? '"' false taken (c :: rest) =
      if c = '"' then some (taken.reverse, rest)
      else if c = '\n' then none
      else readQuoted? '"' false (c :: taken) rest := by
  rw [readQuoted?.eq_def]
  split
  · rename_i h
    cases h
  · rename_i h
    exact absurd (List.cons.inj h).1 hslash
  · rename_i h
    cases h
    simp

theorem readQuoted?_escape (taken rest : List Char) (c : Char) :
    readQuoted? '"' false taken ('\\' :: c :: rest) =
      readQuoted? '"' false (c :: '\\' :: taken) rest :=
  rfl

theorem taken_start {quote : Char} {triple : Bool}
    (h : readQuoted? quote triple taken cs = some (body, after)) : taken.reverse <+: body := by
  fun_induction readQuoted? quote triple taken cs with
  | case2 taken c rest ih => exact List.IsPrefix.trans (by simp) (ih h)
  | case4 taken c _ _ a b after _ _ ih => exact List.IsPrefix.trans (by simp) (ih h)
  | case8 taken c rest _ _ _ ih => exact List.IsPrefix.trans (by simp) (ih h)
  | case3 =>
    cases h
    exact List.prefix_rfl
  | case6 =>
    cases h
    exact List.prefix_rfl
  | case1 => cases h
  | case5 => cases h
  | case7 => cases h

theorem readQuoted?_of_free (h : ∀ c ∈ text, c ≠ '"' ∧ c ≠ '\\' ∧ c ≠ '\n') (taken rest : List Char) :
    readQuoted? '"' false taken (text ++ '"' :: rest) = some (taken.reverse ++ text, rest) := by
  induction text generalizing taken with
  | nil => rw [nil_append, readQuoted?_cons (by decide), if_pos rfl, append_nil]
  | cons c text ih =>
    obtain ⟨hquote, hslash, hbreak⟩ := h c mem_cons_self
    rw [cons_append, readQuoted?_cons hslash, if_neg hquote, if_neg hbreak,
      ih (fun d hd => h d (mem_cons_of_mem _ hd))]
    simp

theorem readQuoted?_eq_some (h : readQuoted? '"' false taken cs = some (body, after))
    (hslash : '\\' ∉ body) :
    ∃ text, body = taken.reverse ++ text ∧ cs = text ++ '"' :: after ∧
      ∀ c ∈ text, c ≠ '"' ∧ c ≠ '\n' := by
  induction cs generalizing taken with
  | nil => cases h
  | cons c rest ih =>
    by_cases hc : c = '\\'
    · -- A backslash would stand in what is read.
      subst hc
      cases rest with
      | nil => cases h
      | cons d rest =>
        rw [readQuoted?_escape] at h
        refine absurd ((taken_start h).subset ?_) hslash
        simp
    · rw [readQuoted?_cons hc] at h
      by_cases hquote : c = '"'
      · rw [if_pos hquote] at h
        cases h
        exact ⟨[], by simp, by rw [hquote, nil_append], by simp⟩
      · rw [if_neg hquote] at h
        by_cases hbreak : c = '\n'
        · rw [if_pos hbreak] at h
          cases h
        · rw [if_neg hbreak] at h
          obtain ⟨text, hbody, hrest, hfree⟩ := ih h
          refine ⟨c :: text, by simp [hbody], by rw [hrest, cons_append], ?_⟩
          simpa [hquote, hbreak] using hfree

/-! ## The call -/

/-- The letters in front of a string in which expressions are filled in, or not. -/
def marksOf (formatted : Bool) : List Char := if formatted then ['f'] else []

def printed (formatted : Bool) (text : List Char) : List Char :=
  'p' :: 'r' :: 'i' :: 'n' :: 't' :: '(' :: (marksOf formatted ++ '"' :: (text ++ ['"', ')']))

def printCall (formatted : Bool) (text : List Char) : List Token :=
  [⟨.name "print", 1⟩, ⟨.op "(", 1⟩, ⟨.string (marksOf formatted) text, 1⟩, ⟨.op ")", 1⟩,
    ⟨.newline, 1⟩]

section Call

variable (p : Progress) (fuel : Nat) (rest : List Char)

theorem readLine_name :
    readLine {} (fuel + 1) ('p' :: rest) = readTokens {} fuel ('p' :: rest) := by
  simp [readLine, readMargin, Progress.indentTo]

theorem readTokens_print :
    readTokens p (fuel + 1) ('p' :: 'r' :: 'i' :: 'n' :: 't' :: '(' :: rest) =
      readTokens (p.push (.name "print")) fuel ('(' :: rest) := by
  have hstart : stringStart? ('p' :: 'r' :: 'i' :: 'n' :: 't' :: '(' :: rest) = none := rfl
  have hword : ('r' :: 'i' :: 'n' :: 't' :: '(' :: rest).takeWhile isWordChar =
      ['r', 'i', 'n', 't'] := rfl
  have hrest : ('r' :: 'i' :: 'n' :: 't' :: '(' :: rest).dropWhile isWordChar = '(' :: rest := rfl
  have hname : isIdentifier ['p', 'r', 'i', 'n', 't'] = true := by decide +kernel
  have hlexeme : wordLexeme "print" = .name "print" := by decide
  simp [readTokens, hstart, hword, hrest, hname, hlexeme]

theorem readTokens_open (hp : p.brackets = []) :
    readTokens p (fuel + 1) ('(' :: rest) =
      readTokens { p.push (.op "(") with brackets := ['('] } fuel rest := by
  have hstart : stringStart? ('(' :: rest) = none := rfl
  have hop : readOperator? ('(' :: rest) = some ("(", rest) := rfl
  simp [readTokens, hstart, hop, Progress.push, hp, maxBrackets]

theorem readTokens_close (hp : p.brackets = ['(']) :
    readTokens p (fuel + 1) (')' :: rest) =
      readTokens { p.push (.op ")") with brackets := [] } fuel rest := by
  have hstart : stringStart? (')' :: rest) = none := rfl
  have hop : readOperator? (')' :: rest) = some (")", rest) := rfl
  simp [readTokens, hstart, hop, Progress.push, hp, closingOf]

theorem readTokens_string (formatted : Bool) :
    readTokens p (fuel + 1) (marksOf formatted ++ '"' :: ' ' :: rest) =
      match readQuoted? '"' false [] (' ' :: rest) with
      | some (body, after) =>
        readTokens { p.push (.string (marksOf formatted) body) with
          line := p.line + body.count '\n' } fuel after
      | none => none := by
  have hstring : readString? ('"' :: ' ' :: rest) = readQuoted? '"' false [] (' ' :: rest) := by
    cases rest <;> rfl
  cases formatted with
  | false =>
    have hstart : stringStart? ('"' :: ' ' :: rest) = some ([], '"' :: ' ' :: rest) := rfl
    cases hread : readQuoted? '"' false [] (' ' :: rest) <;>
      simp [readTokens, marksOf, hstart, hstring, hread, Progress.push]
  | true =>
    have hstart : stringStart? ('f' :: '"' :: ' ' :: rest) =
        some (['f'], '"' :: ' ' :: rest) := rfl
    cases hread : readQuoted? '"' false [] (' ' :: rest) <;>
      simp [readTokens, marksOf, hstart, hstring, hread, Progress.push]

theorem readTokens_end (hp : p.brackets = []) (hindents : p.indents = [(0, 0)]) :
    readTokens p (fuel + 2) ['\n'] = some (p.push .newline).tokens.reverse := by
  simp [readTokens, readLine, readMargin, Progress.indentTo, Progress.push, hp, hindents]

end Call

section Printed

variable {formatted : Bool}

theorem tokens?_printed (formatted : Bool) (h : '\x00' ∉ text) : ∃ fuel,
    tokens? (printed formatted (' ' :: text)) =
      match readQuoted? '"' false [] (' ' :: (text ++ ['"', ')', '\n'])) with
      | some (body, after) =>
        readTokens ⟨1 + body.count '\n', ['('], [(0, 0)],
          [⟨.string (marksOf formatted) body, 1⟩, ⟨.op "(", 1⟩, ⟨.name "print", 1⟩]⟩
          (fuel + 3) after
      | none => none := by
  have hzero : (printed formatted (' ' :: text)).contains '\x00' = false := by
    cases formatted <;> simp [printed, marksOf, h]
  have hlast : (printed formatted (' ' :: text)).getLast? = some ')' := by
    cases formatted <;> simp [printed, getLast?_cons]
  have hline : printed formatted (' ' :: text) ++ ['\n'] =
      'p' :: 'r' :: 'i' :: 'n' :: 't' :: '(' ::
        (marksOf formatted ++ '"' :: ' ' :: (text ++ ['"', ')', '\n'])) := by
    simp [printed]
  obtain ⟨fuel, hfuel⟩ : ∃ fuel,
      2 * (printed formatted (' ' :: text) ++ ['\n']).length + 2 = fuel + 7 := by
    rw [hline]
    exact ⟨2 * (marksOf formatted ++ '"' :: ' ' :: (text ++ ['"', ')', '\n'])).length + 7, by
      simp only [length_cons]; omega⟩
  refine ⟨fuel, ?_⟩
  unfold tokens?
  rw [hzero, hlast]
  simp only [if_false, beq_iff_eq, Option.some.injEq, Char.reduceEq]
  rw [hfuel, hline, readLine_name, readTokens_print, readTokens_open _ _ _ rfl, readTokens_string]
  rfl

theorem tokens?_printed_of_free
    (h : ∀ c ∈ text, c ≠ '"' ∧ c ≠ '\\' ∧ c ≠ '\n' ∧ c ≠ '\x00') :
    tokens? (printed formatted (' ' :: text)) = some (printCall formatted (' ' :: text)) := by
  obtain ⟨fuel, htokens⟩ := tokens?_printed formatted (fun hzero => (h _ hzero).2.2.2 rfl)
  have hfree : ∀ c ∈ ' ' :: text, c ≠ '"' ∧ c ≠ '\\' ∧ c ≠ '\n' := by
    intro c hc
    rcases mem_cons.1 hc with rfl | hc
    · decide
    · exact ⟨(h c hc).1, (h c hc).2.1, (h c hc).2.2.1⟩
  have hread : readQuoted? '"' false [] (' ' :: (text ++ ['"', ')', '\n'])) =
      some (' ' :: text, [')', '\n']) :=
    readQuoted?_of_free hfree [] [')', '\n']
  have hcount : (' ' :: text).count '\n' = 0 :=
    count_eq_zero_of_not_mem fun hbreak => (hfree _ hbreak).2.2 rfl
  rw [htokens, hread]
  dsimp only
  rw [hcount, readTokens_close _ _ _ rfl]
  rfl

theorem body_of_tokens?_printed {body : List Char} (hslash : '\\' ∉ body)
    (h : tokens? (printed formatted (' ' :: text)) = some (printCall formatted body)) :
    '\x00' ∉ text ∧ (∀ c ∈ body, c ≠ '"' ∧ c ≠ '\n') ∧
      body <+: ' ' :: (text ++ ['"', ')', '\n']) := by
  have hzero : '\x00' ∉ text := by
    intro hzero
    have hcontains : (printed formatted (' ' :: text)).contains '\x00' = true := by
      simp [printed, hzero]
    rw [tokens?, if_pos hcontains] at h
    cases h
  obtain ⟨fuel, htokens⟩ := tokens?_printed formatted hzero
  rw [htokens] at h
  cases hread : readQuoted? '"' false [] (' ' :: (text ++ ['"', ')', '\n'])) with
  | none =>
    rw [hread] at h
    cases h
  | some result =>
    obtain ⟨read, after⟩ := result
    rw [hread] at h
    have hkept := tokens_kept _ (.inr h)
    obtain rfl : read = body := by simpa [printCall] using hkept
    obtain ⟨string, hbody, hline, hfree⟩ := readQuoted?_eq_some hread hslash
    obtain rfl : read = string := by simpa using hbody
    exact ⟨hzero, hfree, '"' :: after, hline.symm⟩

theorem unifyBreaks_printed :
    unifyBreaks (printed formatted (' ' :: text)) =
      printed formatted (' ' :: unifyBreaks text) := by
  have hquote : unifyBreaks (text ++ ['"', ')']) = unifyBreaks text ++ ['"', ')'] :=
    unifyBreaks_append_cons (by decide) (by decide) text [')']
  cases formatted <;> simp [printed, marksOf, unifyBreaks, hquote]

/-- The characters that end a string or a line early, or change what is printed. -/
def breakers : List Char := ['"', '\\', '\n', '\r', '\x00']

/-- A line is read as printing a text, without escapes, exactly if the text is free of them. -/
theorem tokens?_printed_iff :
    (tokens? (unifyBreaks (printed formatted (' ' :: text))) =
        some (printCall formatted (' ' :: text)) ∧ '\\' ∉ text) ↔
      ∀ c ∈ text, c ∉ breakers := by
  constructor
  · rintro ⟨htokens, hslash⟩
    rw [unifyBreaks_printed] at htokens
    obtain ⟨hzero, hfree, hfront⟩ := body_of_tokens?_printed (by simpa using hslash) htokens
    intro c hc
    -- All of the text stands in the line as it is read, which has no carriage returns.
    have hread : c ∈ ' ' :: (unifyBreaks text ++ ['"', ')', '\n']) :=
      hfront.subset (mem_cons_of_mem _ hc)
    obtain ⟨hquote, hfeed⟩ := hfree c (mem_cons_of_mem _ hc)
    have hreturn : c ≠ '\r' := by
      rintro rfl
      simp [not_mem_unifyBreaks] at hread
    have hnull : c ≠ '\x00' := by
      rintro rfl
      simp [hzero] at hread
    have hback : c ≠ '\\' := by
      rintro rfl
      exact hslash hc
    simp [breakers, hquote, hback, hfeed, hreturn, hnull]
  · intro hfree
    have hreturn : '\r' ∉ text := fun h => hfree _ h (by decide)
    refine ⟨?_, fun h => hfree _ h (by decide)⟩
    rw [unifyBreaks_printed, unifyBreaks_of_free hreturn]
    apply tokens?_printed_of_free
    intro c hc
    have hc' := hfree c hc
    simp only [breakers, mem_cons, not_mem_nil, or_false, not_or] at hc'
    exact ⟨hc'.1, hc'.2.1, hc'.2.2.1, hc'.2.2.2.2⟩

end Printed

end SkillKit.Source
