import SkillKit.Connector.Prelude
import SkillKit.Source.Token
import SkillKit.Proofs.Run
import SkillKit.Proofs.Text.Search

/-!
# What code that connects is made of

Code that connects is made of fixed text, of values of the connector, and of reads of environment
variables (`Written`), so that wherever the word `environ` stands in it, a variable is read, unless
the word came in with a value (`Written.read_or_value`).
-/

namespace SkillKit.Connector

open Text List

/-! ## What code is made of -/

/-- The value is a field of the connector, or a part of one. -/
def HeldBy (c : Connector) (v : Value) : Prop :=
  ∃ f ∈ c.fields, v = f.2 ∨ f.2.first = .ok v ∨ ∃ items, f.2.parts = .ok items ∧ v ∈ items

/-- The word by which code gets at the environment. -/
def environ : List Char := ['e', 'n', 'v', 'i', 'r', 'o', 'n']

/-- The two texts do not meet inside a word. -/
def Apart (s t : String) : Prop :=
  ∀ a ∈ s.toList.getLast?, ∀ b ∈ t.toList.head?,
    Source.isWordChar a = true → Source.isWordChar b = false

/-- Code for a connector, and the variables that it reads, in order.  It is made of fixed text
without the word `environ`, of values of the connector, written as in a program or as shown, and of
reads; none of them ends inside a word. -/
inductive Written (c : Connector) : String → List String → Prop
  | fixed {cs : List Char} (h : isInfix environ cs = false) : Written c (String.ofList cs) []
  | literal {v : Value} (h : HeldBy c v) : Written c v.literal []
  | shown {v : Value} (h : HeldBy c v) : Written c v.display []
  | read {name : String} (h : HeldBy c (.text name)) :
      Written c ("os.environ.get(" ++ quoted name) [name]
  | append {s t : String} {ns ms : List String} (hs : Written c s ns) (ht : Written c t ms)
      (h : Apart s t) : Written c (s ++ t) (ns ++ ms)

/-- Lines of code for a connector, and the variables that they read, in order. -/
inductive WrittenLines (c : Connector) : List String → List String → Prop
  | nil : WrittenLines c [] []
  | cons {line : String} {lines : List String} {ns ms : List String} (hline : Written c line ns)
      (hlines : WrittenLines c lines ms) : WrittenLines c (line :: lines) (ns ++ ms)

/-- Fixed text behind which anything may follow. -/
def opens (cs : List Char) : Bool :=
  !isInfix environ cs && cs.getLast?.any (!Source.isWordChar ·)

/-- Fixed text that may follow anything. -/
def closes (cs : List Char) : Bool :=
  !isInfix environ cs && cs.head?.any (!Source.isWordChar ·)

section Written

variable {c : Connector} {s t : String} {cs : List Char} {ns ms : List String} {v : Value}

theorem apart_of_opens (h : opens cs = true) (s t : String) : Apart (s ++ String.ofList cs) t := by
  intro a ha b _ hword
  simp only [opens, Bool.and_eq_true, Option.any_eq_true] at h
  obtain ⟨_, last, hlast, hend⟩ := h
  rw [String.toList_append, String.toList_ofList, getLast?_append, hlast] at ha
  obtain rfl : last = a := by simpa using ha
  simp [hword] at hend

theorem apart_of_closes (h : closes cs = true) (s : String) : Apart s (String.ofList cs) := by
  intro a _ b hb _
  simp only [closes, Bool.and_eq_true, Option.any_eq_true] at h
  obtain ⟨_, first, hfirst, hstart⟩ := h
  rw [String.toList_ofList, hfirst] at hb
  obtain rfl : first = b := by simpa using hb
  simpa using hstart

theorem Written.before (h : Written c t ns) (hcs : opens cs = true) :
    Written c (String.ofList cs ++ t) ns := by
  have hfixed : isInfix environ cs = false := by simp_all [opens]
  have happart : Apart (String.ofList cs) t := by simpa using apart_of_opens hcs "" t
  exact (Written.fixed hfixed).append h happart

theorem Written.behind (h : Written c s ns) (hcs : closes cs = true) :
    Written c (s ++ String.ofList cs) ns := by
  have hfixed : isInfix environ cs = false := by simp_all [closes]
  simpa using h.append (.fixed hfixed) (apart_of_closes hcs s)

theorem Written.glue (h : Written c s ns) (hopens : opens cs = true) (hcloses : closes cs = true)
    (ht : Written c t ms) : Written c (s ++ String.ofList cs ++ t) (ns ++ ms) :=
  (h.behind hcloses).append ht (apart_of_opens hopens s t)

theorem Written.trail (h : Written c s ns) (hopens : opens cs = true) (hcloses : closes cs = true)
    (ht : Written c t []) : Written c (s ++ String.ofList cs ++ t) ns := by
  simpa using h.glue hopens hcloses ht

theorem WrittenLines.of_forall {lines : List String} (h : ∀ l ∈ lines, Written c l []) :
    WrittenLines c lines [] := by
  induction lines with
  | nil => exact .nil
  | cons line rest ih =>
    exact .cons (h line mem_cons_self) (ih fun l hl => h l (mem_cons_of_mem _ hl))

theorem WrittenLines.single (h : Written c s ns) : WrittenLines c [s] ns := by
  simpa using WrittenLines.cons h .nil

theorem WrittenLines.append {lines more : List String} (h : WrittenLines c lines ns)
    (hmore : WrittenLines c more ms) : WrittenLines c (lines ++ more) (ns ++ ms) := by
  induction h with
  | nil => exact hmore
  | cons hline _ ih =>
    rw [append_assoc]
    exact .cons hline ih

theorem WrittenLines.intercalate {lines : List String} (h : WrittenLines c lines ns)
    (hopens : opens cs = true) (hcloses : closes cs = true) :
    Written c ((String.ofList cs).intercalate lines) ns := by
  induction h with
  | nil => exact .fixed rfl
  | @cons line lines ns ms hline hlines ih =>
    cases hlines with
    | nil => simpa using hline
    | cons _ _ =>
      rw [String.intercalate_cons_cons]
      exact hline.glue hopens hcloses ih

end Written

section Lines

variable {c : Connector} {s : String} {ns : List String} {lines more : List String}

theorem WrittenLines.before (hs : Written c s []) (h : WrittenLines c lines ns) :
    WrittenLines c (s :: lines) ns :=
  .cons hs h

theorem WrittenLines.text {cs : List Char} (hcs : isInfix environ cs = false)
    (h : WrittenLines c lines ns) : WrittenLines c (String.ofList cs :: lines) ns :=
  .cons (.fixed hcs) h

theorem WrittenLines.after (hlines : WrittenLines c lines []) (h : WrittenLines c more ns) :
    WrittenLines c (lines ++ more) ns :=
  hlines.append h

theorem WrittenLines.behind (h : WrittenLines c lines ns) (hmore : WrittenLines c more []) :
    WrittenLines c (lines ++ more) ns := by
  simpa using h.append hmore

theorem WrittenLines.ahead (hs : Written c s ns) (h : WrittenLines c lines []) :
    WrittenLines c (s :: lines) ns := by
  simpa using WrittenLines.cons hs h

theorem WrittenLines.section (h : WrittenLines c lines ns) :
    Written c ("\n".intercalate lines) ns :=
  h.intercalate rfl rfl

end Lines

/-! ## Where the word stands -/

/-- Between the two texts the word `environ` is part of a read of the variable. -/
def ReadAt (name : String) (pre post : List Char) : Prop :=
  "os.".toList <:+ pre ∧ (".get(" ++ quoted name).toList <+: post

/-- Between the two texts the word `environ` is part of a value of the connector. -/
def InValue (c : Connector) (pre post : List Char) : Prop :=
  ∃ v front back, HeldBy c v ∧ front <:+ pre ∧ back <+: post ∧
    (v.literal.toList = front ++ environ ++ back ∨
      v.display.toList = front ++ environ ++ back)

section Occurrence

variable {c : Connector} {name s t : String} {ns : List String} {pre post pre' post' : List Char}

theorem ReadAt.mono (h : ReadAt name pre post) (hpre : pre <:+ pre') (hpost : post <+: post') :
    ReadAt name pre' post' :=
  ⟨h.1.trans hpre, h.2.trans hpost⟩

theorem InValue.mono (h : InValue c pre post) (hpre : pre <:+ pre') (hpost : post <+: post') :
    InValue c pre' post' := by
  obtain ⟨v, front, back, hv, hfront, hback, htext⟩ := h
  exact ⟨v, front, back, hv, hfront.trans hpre, hback.trans hpost, htext⟩

theorem Apart.word_cases {word : List Char} (h : Apart s t)
    (hword : ∀ a ∈ word, Source.isWordChar a = true)
    (hst : (s ++ t).toList = pre ++ word ++ post) :
    (∃ post', s.toList = pre ++ word ++ post' ∧ post' <+: post) ∨
      ∃ pre', t.toList = pre' ++ word ++ post ∧ pre' <:+ pre := by
  rw [String.toList_append] at hst
  obtain ⟨back, hs, hpost⟩ | ⟨middle, hs, ht⟩ := append_eq_append_iff.1 hst.symm
  · exact .inl ⟨back, hs, t.toList, hpost.symm⟩
  · obtain ⟨front, hpre, hmiddle⟩ | ⟨front, hpre, hmiddle⟩ := append_eq_append_iff.1 hs
    · -- The word begins in the first text: all of it is there, or none of it.
      rcases eq_nil_or_concat front with rfl | ⟨_, a, rfl⟩
      · exact .inr ⟨[], by simpa [ht] using hmiddle.symm, nil_suffix⟩
      · cases middle with
        | nil => exact .inl ⟨[], by simpa [hmiddle] using hpre, nil_prefix⟩
        | cons b rest =>
          have ha : Source.isWordChar a = true := hword a (by simp [hmiddle])
          have hb : Source.isWordChar b = true := hword b (by simp [hmiddle])
          have hend := h a (by simp [hpre]) b (by simp [ht]) ha
          rw [hb] at hend
          cases hend
    · exact .inr ⟨front, by rw [ht, hmiddle], s.toList, hpre.symm⟩

theorem eq_of_environ (h : "os.environ.get(".toList = pre ++ environ ++ post) :
    pre = "os.".toList := by
  have hlength := congrArg length h
  simp only [length_append, show "os.environ.get(".toList.length = 15 by rfl,
    show environ.length = 7 by rfl] at hlength
  have hpre : pre = "os.environ.get(".toList.take pre.length := by
    rw [h, append_assoc, take_left]
  have hword : ("os.environ.get(".toList.drop pre.length).take 7 = environ := by
    rw [h, append_assoc, drop_left]
    rfl
  have honce : ∀ n ≤ 8, ("os.environ.get(".toList.drop n).take 7 = environ → n = 3 := by
    decide
  rw [hpre, honce _ (by omega) hword]
  rfl

theorem Written.read_or_value (h : Written c s ns)
    (hs : s.toList = pre ++ environ ++ post) :
    (∃ name ∈ ns, ReadAt name pre post) ∨ InValue c pre post := by
  have hword : ∀ a ∈ environ, Source.isWordChar a = true := all_eq_true.1 rfl
  induction h generalizing pre post with
  | fixed hfixed =>
    have hfound := isInfix_append pre environ post
    rw [← hs, String.toList_ofList, hfixed] at hfound
    cases hfound
  | @literal v hv => exact .inr ⟨v, pre, post, hv, suffix_rfl, prefix_rfl, .inl hs⟩
  | @shown v hv => exact .inr ⟨v, pre, post, hv, suffix_rfl, prefix_rfl, .inr hs⟩
  | @read name hname =>
    have happart : Apart "os.environ.get(" (quoted name) := by
      intro a ha b _ hopen
      obtain rfl : '(' = a := by simpa using ha
      cases hopen
    obtain ⟨post', hopen, _⟩ | ⟨pre', hquoted, hpre⟩ := happart.word_cases hword hs
    · obtain rfl := eq_of_environ hopen
      refine .inl ⟨name, mem_singleton_self name, suffix_rfl, ?_⟩
      have hpost : post = (".get(" ++ quoted name).toList := by simpa [environ] using hs.symm
      exact ⟨[], by rw [hpost, append_nil]⟩
    · exact .inr ⟨.text name, pre', post, hname, hpre, prefix_rfl, .inl hquoted⟩
  | @append s t ns ms _ _ happart ihs iht =>
    obtain ⟨post', hs', hpost⟩ | ⟨pre', ht', hpre⟩ := happart.word_cases hword hs
    · obtain ⟨name, hname, hread⟩ | hvalue := ihs hs'
      · exact .inl ⟨name, mem_append_left _ hname, hread.mono suffix_rfl hpost⟩
      · exact .inr (hvalue.mono suffix_rfl hpost)
    · obtain ⟨name, hname, hread⟩ | hvalue := iht ht'
      · exact .inl ⟨name, mem_append_right _ hname, hread.mono hpre prefix_rfl⟩
      · exact .inr (hvalue.mono hpre prefix_rfl)

end Occurrence

end SkillKit.Connector
