import SkillKit.Proofs.Json.Documents
import SkillKit.Proofs.Text.Search

/-!
# The texts in a written document

A written document is made of its texts, each in quotes and with escapes, and of marks between them
(`Laid`, `laid_writeIn`).  So it is ASCII and is read back from a file (`writeIn_readsBack`), and a
word that no mark can hold stands within one of the texts, as it is escaped (`infix_writeIn_iff`).
-/

namespace SkillKit

open List

variable {s : String} {fields : Fields} {v : Value}

/-! ## Texts of a document -/

def Atom.strings : Atom → List String
  | .text s => [s]
  | _ => []

mutual

/-- The texts of a document at any depth, keys included. -/
def Value.strings : Value → List String
  | .atom a => a.strings
  | .list items => Value.stringsOfItems items
  | .pair a b => a.strings ++ b.strings
  | .dict fields => Value.stringsOfFields fields

def Value.stringsOfItems : List Value → List String
  | [] => []
  | v :: vs => v.strings ++ Value.stringsOfItems vs

def Value.stringsOfFields : List (Atom × Value) → List String
  | [] => []
  | (k, v) :: fs => k.strings ++ v.strings ++ Value.stringsOfFields fs

end

theorem Atom.eq_of_same_text {a : Atom} (h : a.same (.text s) = true) : a = .text s := by
  have hratio : (Atom.text s).ratio? = none := rfl
  cases a with
  | text t => exact congrArg Atom.text (beq_iff_eq.mp h)
  | float x => cases hx : (Atom.float x).ratio? <;> simp [Atom.same, hratio] at h
  | _ => cases h

theorem Fields.get?_cons (k : Atom) (v : Value) (rest : Fields) (key : String) :
    Fields.get? ((k, v) :: rest) key =
      if k.same (.text key) then some v else Fields.get? rest key := by
  cases hk : k.same (.text key) <;> simp [Fields.get?, Fields.lookup?, hk]

theorem Fields.mem_of_get? {key : String} (h : Fields.get? fields key = some v) :
    (.text key, v) ∈ fields := by
  obtain ⟨⟨k, w⟩, hfind, rfl⟩ := Option.map_eq_some_iff.mp h
  obtain rfl : k = .text key := Atom.eq_of_same_text (by simpa using find?_some hfind)
  exact mem_of_find?_eq_some hfind

theorem Fields.get?_put (fields : Fields) (key : String) (value : Value) (other : String) :
    Fields.get? (Fields.put fields (.text key) value) other =
      if other = key then some value else Fields.get? fields other := by
  have htext : (Atom.text key).same (.text other) = decide (other = key) := by
    rw [Bool.eq_iff_iff, decide_eq_true_iff]
    exact beq_iff_eq.trans eq_comm
  induction fields with
  | nil =>
    rw [Fields.put, get?_cons, htext]
    simp [Fields.get?]
  | cons f rest ih =>
    obtain ⟨k, v⟩ := f
    rw [Fields.put]
    split
    · rename_i hk
      obtain rfl := Atom.eq_of_same_text hk
      rw [get?_cons, get?_cons, htext]
      by_cases hother : other = key <;> simp [hother]
    · rename_i hk
      rw [get?_cons, get?_cons, ih]
      by_cases hother : other = key
      · subst hother
        simp [hk]
      · simp [hother]

theorem Fields.get?_merge {kind : Atom → Bool} {more : Fields} (h : Json.fieldsMadeOf kind more = true)
    (fields : Fields) (key : String) :
    Fields.get? (Fields.merge fields more) key = (Fields.get? more key).or (Fields.get? fields key) := by
  induction more generalizing fields with
  | nil => rfl
  | cons f more ih =>
    obtain ⟨k, v⟩ := f
    simp only [Json.fieldsMadeOf, Bool.and_eq_true, all_eq_true, Bool.not_eq_true'] at h
    obtain ⟨⟨⟨htext, hdistinct⟩, -⟩, hmore⟩ := h
    cases k with
    | text s =>
      change Fields.get? (Fields.merge (Fields.put fields (.text s) v) more) key = _
      rw [ih hmore, get?_put, get?_cons]
      by_cases hkey : key = s
      · subst hkey
        have hnone : Fields.get? more key = none := by
          rw [Fields.get?, Fields.lookup?, find?_eq_none.mpr, Option.map_none]
          intro g hg hsame
          have hother := hdistinct g hg
          rw [Atom.eq_of_same_text hsame] at hother hsame
          exact Bool.false_ne_true (hother.symm.trans hsame)
        simp [hnone, Atom.same]
      · have hother : (Atom.text s).same (.text key) = false :=
          beq_eq_false_iff_ne.mpr (Ne.symm hkey)
        simp [hkey, hother]
    | _ => cases htext

theorem Value.mem_stringsOfItems {items : List Value} (hv : v ∈ items) (hs : s ∈ v.strings) :
    s ∈ Value.stringsOfItems items := by
  induction items with
  | nil => cases hv
  | cons w items ih =>
    rw [Value.stringsOfItems, mem_append]
    rcases mem_cons.mp hv with rfl | hv
    · exact .inl hs
    · exact .inr (ih hv)

theorem Value.mem_stringsOfFields {f : Atom × Value} (hf : f ∈ fields)
    (hs : s ∈ f.1.strings ++ f.2.strings) : s ∈ Value.stringsOfFields fields := by
  induction fields with
  | nil => cases hf
  | cons g fields ih =>
    rw [Value.stringsOfFields, mem_append]
    rcases mem_cons.mp hf with rfl | hf
    · exact .inl hs
    · exact .inr (ih hf)

end SkillKit

namespace SkillKit.Json

open Text List

variable {cs back word front : List Char} {parts texts : List String} {layout : Layout} {a : Atom}
  {c : Char} {v : Value} {s : String}

variable {ds : List Char} {xs : List String}

/-! ## Marks -/

/-- The characters that are written outside of texts, digits and line breaks apart. -/
def marks : List Char :=
  ['[', ']', '\x7b', '\x7d', ',', ':', ' ', '+', '-', '.', 'e', 'a', 'f', 'i', 'l', 'n', 'r', 's', 't',
    'u', 'y', 'I', 'N']

/-- A character that is written outside of texts. -/
def IsMark (c : Char) : Prop :=
  c.isDigit = true ∨ c ∈ marks

instance (c : Char) : Decidable (IsMark c) :=
  inferInstanceAs (Decidable (_ ∨ _))

/-- A text that is written outside of texts. -/
def Marks (cs : List Char) : Prop :=
  ∀ c ∈ cs, IsMark c

instance (cs : List Char) : Decidable (Marks cs) :=
  decidableBAll IsMark cs

@[simp] theorem marks_append (cs ds : List Char) : Marks (cs ++ ds) ↔ Marks cs ∧ Marks ds :=
  forall_mem_append

theorem IsMark.isVisible (h : IsMark c) : IsVisible c := by
  rcases h with h | h
  · have hdigit : 48 ≤ c.toNat ∧ c.toNat ≤ 57 := Char.isDigit_iff_toNat.mp h
    unfold IsVisible
    omega
  · have hall : marks.all (IsVisible ·) = true := by decide
    exact of_decide_eq_true (all_eq_true.mp hall c h)

theorem Marks.subset (h : Marks ds) (hsub : cs ⊆ ds) : Marks cs :=
  fun c hc => h c (hsub hc)

/-! ## Numbers -/

section Numbers

open Decimal

theorem marks_toDigits (n : Nat) : Marks (Nat.toDigits 10 n) :=
  fun _ h => .inl (Nat.isDigit_of_mem_toDigits (by decide) (by decide) h)

theorem marks_trimZeros (h : Marks ds) : Marks (trimZeros ds) := by
  unfold trimZeros
  split
  · decide
  · intro c hc
    exact h c (mem_reverse.mp (dropWhile_subset _ (mem_reverse.mp hc)))

theorem marks_toString (n : Nat) : Marks (toString n).toList := by
  rw [Nat.toString_eq_repr, Nat.repr_eq_ofList_toDigits, String.toList_ofList]
  exact marks_toDigits n

theorem marks_zeros (k : Nat) : Marks (replicate k '0') := by
  intro c hc
  rw [eq_of_mem_replicate hc]
  decide

theorem marks_writeDigits (n : Nat) (e : Int) : Marks (writeDigits n e).toList := by
  have hds : Marks (trimZeros (Nat.toDigits 10 n)) := marks_trimZeros (marks_toDigits n)
  have htake (k : Nat) := hds.subset (take_subset k _)
  have hdrop (k : Nat) := hds.subset (drop_subset k _)
  have hzero : Marks "0".toList := by decide
  have hpoint : Marks ".".toList := by decide
  have hstart : Marks "0.".toList := by decide
  have hsmall : Marks "e-".toList := by decide
  have hlarge : Marks "e+".toList := by decide
  have hnone : Marks "".toList := by decide
  unfold writeDigits
  dsimp only
  split_ifs <;>
    simp only [String.toList_append, String.toList_ofList, marks_append, hds, htake, hdrop,
      marks_zeros, marks_toString, hzero, hpoint, hstart, hsmall, hlarge, hnone, and_self]

theorem marks_writeFloat (x : Float) : Marks (writeFloat x).toList := by
  unfold writeFloat
  split
  · decide
  · split_ifs <;> decide
  · rename_i negative m q hparts
    have hzero : Marks "0.0".toList := by decide
    have hsign : Marks (if negative then "-" else "").toList := by cases negative <;> decide
    rw [render, hparts]
    dsimp only
    split
    · rw [String.toList_append, marks_append]
      exact ⟨hsign, hzero⟩
    · rw [String.toList_append, marks_append]
      exact ⟨hsign, marks_writeDigits _ _⟩

theorem marks_writeInt {n : Int} (h : writeInt n = .ok s) : Marks s.toList := by
  obtain rfl : toString n = s := by
    unfold writeInt at h
    dsimp only at h
    split_ifs at h <;> cases h <;> rfl
  rw [toList_toString_int]
  split
  · exact marks_toDigits _
  · exact forall_mem_cons.mpr ⟨by decide, marks_toDigits _⟩

end Numbers

/-! ## How documents are laid out -/

/-- Whether a layout is that of one line. -/
def Layout.flat : Layout → Bool
  | .line => true
  | .indented _ => false

variable {lenient flat : Bool}

/-- What is written of the given texts: each of them as a JSON string, in their order, with marks
around them, and with line breaks unless it is `flat`.  A number or word may be in quotes as well,
where it is a key, and so may anything that is shown when `lenient`. -/
inductive Laid (lenient flat : Bool) : List String → List Char → Prop
  | marks {cs : List Char} (h : Marks cs) : Laid lenient flat [] cs
  | lineBreak (h : flat = false) : Laid lenient flat [] ['\n']
  | string (s : String) : Laid lenient flat [s] (writeString s).toList
  | word {s : String} (h : lenient = false → Marks s.toList) :
    Laid lenient flat [] (writeString s).toList
  | append {xs ys : List String} {cs ds : List Char} (hcs : Laid lenient flat xs cs)
    (hds : Laid lenient flat ys ds) : Laid lenient flat (xs ++ ys) (cs ++ ds)

theorem Laid.before (hcs : Laid lenient flat xs cs) (hds : Laid lenient flat [] ds) :
    Laid lenient flat xs (cs ++ ds) := by
  have h := hcs.append hds
  rwa [append_nil] at h

theorem laid_newline (lenient : Bool) (layout : Layout) :
    Laid lenient layout.flat [] layout.newline.toList := by
  cases layout with
  | line => exact .marks (forall_mem_nil _)
  | indented depth =>
    have hspaces : Marks (repeated (2 * depth) " ").toList := by
      intro c hc
      simp only [repeated, String.toList_join, mem_flatMap, mem_replicate] at hc
      obtain ⟨_, ⟨-, rfl⟩, hc⟩ := hc
      rw [mem_singleton.mp hc]
      decide
    rw [Layout.newline, String.toList_append]
    exact (Laid.lineBreak rfl).append (.marks hspaces)

theorem laid_separator (layout : Layout) : Laid lenient layout.flat [] layout.separator.toList := by
  cases layout with
  | line => exact .marks (by decide)
  | indented depth =>
    have hcomma : Marks ",".toList := by decide
    rw [Layout.separator, String.toList_append]
    · exact (Laid.marks hcomma).append (laid_newline _ _)
    · intro h
      cases h

inductive LaidParts (lenient flat : Bool) : List String → List String → Prop
  | nil : LaidParts lenient flat [] []
  | cons {xs ys : List String} {part : String} {parts : List String}
    (hpart : Laid lenient flat xs part.toList) (hparts : LaidParts lenient flat ys parts) :
    LaidParts lenient flat (xs ++ ys) (part :: parts)

theorem LaidParts.further (h : LaidParts lenient layout.flat xs parts) :
    Laid lenient layout.flat xs (further layout parts) := by
  induction h with
  | nil => exact .marks (forall_mem_nil _)
  | cons hpart _ ih => exact ((laid_separator layout).append hpart).append ih

theorem flat_inner (layout : Layout) : layout.inner.flat = layout.flat := by
  cases layout <;> rfl

theorem LaidParts.enclose (h : LaidParts lenient layout.inner.flat xs parts) {left right : String}
    (hleft : Marks left.toList) (hright : Marks right.toList) :
    Laid lenient layout.flat xs (enclose layout left right parts).toList := by
  cases h with
  | nil =>
    rw [enclose_nil, String.toList_append]
    exact .marks ((marks_append _ _).mpr ⟨hleft, hright⟩)
  | @cons xs ys part parts hpart hparts =>
    have hback := (laid_newline lenient layout).append (.marks hright)
    have hfurther := hparts.further
    have hline := laid_newline lenient layout.inner
    rw [flat_inner] at hpart hfurther hline
    rw [toList_enclose]
    exact (Laid.marks hleft).append (hline.append (hpart.append (hfurther.before hback)))

theorem laid_writeAtom (flat : Bool) (h : writeAtom lenient a = .ok s) :
    Laid lenient flat a.strings s.toList := by
  cases a with
  | null =>
    cases h
    exact .marks (by decide)
  | bool b =>
    cases h
    exact .marks (by cases b <;> decide)
  | int n => exact .marks (marks_writeInt h)
  | float x =>
    cases h
    exact .marks (marks_writeFloat x)
  | text t =>
    cases h
    exact .string t
  | _ =>
    cases lenient with
    | false => cases h
    | true =>
      obtain rfl := Except.ok.inj h
      exact .word nofun

theorem laid_writeKey (lenient flat : Bool) (h : writeKey a = .ok s) :
    Laid lenient flat a.strings s.toList := by
  cases a with
  | null =>
    cases h
    exact .word (s := "null") fun _ => by decide
  | bool b =>
    cases h
    cases b with
    | false => exact .word (s := "false") fun _ => by decide
    | true => exact .word (s := "true") fun _ => by decide
  | int n =>
    obtain ⟨digits, hdigits, h⟩ := Result.bind_eq_ok.mp h
    cases h
    exact .word fun _ => marks_writeInt hdigits
  | float x =>
    cases h
    exact .word fun _ => marks_writeFloat x
  | text t =>
    cases h
    exact .string t
  | _ => cases h

mutual

theorem laid_writeIn (layout : Layout) : (v : Value) → {s : String} →
    writeIn lenient layout v = .ok s → Laid lenient layout.flat v.strings s.toList
  | .atom a, s, h => by
    rw [writeIn] at h
    exact laid_writeAtom _ h
  | .list items, s, h => by
    rw [writeIn] at h
    obtain ⟨parts, hparts, h⟩ := Result.bind_eq_ok.mp h
    cases h
    exact (laid_writeItems layout.inner items hparts).enclose (by decide) (by decide)
  | .pair a b, s, h => by
    rw [writeIn] at h
    obtain ⟨first, hfirst, h⟩ := Result.bind_eq_ok.mp h
    obtain ⟨second, hsecond, h⟩ := Result.bind_eq_ok.mp h
    cases h
    have hparts := LaidParts.cons (laid_writeIn layout.inner a hfirst)
      (.cons (laid_writeIn layout.inner b hsecond) .nil)
    rw [append_nil] at hparts
    exact hparts.enclose (by decide) (by decide)
  | .dict fields, s, h => by
    rw [writeIn] at h
    obtain ⟨parts, hparts, h⟩ := Result.bind_eq_ok.mp h
    cases h
    exact (laid_writeFields layout.inner fields hparts).enclose (by decide) (by decide)

theorem laid_writeItems (layout : Layout) : (items : List Value) → {parts : List String} →
    writeItems lenient layout items = .ok parts →
      LaidParts lenient layout.flat (Value.stringsOfItems items) parts
  | [], parts, h => by
    cases h
    exact .nil
  | v :: vs, parts, h => by
    rw [writeItems] at h
    obtain ⟨s, hs, h⟩ := Result.bind_eq_ok.mp h
    obtain ⟨ss, hss, h⟩ := Result.bind_eq_ok.mp h
    cases h
    exact .cons (laid_writeIn layout v hs) (laid_writeItems layout vs hss)

theorem laid_writeFields (layout : Layout) : (fields : List (Atom × Value)) →
    {parts : List String} → writeFields lenient layout fields = .ok parts →
      LaidParts lenient layout.flat (Value.stringsOfFields fields) parts
  | [], parts, h => by
    cases h
    exact .nil
  | (k, v) :: fs, parts, h => by
    rw [writeFields] at h
    obtain ⟨key, hkey, h⟩ := Result.bind_eq_ok.mp h
    obtain ⟨s, hs, h⟩ := Result.bind_eq_ok.mp h
    obtain ⟨ss, hss, h⟩ := Result.bind_eq_ok.mp h
    cases h
    have hcolon : Marks ": ".toList := by decide
    refine .cons ?_ (laid_writeFields layout fs hss)
    rw [String.toList_append, String.toList_append]
    exact ((laid_writeKey _ _ hkey).before (.marks hcolon)).append (laid_writeIn layout v hs)

end

/-! ## Characters of a document -/

theorem Laid.isVisible (h : Laid lenient flat texts cs) (hc : c ∈ cs) :
    IsVisible c ∨ c = '\n' ∧ flat = false := by
  induction h with
  | marks h => exact .inl (h c hc).isVisible
  | lineBreak h => exact .inr ⟨mem_singleton.mp hc, h⟩
  | string _ => exact .inl (isVisible_writeString hc)
  | word _ => exact .inl (isVisible_writeString hc)
  | append _ _ ihcs ihds => exact (mem_append.mp hc).elim ihcs ihds

theorem lineFeed_not_mem_write (h : write v = .ok s) : '\n' ∉ s.toList := by
  intro hmem
  rcases (laid_writeIn .line v h).isVisible hmem with h | ⟨-, h⟩
  · exact absurd h (by decide)
  · cases h

/-! ## Documents that are read back -/

/-- A document and a text in ASCII from which it is read. -/
structure ReadsBack (v : Value) (s : String) : Prop extends Reads v s where
  plain : ∀ c ∈ s.toList, IsPlain c

theorem readsBack_of_madeOf {kind : Atom → Bool} (hkind : AtomsRead lenient kind) (layout : Layout)
    (v : Value) (h : madeOf kind v = true) :
    ∃ s, writeIn lenient layout v = .ok s ∧ ReadsBack v s := by
  obtain ⟨s, hs, hreads⟩ := reads_of_madeOf hkind layout v h
  refine ⟨s, hs, hreads, fun c hc => ?_⟩
  exact ((laid_writeIn layout v hs).isVisible hc).symm.imp_left And.left

theorem writeIn_readsBack (lenient : Bool) (layout : Layout) (v : Value) (h : isJson v = true) :
    ∃ s, writeIn lenient layout v = .ok s ∧ ReadsBack v s :=
  readsBack_of_madeOf (fun _ ha => writeAtom_reads lenient ha) layout v (isJson_eq v ▸ h)

theorem ReadsBack.read_append {blanks : String} (h : ReadsBack v s)
    (hblanks : ∀ c ∈ blanks.toList, IsBlank c) : read (s ++ blanks) = .ok v := by
  have hend : Json.skip blanks.toList = [] := by
    rw [← append_nil blanks.toList, skip_blanks hblanks]
    rfl
  have hstops : Stops blanks.toList := by
    cases hcs : blanks.toList with
    | nil => simp [Stops]
    | cons c cs => exact stops_cons (.inr (.inr (.inr (hblanks c (by simp [hcs]))))) cs
  have hvalue : readValue (2 * (s.toList ++ blanks.toList).length + 1)
      (s.toList ++ blanks.toList) = .ok (v, blanks.toList) := by
    refine h.reads ?_ hstops
    rw [length_append]
    omega
  have hskip : Json.skip (s.toList ++ blanks.toList) = s.toList ++ blanks.toList :=
    h.skip blanks.toList
  obtain ⟨c, cs, hs, -, -⟩ := h.starts
  -- A text in ASCII has no byte order mark.
  have hmark : ((s.toList ++ blanks.toList).head? == some (Char.ofNat 0xfeff)) = false := by
    have hplain := h.plain c (by rw [hs]; exact mem_cons_self)
    have hne : c ≠ Char.ofNat 0xfeff := by
      rintro rfl
      rcases hplain with hplain | hplain
      · exact absurd hplain (by decide)
      · exact absurd hplain.2 (by decide)
    rw [hs, cons_append]
    simpa using hne
  have hread : readChars? (s ++ blanks).toList = .ok v := by
    rw [String.toList_append, readChars?, hmark, hskip, hvalue]
    simp only [Bool.false_eq_true, if_false, bind, Except.bind, hend]
  rw [Json.read, hread]

theorem ReadsBack.read (h : ReadsBack v s) : read s = .ok v := by
  have hnone := h.read_append (show ∀ c ∈ "".toList, IsBlank c by simp)
  rwa [String.append_empty] at hnone

theorem unifyLines_of_free (h : '\r' ∉ s.toList) : unifyLines s = s := by
  rw [unifyLines, unifyBreaks_of_free h, String.ofList_toList]

theorem ReadsBack.unifyLines (h : ReadsBack v s) : unifyLines s = s := by
  refine unifyLines_of_free fun hreturn => ?_
  rcases h.plain '\r' hreturn with h | h
  · exact absurd h (by decide)
  · exact absurd h.1 (by decide)

theorem readsBack_of_write (hv : isJson v = true) (hs : (write v).toOption = some s) :
    ReadsBack v s := by
  obtain ⟨t, ht, hreads⟩ := writeIn_readsBack false .line v hv
  rw [write, ht] at hs
  obtain rfl : t = s := Option.some.inj hs
  exact hreads

/-! ## Words in a document -/

theorem escapeChar_self (h : 0x20 ≤ c.toNat ∧ c.toNat < 0x7f) (hquote : c ≠ '"') (hback : c ≠ '\\') :
    escapeChar c = [c] := by
  have hne (d : Char) (hd : d.toNat < 0x20) : (c == d) = false := by
    rw [beq_eq_false_iff_ne]
    rintro rfl
    omega
  simp [escapeChar, hquote, hback, h.1, h.2, hne '\n' (by decide), hne '\r' (by decide),
    hne '\t' (by decide), hne '\x08' (by decide), hne '\x0c' (by decide)]

/-- A text as it stands between its quotes. -/
def escaped (s : String) : List Char :=
  s.toList.flatMap escapeChar

theorem infix_escaped (hword : ∀ c ∈ word, escapeChar c = [c]) (h : word <:+: s.toList) :
    word <:+: escaped s := by
  obtain ⟨front, back, hs⟩ := h
  have hself : word.flatMap escapeChar = word := by
    clear hs
    induction word with
    | nil => rfl
    | cons c word ih =>
      rw [List.flatMap_cons, hword c List.mem_cons_self,
        ih fun d hd => hword d (List.mem_cons_of_mem _ hd), List.singleton_append]
  rw [escaped, ← hs, List.flatMap_append, List.flatMap_append, hself]
  exact ⟨_, _, rfl⟩

theorem not_mem_escaped_of_marks (h : Marks s.toList) : 'k' ∉ escaped s := by
  intro hmem
  obtain ⟨c, hc, hk⟩ := List.mem_flatMap.mp hmem
  rcases h c hc with hdigit | hmark
  · have hrange : 0x20 ≤ c.toNat ∧ c.toNat < 0x7f := by
      have hdigit' : 48 ≤ c.toNat ∧ c.toNat ≤ 57 := Char.isDigit_iff_toNat.mp hdigit
      omega
    rw [escapeChar_self hrange (by rintro rfl; cases hdigit) (by rintro rfl; cases hdigit),
      List.mem_singleton] at hk
    exact absurd (hk ▸ hdigit) (by decide)
  · have hnone : (marks.all fun c => !(escapeChar c).contains 'k') = true := by decide +kernel
    exact absurd hk (by simpa using List.all_eq_true.mp hnone c hmark)

section Words

theorem infix_after_quote (hquote : '"' ∉ word) (hne : word ≠ []) (back : List Char) :
    word <:+: '"' :: back ↔ word <:+: back := by
  obtain ⟨w, word, rfl⟩ := List.exists_cons_of_ne_nil hne
  rw [List.infix_cons_iff, List.cons_prefix_cons]
  refine or_iff_right ?_
  rintro ⟨rfl, -⟩
  exact hquote List.mem_cons_self

theorem infix_writeString_iff (hk : 'k' ∈ word) (hquote : '"' ∉ word) (s : String)
    (hfront : 'k' ∉ front) :
    word <:+: front ++ ((writeString s).toList ++ back) ↔
      word <:+: escaped s ∨ word <:+: back := by
  have hne : word ≠ [] := ne_nil_of_mem hk
  have hseam (cs : List Char) : ∀ c ∈ ('"' :: cs).head?, c ∉ word := by
    intro c hc
    obtain rfl : '"' = c := Option.some.inj hc
    exact hquote
  have hnone : ¬ word <:+: front := fun h => hfront (h.mem hk)
  have htext : (writeString s).toList ++ back = '"' :: (escaped s ++ '"' :: back) := by
    simp [writeString, escaped]
  rw [htext, infix_append_iff hne (hseam _), infix_after_quote hquote hne,
    infix_append_iff hne (hseam _), infix_after_quote hquote hne]
  simp only [hnone, false_or]

/-- A word with a letter that no mark has stands within one of the texts.  In front of what is laid
out there may be marks that are still open, so the word has to be looked for from there on. -/
theorem Laid.infix_iff (hk : 'k' ∈ word) (hquote : '"' ∉ word)
    (h : Laid false flat texts cs) {behind : Prop} (hfront : 'k' ∉ front)
    (hback : ∀ front, 'k' ∉ front → (word <:+: front ++ back ↔ behind)) :
    word <:+: front ++ (cs ++ back) ↔ (∃ t ∈ texts, word <:+: escaped t) ∨ behind := by
  induction h generalizing front back behind with
  | @marks cs h =>
    have hcs : 'k' ∉ front ++ cs := by
      rw [List.mem_append, not_or]
      exact ⟨hfront, fun hmem => absurd (h _ hmem) (by decide)⟩
    rw [← List.append_assoc, hback _ hcs]
    simp
  | lineBreak _ =>
    have hbreak : 'k' ∉ front ++ ['\n'] := by simp [hfront]
    rw [← List.append_assoc, hback _ hbreak]
    simp
  | string s =>
    have hbehind : word <:+: back ↔ behind := hback [] List.not_mem_nil
    simp [infix_writeString_iff hk hquote s hfront, hbehind]
  | @word s h =>
    have hbehind : word <:+: back ↔ behind := hback [] List.not_mem_nil
    have hnone : ¬ word <:+: escaped s := fun hin => not_mem_escaped_of_marks (h rfl) (hin.mem hk)
    simp [infix_writeString_iff hk hquote s hfront, hbehind, hnone]
  | @append xs ys cs ds _ _ ihcs ihds =>
    rw [List.append_assoc, ihcs hfront fun front hfront => ihds hfront hback, ← or_assoc]
    simp only [List.mem_append, or_and_right, exists_or]

/-- A word stands in a written document exactly if it stands in one of its texts, as it is escaped. -/
theorem infix_writeIn_iff (hk : 'k' ∈ word) (hquote : '"' ∉ word)
    (h : writeIn false layout v = .ok s) :
    word <:+: s.toList ↔ ∃ t ∈ v.strings, word <:+: escaped t := by
  have hend (front : List Char) (hfront : 'k' ∉ front) : word <:+: front ++ [] ↔ False := by
    rw [append_nil, iff_false]
    exact fun hin => hfront (hin.mem hk)
  have hlaid := (laid_writeIn layout v h).infix_iff hk hquote not_mem_nil hend
  simpa using hlaid

end Words

end SkillKit.Json
