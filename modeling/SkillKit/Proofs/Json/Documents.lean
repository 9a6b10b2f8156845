import SkillKit.Proofs.Json.Atoms
import SkillKit.Proofs.Text.Lines

/-!
# Documents through JSON

A document of null, truth values, integers with no more digits than are taken, texts, lists and
mappings with texts as keys is read as it was written, with the order of its fields
(`writeIn_reads`).  `Reads v s` says this of one document and one text.
-/

namespace SkillKit.Json

open Text
open List hiding contains dropPrefix?

variable {f : Atom × Value} {kind : Atom → Bool} {value : Value} {lenient : Bool}

variable {c : Char} {cs blanks : List Char} {v : Value} {s : String} {parts : List String}
  {items : List Value} {fields : Fields} {key : Atom} {layout : Layout} {fuel : Nat}

/-! ## Documents that JSON holds -/

def atomIsJson : Atom → Bool
  | .null => true
  | .bool _ => true
  | .int n => n.natAbs < 10 ^ maxDigits
  | .text _ => true
  | _ => false

def isTextKey : Atom → Bool
  | .text _ => true
  | _ => false

mutual

/-- Whether JSON holds a document. -/
def isJson : Value → Bool
  | .atom a => atomIsJson a
  | .list items => areJson items
  | .pair _ _ => false
  | .dict fields => fieldsAreJson fields

def areJson : List Value → Bool
  | [] => true
  | v :: vs => isJson v && areJson vs

/-- Whether JSON holds the fields of a mapping: their keys are texts and differ. -/
def fieldsAreJson : List (Atom × Value) → Bool
  | [] => true
  | (k, v) :: fs => isTextKey k && fs.all (!k.same ·.1) && isJson v && fieldsAreJson fs

end

mutual

/-- Whether a document is put together from atoms of a kind by lists and by mappings that JSON has. -/
def madeOf (kind : Atom → Bool) : Value → Bool
  | .atom a => kind a
  | .list items => allMadeOf kind items
  | .pair _ _ => false
  | .dict fields => fieldsMadeOf kind fields

def allMadeOf (kind : Atom → Bool) : List Value → Bool
  | [] => true
  | v :: vs => madeOf kind v && allMadeOf kind vs

def fieldsMadeOf (kind : Atom → Bool) : List (Atom × Value) → Bool
  | [] => true
  | (k, v) :: fs =>
    isTextKey k && fs.all (!k.same ·.1) && madeOf kind v && fieldsMadeOf kind fs

end

mutual

theorem isJson_eq : (v : Value) → isJson v = madeOf atomIsJson v
  | .atom _ => rfl
  | .list items => areJson_eq items
  | .pair _ _ => rfl
  | .dict fields => fieldsAreJson_eq fields

theorem areJson_eq : (items : List Value) → areJson items = allMadeOf atomIsJson items
  | [] => rfl
  | v :: vs => by rw [areJson, allMadeOf, isJson_eq v, areJson_eq vs]

theorem fieldsAreJson_eq :
    (fields : List (Atom × Value)) → fieldsAreJson fields = fieldsMadeOf atomIsJson fields
  | [] => rfl
  | (k, v) :: fs => by rw [fieldsAreJson, fieldsMadeOf, isJson_eq v, fieldsAreJson_eq fs]

end

/-! ## Blanks between the parts -/

def IsBlank (c : Char) : Prop := c = '\n' ∨ c = ' '

theorem IsBlank.isSpace (h : IsBlank c) : isSpace c = true := by
  rcases h with rfl | rfl <;> rfl

theorem skip_of_not_space (h : isSpace c = false) (cs : List Char) : skip (c :: cs) = c :: cs := by
  simp [skip, h]

theorem skip_blanks (h : ∀ c ∈ blanks, IsBlank c) (cs : List Char) :
    skip (blanks ++ cs) = skip cs :=
  dropWhile_append_of_pos fun c hc => (h c hc).isSpace

theorem stops_cons (h : c = ',' ∨ c = ']' ∨ c = '\x7d' ∨ IsBlank c) (cs : List Char) :
    Stops (c :: cs) := by
  intro d hd
  obtain rfl : c = d := Option.some.inj hd
  rcases h with rfl | rfl | rfl | rfl | rfl <;> decide

theorem stops_blanks (h : ∀ c ∈ blanks, IsBlank c) (hc : c = ']' ∨ c = '\x7d') (cs : List Char) :
    Stops (blanks ++ c :: cs) := by
  cases blanks with
  | nil => exact stops_cons (.inr (hc.imp_right .inl)) cs
  | cons b blanks => exact stops_cons (.inr (.inr (.inr (h b mem_cons_self)))) _

theorem isBlank_newline (layout : Layout) : ∀ c ∈ layout.newline.toList, IsBlank c := by
  intro c hc
  cases layout with
  | line => simp [Layout.newline] at hc
  | indented depth =>
    simp only [Layout.newline, repeated, String.toList_append, String.toList_join,
      mem_append, mem_flatMap, mem_replicate] at hc
    rcases hc with hc | ⟨_, ⟨-, rfl⟩, hc⟩
    · exact .inl (mem_singleton.mp hc)
    · exact .inr (mem_singleton.mp hc)

theorem separator_eq (layout : Layout) :
    ∃ blanks, layout.separator.toList = ',' :: blanks ∧ ∀ c ∈ blanks, IsBlank c := by
  cases layout with
  | line => exact ⟨[' '], rfl, by simp [IsBlank]⟩
  | indented depth =>
    refine ⟨(Layout.indented depth).newline.toList, ?_, isBlank_newline _⟩
    simp [Layout.separator]

theorem toList_intercalate (separator part : String) (parts : List String) :
    (separator.intercalate (part :: parts)).toList =
      part.toList ++ parts.flatMap fun p => separator.toList ++ p.toList := by
  induction parts generalizing part with
  | nil => simp
  | cons p parts ih =>
    rw [String.intercalate_cons_cons, String.toList_append, ih]
    simp

theorem enclose_nil (layout : Layout) (left right : String) :
    enclose layout left right [] = left ++ right := by
  simp [enclose]

theorem toList_enclose (layout : Layout) (left right part : String) (parts : List String) :
    (enclose layout left right (part :: parts)).toList =
      left.toList ++ (layout.inner.newline.toList ++ (part.toList ++
        ((parts.flatMap fun p => layout.inner.separator.toList ++ p.toList) ++
          (layout.newline.toList ++ right.toList)))) := by
  simp only [enclose, isEmpty_cons, Bool.false_eq_true, if_false, String.toList_append,
    toList_intercalate, append_assoc]

theorem exists_enclose (layout : Layout) (left right : String) (parts : List String) :
    ∃ inner, (enclose layout left right parts).toList = left.toList ++ (inner ++ right.toList) := by
  cases parts with
  | nil => exact ⟨[], by rw [enclose_nil, String.toList_append, nil_append]⟩
  | cons part parts =>
    rw [toList_enclose]
    exact ⟨layout.inner.newline.toList ++ (part.toList ++
      ((parts.flatMap fun p => layout.inner.separator.toList ++ p.toList) ++
        layout.newline.toList)), by simp only [append_assoc]⟩

/-! ## Atoms -/

/-- A document and a text from which it is read, whatever stands behind the text, as long as it does
not go on with a number. -/
structure Reads (v : Value) (s : String) : Prop where
  starts : ∃ c cs, s.toList = c :: cs ∧ isSpace c = false ∧ c ≠ ']'
  reads : ∀ {fuel : Nat} {rest : List Char}, 2 * s.toList.length ≤ fuel → Stops rest →
    readValue fuel (s.toList ++ rest) = .ok (v, rest)

theorem Reads.of_readAtom (hs : s.toList = c :: cs) (hspace : isSpace c = false)
    (hlist : c ≠ ']') (hopen : c ≠ '[') (hbrace : c ≠ '\x7b')
    (hread : ∀ rest, Stops rest → readAtom (s.toList ++ rest) = .ok (v, rest)) : Reads v s where
  starts := ⟨c, cs, hs, hspace, hlist⟩
  reads := by
    intro fuel rest hfuel hrest
    rw [hs, length_cons] at hfuel
    obtain ⟨fuel, rfl⟩ := Nat.exists_eq_succ_of_ne_zero (show fuel ≠ 0 by omega)
    rw [← hread rest hrest, hs, readValue]
    · exact fun _ h => hopen (cons.inj h).1
    · exact fun _ h => hbrace (cons.inj h).1

theorem reads_text (s : String) : Reads (.text s) (writeString s) := by
  have hs : (writeString s).toList = '"' :: (s.toList.flatMap escapeChar ++ ['"']) := by
    rw [writeString, String.toList_ofList]
  refine .of_readAtom hs rfl (by decide) (by decide) (by decide) fun rest _ => ?_
  rw [hs, cons_append, append_assoc, singleton_append, readAtom, readString_written]
  rfl

theorem isSpace_of_isDigit (h : c.isDigit = true) : isSpace c = false := by
  unfold isSpace
  simp only [Bool.or_eq_false_iff, beq_eq_false_iff_ne]
  refine ⟨⟨⟨?_, ?_⟩, ?_⟩, ?_⟩
  all_goals
    rintro rfl
    cases h

theorem dropPrefix?_of_ne {p : Char} (h : p ≠ c) (ps cs : List Char) :
    dropPrefix? (p :: ps) (c :: cs) = none := by
  simp [dropPrefix?, h]

theorem readAtom_digit (hc : c.isDigit = true) (cs : List Char) :
    readAtom (c :: cs) = readNumber (c :: cs).length false (c :: cs) ∧
      readAtom ('-' :: c :: cs) = readNumber ('-' :: c :: cs).length true (c :: cs) := by
  have hne : ∀ d : Char, d.isDigit = false → d ≠ c := by
    rintro d hd rfl
    exact absurd hc (by simp [hd])
  -- No word that is read as an atom starts with a digit.
  have hword : ∀ (d : Char) (ds : List Char), d.isDigit = false →
      dropPrefix? (d :: ds) (c :: cs) = none :=
    fun d ds hd => dropPrefix?_of_ne (hne d hd) ds _
  constructor
  · rw [readAtom]
    · have hnull : dropPrefix? "null".toList (c :: cs) = none := hword 'n' _ rfl
      have htrue : dropPrefix? "true".toList (c :: cs) = none := hword 't' _ rfl
      have hfalse : dropPrefix? "false".toList (c :: cs) = none := hword 'f' _ rfl
      have hnan : dropPrefix? "NaN".toList (c :: cs) = none := hword 'N' _ rfl
      have hinf : dropPrefix? "Infinity".toList (c :: cs) = none := hword 'I' _ rfl
      simp only [hnull, htrue, hfalse, hnan, hinf]
    · exact fun _ h => hne '"' rfl (cons.inj h).1.symm
    · exact fun _ h => hne '-' rfl (cons.inj h).1.symm
  · have hinf : dropPrefix? "-Infinity".toList ('-' :: c :: cs) = none := hword 'I' _ rfl
    rw [readAtom]
    simp only [hinf]

theorem Reads.of_readNumber (negative : Bool)
    (hs : s.toList = if negative then '-' :: c :: cs else c :: cs) (hc : c.isDigit = true)
    (hread : ∀ start rest, Stops rest →
      readNumber start negative (c :: cs ++ rest) = .ok (v, rest)) : Reads v s := by
  cases negative with
  | true =>
    refine .of_readAtom hs rfl (by decide) (by decide) (by decide) fun rest hrest => ?_
    rw [hs, if_pos rfl, cons_append, cons_append, (readAtom_digit hc _).2]
    exact hread _ rest hrest
  | false =>
    refine .of_readAtom hs (isSpace_of_isDigit hc) ?_ ?_ ?_ fun rest hrest => ?_
    · rintro rfl
      cases hc
    · rintro rfl
      cases hc
    · rintro rfl
      cases hc
    · rw [hs, if_neg Bool.false_ne_true, cons_append, (readAtom_digit hc _).1]
      exact hread _ rest hrest

theorem toList_toString_int (n : Int) : (toString n).toList =
    if 0 ≤ n then Nat.toDigits 10 n.natAbs else '-' :: Nat.toDigits 10 n.natAbs := by
  rw [Int.toString_eq_repr, Int.repr_eq_if]
  split
  · rw [Nat.repr_eq_ofList_toDigits, String.toList_ofList, show n.toNat = n.natAbs by omega]
  · rw [show (-n).toNat = n.natAbs by omega]
    simp

theorem writeInt_reads {n : Int} (hn : n.natAbs < 10 ^ maxDigits) :
    ∃ s, writeInt n = .ok s ∧ Reads (.int n) s := by
  have hlength : (Nat.toDigits 10 n.natAbs).length ≤ maxDigits :=
    (Nat.length_toDigits_le_iff (by decide) (by decide)).mpr hn
  have hdigit : ∀ c ∈ Nat.toDigits 10 n.natAbs, c.isDigit = true :=
    fun c hc => Nat.isDigit_of_mem_toDigits (by decide) (by decide) hc
  have htext := toList_toString_int n
  have hvalue : (if decide (n < 0) then -(n.natAbs : Int) else n.natAbs) = n := by
    split <;> rename_i h <;> rw [decide_eq_true_eq] at h <;> omega
  have hread := fun start rest (hrest : Stops rest) =>
    readNumber_written start (decide (n < 0)) hn hrest
  rw [hvalue] at hread
  refine ⟨toString n, ?_, ?_⟩
  · rw [writeInt, if_neg]
    rw [← String.length_toList, htext]
    by_cases hsign : 0 ≤ n
    · rw [if_pos hsign]
      omega
    · rw [if_neg hsign, if_pos (Int.not_le.mp hsign), length_cons]
      omega
  · obtain ⟨c, cs, hcs⟩ :=
      exists_cons_of_ne_nil (Nat.toDigits_ne_nil (n := n.natAbs) (b := 10))
    rw [hcs] at htext hread
    refine .of_readNumber (decide (n < 0)) ?_ (hdigit c (hcs ▸ mem_cons_self)) hread
    rw [htext]
    by_cases h : 0 ≤ n
    · rw [if_pos h, if_neg (by simpa using h)]
    · rw [if_neg h, if_pos (by simpa using h)]

theorem writeAtom_reads (lenient : Bool) {a : Atom} (h : atomIsJson a = true) :
    ∃ s, writeAtom lenient a = .ok s ∧ Reads (.atom a) s := by
  cases a with
  | null =>
    exact ⟨"null", rfl, .of_readAtom rfl rfl (by decide) (by decide) (by decide) fun _ _ => rfl⟩
  | bool b =>
    cases b with
    | true =>
      exact ⟨"true", rfl,
        .of_readAtom rfl rfl (by decide) (by decide) (by decide) fun _ _ => rfl⟩
    | false =>
      exact ⟨"false", rfl,
        .of_readAtom rfl rfl (by decide) (by decide) (by decide) fun _ _ => rfl⟩
  | int n => exact writeInt_reads (by simpa [atomIsJson] using h)
  | text s => exact ⟨writeString s, rfl, reads_text s⟩
  | float _ => cases h
  | bytes _ => cases h
  | date _ => cases h
  | stamp _ => cases h
  | set _ => cases h
  | listAgain => cases h
  | dictAgain => cases h

/-! ## Lists -/

theorem Reads.skip (h : Reads v s) (rest : List Char) :
    skip (s.toList ++ rest) = s.toList ++ rest := by
  obtain ⟨c, cs, hs, hspace, -⟩ := h.starts
  rw [hs, cons_append, skip_of_not_space hspace]

/-- Further parts, each behind a separator. -/
def further (layout : Layout) (parts : List String) : List Char :=
  parts.flatMap fun p => layout.separator.toList ++ p.toList

theorem further_cons (layout : Layout) (part : String) (parts : List String) :
    ∃ spaces, (∀ c ∈ spaces, IsBlank c) ∧ further layout (part :: parts) =
      ',' :: (spaces ++ (part.toList ++ further layout parts)) := by
  obtain ⟨spaces, hsep, hspaces⟩ := separator_eq layout
  exact ⟨spaces, hspaces, by simp [further, hsep]⟩

theorem skip_close (hblanks : ∀ c ∈ blanks, IsBlank c) (hc : isSpace c = false) (rest : List Char) :
    skip (blanks ++ c :: rest) = c :: rest := by
  rw [skip_blanks hblanks, skip_of_not_space hc]

theorem readItems_written (hblanks : ∀ c ∈ blanks, IsBlank c) {vs : List Value} {ss : List String}
    (hv : Reads v s) (hvs : Forall₂ Reads vs ss)
    (hfuel : 2 * (s.toList.length + (further layout ss).length) + 1 ≤ fuel) (rest : List Char) :
    readItems fuel (s.toList ++ (further layout ss ++ (blanks ++ ']' :: rest))) =
      .ok (v :: vs, rest) := by
  obtain ⟨fuel, rfl⟩ := Nat.exists_eq_succ_of_ne_zero (Nat.ne_zero_of_lt hfuel)
  induction hvs generalizing v s fuel with
  | nil =>
    have hread := hv.reads (Nat.le_of_succ_le_succ hfuel) (stops_blanks hblanks (.inl rfl) rest)
    change readItems (fuel + 1) (s.toList ++ (blanks ++ ']' :: rest)) = _
    rw [readItems, hread]
    simp only [bind, Except.bind, skip_close hblanks (show isSpace ']' = false from rfl)]
  | @cons w part vs ss hw _ ih =>
    obtain ⟨spaces, hspaces, hfurther⟩ := further_cons layout part ss
    rw [hfurther, length_cons, length_append, length_append] at hfuel
    -- The fuel is twice the length, so the separator in front of an item pays for the step to it.
    obtain ⟨fuel, rfl⟩ := Nat.exists_eq_succ_of_ne_zero (show fuel ≠ 0 by omega)
    have hitems := ih hw fuel (by omega)
    rw [hfurther]
    simp only [cons_append, append_assoc]
    rw [readItems, hv.reads (by omega) (stops_cons (.inl rfl) _)]
    simp only [bind, Except.bind, skip_of_not_space (show isSpace ',' = false from rfl),
      skip_blanks hspaces, hw.skip, hitems]

/-- Parts between two brackets are read, if they are when the first bracket has been seen. -/
theorem Reads.of_enclose (layout : Layout) {left right : String} {l r : Char}
    (hleft : left.toList = [l]) (hright : right.toList = [r])
    (hl : isSpace l = false ∧ l ≠ ']')
    (hempty : parts = [] → ∀ fuel rest, readValue (fuel + 1) (l :: r :: rest) = .ok (v, rest))
    (hread : ∀ part others, parts = part :: others → ∀ fuel rest,
      2 * (part.toList.length + (further layout.inner others).length) + 1 ≤ fuel →
      readValue (fuel + 1) (l :: (layout.inner.newline.toList ++ (part.toList ++
        (further layout.inner others ++ (layout.newline.toList ++ r :: rest))))) = .ok (v, rest)) :
    Reads v (enclose layout left right parts) := by
  cases parts with
  | nil =>
    have htext : (enclose layout left right []).toList = [l, r] := by simp [enclose_nil, hleft, hright]
    refine ⟨⟨l, [r], htext, hl.1, hl.2⟩, fun {fuel rest} hfuel _ => ?_⟩
    rw [htext] at hfuel ⊢
    obtain ⟨fuel, rfl⟩ := Nat.exists_eq_succ_of_ne_zero (Nat.ne_zero_of_lt hfuel)
    exact hempty rfl fuel rest
  | cons part others =>
    have htext : (enclose layout left right (part :: others)).toList =
        l :: (layout.inner.newline.toList ++ (part.toList ++ (further layout.inner others ++
          (layout.newline.toList ++ [r])))) := by
      rw [toList_enclose, hleft, hright]
      rfl
    refine ⟨⟨l, _, htext, hl.1, hl.2⟩, fun {fuel rest} hfuel _ => ?_⟩
    rw [htext] at hfuel ⊢
    obtain ⟨fuel, rfl⟩ := Nat.exists_eq_succ_of_ne_zero (Nat.ne_zero_of_lt hfuel)
    simp only [length_cons, length_append] at hfuel
    simpa using hread part others rfl fuel rest (by omega)

theorem reads_list (layout : Layout) (h : Forall₂ Reads items parts) :
    Reads (.list items) (enclose layout "[" "]" parts) := by
  refine .of_enclose (l := '[') (r := ']') layout rfl rfl ⟨rfl, by decide⟩ ?_ ?_
  · rintro rfl fuel rest
    cases h
    rfl
  · rintro s ss rfl fuel rest hfuel
    obtain ⟨v, vs, hv, hvs, rfl⟩ := forall₂_cons_right_iff.mp h
    have hitems := readItems_written (isBlank_newline layout) hv hvs hfuel rest
    rw [readValue, skip_blanks (isBlank_newline _), hv.skip]
    obtain ⟨c, cs, hs, -, hc⟩ := hv.starts
    rw [hs] at hitems ⊢
    split
    · rename_i hclose
      exact absurd (cons.inj hclose).1 hc
    · rw [hitems]
      rfl

/-! ## Mappings -/

/-- A field with a text as its key, and what is written for it. -/
def FieldReads (f : Atom × Value) (part : String) : Prop :=
  ∃ key s, f.1 = .text key ∧ part = writeString key ++ ": " ++ s ∧ Reads f.2 s

theorem put_of_not_has (h : Fields.has fields key = false) (value : Value) :
    Fields.put fields key value = fields ++ [(key, value)] := by
  induction fields with
  | nil => rfl
  | cons f rest ih =>
    rw [Fields.has, any_cons, Bool.or_eq_false_iff] at h
    rw [Fields.put, if_neg (by simp [h.1]), ih h.2, cons_append]

theorem erase_of_not_has (h : Fields.has fields key = false) :
    Fields.erase fields key = fields := by
  refine filter_eq_self.mpr fun f hf => ?_
  rw [Bool.not_eq_true', ← Bool.not_eq_true]
  exact fun hsame => Bool.false_ne_true (h.symm.trans (any_eq_true.mpr ⟨f, hf, hsame⟩))

theorem has_append (fields more : Fields) (key : Atom) :
    Fields.has (fields ++ more) key = (Fields.has fields key || Fields.has more key) :=
  any_append

theorem readFields_field (key : String) (hv : Reads v s) (before : Fields)
    (hfuel : 2 * s.toList.length ≤ fuel) {behind : List Char} (hbehind : Stops behind)
    (rest : List Char) :
    (skip behind = '\x7d' :: rest →
      readFields (fuel + 1) before ((writeString key ++ ": " ++ s).toList ++ behind) =
        .ok (Fields.put before (.text key) v, rest)) ∧
    (skip behind = ',' :: rest →
      readFields (fuel + 1) before ((writeString key ++ ": " ++ s).toList ++ behind) =
        readFields fuel (Fields.put before (.text key) v) (skip rest)) := by
  have htext : (writeString key ++ ": " ++ s).toList ++ behind =
      '"' :: (key.toList.flatMap escapeChar ++ '"' :: ':' :: ' ' :: (s.toList ++ behind)) := by
    simp [writeString]
  have hskip : skip (' ' :: (s.toList ++ behind)) = s.toList ++ behind := by
    rw [show ' ' :: (s.toList ++ behind) = [' '] ++ (s.toList ++ behind) from rfl,
      skip_blanks (by simp [IsBlank]), hv.skip]
  rw [htext, readFields, readString_written]
  simp only [bind, Except.bind, skip_of_not_space (show isSpace ':' = false from rfl), hskip,
    hv.reads hfuel hbehind]
  constructor
  · intro h
    simp only [h]
  · intro h
    simp only [h]

theorem readFields_written (hblanks : ∀ c ∈ blanks, IsBlank c) {fs : Fields} {part : String}
    (hf : FieldReads f part) (hfs : Forall₂ FieldReads fs parts) {before : Fields}
    (hnew : ∀ g ∈ f :: fs, Fields.has before g.1 = false)
    (hdistinct : (f :: fs).Pairwise fun g h => g.1.same h.1 = false)
    (hfuel : 2 * (part.toList.length + (further layout parts).length) + 1 ≤ fuel) (rest : List Char) :
    readFields fuel before (part.toList ++ (further layout parts ++ (blanks ++ '\x7d' :: rest))) =
      .ok (before ++ f :: fs, rest) := by
  obtain ⟨fuel, rfl⟩ := Nat.exists_eq_succ_of_ne_zero (Nat.ne_zero_of_lt hfuel)
  induction hfs generalizing f part before fuel with
  | nil =>
    obtain ⟨key, s, hkey, rfl, hv⟩ := hf
    simp only [String.toList_append, length_append] at hfuel
    rw [← put_of_not_has (hnew f mem_cons_self), hkey]
    exact (readFields_field key hv before (by omega) (stops_blanks hblanks (.inr rfl) rest) rest).1
      (skip_close hblanks rfl rest)
  | @cons g next fs parts hg _ ih =>
    obtain ⟨key, s, hkey, rfl, hv⟩ := hf
    obtain ⟨spaces, hspaces, hfurther⟩ := further_cons layout next parts
    rw [hfurther] at hfuel ⊢
    simp only [String.toList_append, length_cons, length_append] at hfuel
    obtain ⟨fuel, rfl⟩ := Nat.exists_eq_succ_of_ne_zero (show fuel ≠ 0 by omega)
    have hskip (behind : List Char) :
        skip (spaces ++ (next.toList ++ behind)) = next.toList ++ behind := by
      obtain ⟨key', s', -, rfl, -⟩ := hg
      rw [skip_blanks hspaces]
      simp [writeString, skip_of_not_space (show isSpace '"' = false from rfl)]
    -- The keys behind this one are new to the fields that it is added to.
    have hnew' : ∀ h ∈ g :: fs, Fields.has (before ++ [f]) h.1 = false := by
      intro h hh
      rw [has_append, hnew h (mem_cons_of_mem _ hh)]
      simp [Fields.has, rel_of_pairwise_cons hdistinct hh]
    have hothers := ih hg hnew' hdistinct.of_cons fuel (by omega)
    rw [append_assoc, singleton_append, ← put_of_not_has (hnew f mem_cons_self),
      hkey] at hothers
    simp only [cons_append, append_assoc]
    refine ((readFields_field key hv before ?_ (stops_cons (.inl rfl) _) _).2
      (skip_of_not_space rfl _)).trans ?_
    · omega
    · rw [hskip, hothers]

theorem reads_dict (layout : Layout) (h : Forall₂ FieldReads fields parts)
    (hdistinct : fields.Pairwise fun f g => f.1.same g.1 = false) :
    Reads (.dict fields) (enclose layout "\x7b" "\x7d" parts) := by
  refine .of_enclose (l := '\x7b') (r := '\x7d') layout rfl rfl ⟨rfl, by decide⟩ ?_ ?_
  · rintro rfl fuel rest
    cases h
    rfl
  · rintro part parts rfl fuel rest hfuel
    obtain ⟨f, fs, hf, hfs, rfl⟩ := forall₂_cons_right_iff.mp h
    have hfields : readFields fuel [] _ = .ok (f :: fs, rest) :=
      readFields_written (isBlank_newline layout) hf hfs (fun _ _ => rfl) hdistinct hfuel rest
    obtain ⟨cs, hcs⟩ : ∃ cs, part.toList = '"' :: cs := by
      obtain ⟨key, s, -, rfl, -⟩ := hf
      exact ⟨_, by simp [writeString]; rfl⟩
    rw [hcs, cons_append] at hfields ⊢
    rw [readValue, skip_blanks (isBlank_newline _), skip_of_not_space rfl]
    split
    · rename_i hclose
      exact absurd (cons.inj hclose).1 (by decide)
    · rw [hfields]
      rfl

/-! ## Documents -/

theorem fieldsMadeOf_iff :
    fieldsMadeOf kind fields = true ↔ (fields.Pairwise fun f g => f.1.same g.1 = false) ∧
      ∀ f ∈ fields, isTextKey f.1 = true ∧ madeOf kind f.2 = true := by
  induction fields with
  | nil => simp [fieldsMadeOf]
  | cons f fs ih =>
    simp only [fieldsMadeOf, Bool.and_eq_true, all_eq_true, Bool.not_eq_true',
      pairwise_cons, forall_mem_cons]
    tauto

theorem nodup_keys (h : fieldsMadeOf kind fields = true) : (fields.map (·.1)).Nodup := by
  obtain ⟨hdistinct, htext⟩ := fieldsMadeOf_iff.mp h
  refine pairwise_map.mpr (hdistinct.imp_of_mem fun {f g} hf _ hsame hkey => ?_)
  rw [← hkey] at hsame
  cases hatom : f.1 with
  | text s => simp [hatom, Atom.same] at hsame
  | _ => simpa [hatom, isTextKey] using (htext f hf).1

def AtomsRead (lenient : Bool) (kind : Atom → Bool) : Prop :=
  ∀ a, kind a = true → ∃ s, writeAtom lenient a = .ok s ∧ Reads (.atom a) s

theorem mem_put (h : f ∈ Fields.put fields key value) :
    f ∈ fields ∨ f.2 = value ∧ (f.1 = key ∨ ∃ g ∈ fields, g.1 = f.1) := by
  induction fields with
  | nil =>
    rw [Fields.put, mem_singleton] at h
    exact .inr (h ▸ ⟨rfl, .inl rfl⟩)
  | cons g rest ih =>
    rw [Fields.put] at h
    split at h
    · rcases mem_cons.mp h with rfl | h
      · exact .inr ⟨rfl, .inr ⟨g, mem_cons_self, rfl⟩⟩
      · exact .inl (mem_cons_of_mem _ h)
    · rcases mem_cons.mp h with rfl | h
      · exact .inl mem_cons_self
      · exact (ih h).imp (mem_cons_of_mem _) fun ⟨hvalue, hkey⟩ =>
          ⟨hvalue, hkey.imp id fun ⟨g', hg', hf⟩ => ⟨g', mem_cons_of_mem _ hg', hf⟩⟩

theorem fieldsMadeOf_put (h : fieldsMadeOf kind fields = true) (key : String)
    (hvalue : madeOf kind value = true) :
    fieldsMadeOf kind (Fields.put fields (.text key) value) = true := by
  induction fields with
  | nil => simp [Fields.put, fieldsMadeOf, isTextKey, hvalue]
  | cons f rest ih =>
    simp only [fieldsMadeOf, Bool.and_eq_true, all_eq_true, Bool.not_eq_true'] at h
    obtain ⟨⟨⟨htext, hdistinct⟩, hv⟩, hrest⟩ := h
    rw [Fields.put]
    split
    · simp only [fieldsMadeOf, Bool.and_eq_true, all_eq_true, Bool.not_eq_true']
      exact ⟨⟨⟨htext, hdistinct⟩, hvalue⟩, hrest⟩
    · rename_i hother
      simp only [fieldsMadeOf, Bool.and_eq_true, all_eq_true, Bool.not_eq_true']
      refine ⟨⟨⟨htext, fun g hg => ?_⟩, hv⟩, ih hrest⟩
      rcases mem_put hg with hg | ⟨-, hkey | ⟨g', hg', hkey⟩⟩
      · exact hdistinct g hg
      · rw [hkey]
        exact Bool.not_eq_true _ ▸ hother
      · rw [← hkey]
        exact hdistinct g' hg'

section Kinds

mutual

theorem reads_of_madeOf (hkind : AtomsRead lenient kind) (layout : Layout) :
    (v : Value) → madeOf kind v = true → ∃ s, writeIn lenient layout v = .ok s ∧ Reads v s
  | .atom a, h => by
    rw [writeIn]
    exact hkind a h
  | .list items, h => by
    obtain ⟨parts, hparts, hreads⟩ := reads_of_allMadeOf hkind layout.inner items h
    refine ⟨_, ?_, reads_list layout hreads⟩
    rw [writeIn, hparts]
    rfl
  | .pair _ _, h => by cases h
  | .dict fields, h => by
    obtain ⟨parts, hparts, hreads⟩ := reads_of_fieldsMadeOf hkind layout.inner fields h
    refine ⟨_, ?_, reads_dict layout hreads (fieldsMadeOf_iff.mp h).1⟩
    rw [writeIn, hparts]
    rfl

theorem reads_of_allMadeOf (hkind : AtomsRead lenient kind) (layout : Layout) :
    (items : List Value) → allMadeOf kind items = true →
      ∃ parts, writeItems lenient layout items = .ok parts ∧ Forall₂ Reads items parts
  | [], _ => ⟨[], rfl, .nil⟩
  | v :: vs, h => by
    rw [allMadeOf, Bool.and_eq_true] at h
    obtain ⟨s, hs, hv⟩ := reads_of_madeOf hkind layout v h.1
    obtain ⟨ss, hss, hvs⟩ := reads_of_allMadeOf hkind layout vs h.2
    refine ⟨s :: ss, ?_, .cons hv hvs⟩
    rw [writeItems, hs, hss]
    rfl

theorem reads_of_fieldsMadeOf (hkind : AtomsRead lenient kind) (layout : Layout) :
    (fields : List (Atom × Value)) → fieldsMadeOf kind fields = true →
      ∃ parts, writeFields lenient layout fields = .ok parts ∧
        Forall₂ FieldReads fields parts
  | [], _ => ⟨[], rfl, .nil⟩
  | (k, v) :: fs, h => by
    simp only [fieldsMadeOf, Bool.and_eq_true] at h
    obtain ⟨⟨⟨hkey, -⟩, hv⟩, hfs⟩ := h
    obtain ⟨s, hs, hv⟩ := reads_of_madeOf hkind layout v hv
    obtain ⟨ss, hss, hfs⟩ := reads_of_fieldsMadeOf hkind layout fs hfs
    cases k with
    | text key =>
      refine ⟨(writeString key ++ ": " ++ s) :: ss, ?_, .cons ⟨key, s, rfl, rfl, hv⟩ hfs⟩
      rw [writeFields, hs, hss]
      rfl
    | _ => cases hkey

end

end Kinds

theorem writeIn_reads (lenient : Bool) (layout : Layout) (v : Value) (h : isJson v = true) :
    ∃ s, writeIn lenient layout v = .ok s ∧ Reads v s :=
  reads_of_madeOf (fun _ ha => writeAtom_reads lenient ha) layout v (isJson_eq v ▸ h)

/-! ## Documents that are not written -/

theorem writeInt_of_le {n : Nat} (h : 10 ^ maxDigits ≤ n) : writeInt n = .error .unusable := by
  have hlong : maxDigits < (Nat.toDigits 10 n).length := by
    rw [← Nat.not_le, Nat.length_toDigits_le_iff (by decide) (by decide)]
    exact Nat.not_lt.mpr h
  have htext := toList_toString_int n
  rw [writeInt, if_pos]
  rw [← String.length_toList, htext]
  exact hlong

theorem writeFields_put_error {f : Fault} (hv : writeIn lenient layout v = .error f) (key : String)
    (hfields : fieldsAreJson fields = true) :
    writeFields lenient layout (Fields.put fields (.text key) v) = .error f := by
  induction fields with
  | nil =>
    rw [Fields.put, writeFields, hv]
    rfl
  | cons g rest ih =>
    obtain ⟨k, w⟩ := g
    simp only [fieldsAreJson, Bool.and_eq_true] at hfields
    obtain ⟨⟨⟨hkey, -⟩, hw⟩, hrest⟩ := hfields
    obtain ⟨s, hs, -⟩ := writeIn_reads lenient layout w hw
    cases k with
    | text k =>
      rw [Fields.put]
      split
      · rw [writeFields, hv]
        rfl
      · rw [writeFields, hs, ih hrest]
        rfl
    | _ => cases hkey

theorem writeIn_store_error {w stored : Value} {key : String} {f : Fault} (hv : isJson v = true)
    (hstored : v.store key w = .ok stored) (hw : ∀ layout, writeIn lenient layout w = .error f)
    (layout : Layout) : writeIn lenient layout stored = .error f := by
  cases v with
  | dict fields =>
    cases hstored
    rw [writeIn, writeFields_put_error (hw layout.inner) key hv]
    rfl
  | atom _ => cases hstored
  | list _ => cases hstored
  | pair _ _ => cases hstored

end SkillKit.Json
