import SkillKit.Review.Page
import SkillKit.Proofs.Json.Strings

/-!
# The end of a script in the data of a review

The data of a review stand as JSON in a script of its page, and a script ends at the first end tag in
its text.  No mark and no escape of JSON has a character of the tag, and none of the tag is escaped.
So the data end the script exactly if one of their texts holds the tag (`endsScript_writeIn`).
-/

namespace SkillKit.Review

open Text List

variable {c : Char} {cs : List Char}

/-! ## The tag -/

/-- What ends a script, whatever follows it. -/
def endTag : List Char := ['<', '/', 's', 'c', 'r', 'i', 'p', 't']

/-- The text holds the tag, in any letter case. -/
def EndsScript (cs : List Char) : Prop :=
  endTag <:+: cs.map Char.toLower

instance (cs : List Char) : Decidable (EndsScript cs) :=
  inferInstanceAs (Decidable (_ <:+: _))

theorem not_endsScript_nil : ¬ EndsScript [] := by decide

theorem toNat_toLower (c : Char) :
    c.toLower.toNat = if 65 ≤ c.toNat ∧ c.toNat ≤ 90 then c.toNat + 32 else c.toNat := by
  have hval : c.val.toNat = c.toNat := rfl
  have hrange : (c.val ≥ 'A'.val ∧ c.val ≤ 'Z'.val) ↔ 65 ≤ c.toNat ∧ c.toNat ≤ 90 := by
    simp only [ge_iff_le, UInt32.le_iff_toNat_le, hval]
    rfl
  unfold Char.toLower
  split <;> rename_i h <;> rw [hrange] at h
  · have hstep : (32 : UInt32).toNat = 32 := rfl
    rw [if_pos h]
    change (c.val + 32).toNat = c.toNat + 32
    rw [UInt32.toNat_add, hval]
    omega
  · rw [if_neg h]

theorem eq_lt_of_toLower (h : c.toLower = '<') : c = '<' := by
  have hnat : c.toLower.toNat = 60 := by rw [h]; rfl
  rw [toNat_toLower] at hnat
  split at hnat
  · omega
  · exact Char.toNat_inj.mp hnat

theorem plain_of_toLower_mem (h : c.toLower ∈ endTag) :
    0x20 ≤ c.toNat ∧ c.toNat < 0x7f ∧ c ≠ '"' ∧ c ≠ '\\' := by
  have hnat : ∀ d ∈ endTag, d.toNat = 47 ∨ d.toNat = 60 ∨ 99 ≤ d.toNat ∧ d.toNat ≤ 116 := by
    simp [endTag]
  have hc := hnat _ h
  rw [toNat_toLower] at hc
  refine ⟨?_, ?_, ?_, ?_⟩
  · split at hc <;> omega
  · split at hc <;> omega
  · rintro rfl
    exact absurd h (by decide)
  · rintro rfl
    exact absurd h (by decide)

/-- The text does not start with a character of the tag. -/
def StartsOff (cs : List Char) : Prop :=
  ∀ c ∈ cs.head?, c.toLower ∉ endTag

theorem startsOff_cons (h : c.toLower ∉ endTag) (cs : List Char) : StartsOff (c :: cs) := by
  rintro d hd
  obtain rfl : c = d := Option.some.inj hd
  exact h

theorem endsScript_append {front back : List Char} (h : StartsOff back) :
    EndsScript (front ++ back) ↔ EndsScript front ∨ EndsScript back := by
  unfold EndsScript
  rw [List.map_append]
  refine infix_append_iff (by decide) fun c hc => ?_
  rw [List.head?_map] at hc
  obtain ⟨d, hd, rfl⟩ := Option.mem_map.mp hc
  exact h d hd

theorem endsScript_append_of_free {front : List Char} (h : '<' ∉ front) (back : List Char) :
    EndsScript (front ++ back) ↔ EndsScript back := by
  unfold EndsScript
  rw [List.map_append]
  refine infix_append_iff_of_not_mem fun hmem => h ?_
  obtain ⟨c, hc, hlower⟩ := List.mem_map.mp hmem
  rwa [← eq_lt_of_toLower hlower]

theorem not_endsScript_of_free (h : '<' ∉ cs) : ¬ EndsScript cs := by
  rw [← List.append_nil cs, endsScript_append_of_free h]
  exact not_endsScript_nil

/-! ## Texts in JSON -/

section Texts

open Json

theorem lt_not_mem_unitEscape {n : Nat} (h : n < 0x10000) : '<' ∉ unitEscape n :=
  not_mem_unitEscape (by decide) (by decide) (by decide) h

theorem escapeChar_cases (c : Char) :
    escapeChar c = [c] ∨
      c.toLower ∉ endTag ∧ '<' ∉ escapeChar c ∧ ∃ cs, escapeChar c = '\\' :: cs := by
  by_cases hc : 0x20 ≤ c.toNat ∧ c.toNat < 0x7f ∧ c ≠ '"' ∧ c ≠ '\\'
  · -- What can be seen is written as it is, the quote and the backslash apart.
    refine .inl ?_
    obtain ⟨hlow, hhigh, hquote, hback⟩ := hc
    exact escapeChar_self ⟨hlow, hhigh⟩ hquote hback
  · -- All else is escaped, and the tag has no such character.
    refine .inr ⟨fun h => hc (plain_of_toLower_mem h), ?_⟩
    have hwritten := written_escapeChar c
    generalize escapeChar c = written at hwritten
    cases hwritten with
    | @short e h =>
      have he : '<' ≠ e := by
        rintro rfl
        cases h
      exact ⟨by simp [he], _, rfl⟩
    | plain hquote hback h => exact absurd ⟨h.1, h.2, hquote, hback⟩ hc
    | unit h => exact ⟨lt_not_mem_unitEscape h, _, rfl⟩
    | pair hhigh hlow _ =>
      refine ⟨?_, _, rfl⟩
      rw [mem_append, not_or]
      exact ⟨lt_not_mem_unitEscape (Nat.lt_of_le_of_lt hhigh.2 (by decide)),
        lt_not_mem_unitEscape (Nat.lt_of_le_of_lt hlow.2 (by decide))⟩

theorem prefix_escaped_iff {word : List Char} (hword : ∀ w ∈ word, w ∈ endTag) (cs : List Char) :
    word <+: (cs.flatMap escapeChar).map Char.toLower ↔ word <+: cs.map Char.toLower := by
  induction cs generalizing word with
  | nil => rfl
  | cons c cs ih =>
    cases word with
    | nil => simp
    | cons w word =>
      have htail := ih fun x hx => hword x (mem_cons_of_mem _ hx)
      have hw := hword w mem_cons_self
      rcases escapeChar_cases c with hself | ⟨hother, -, written, hescape⟩
      · rw [flatMap_cons, hself, singleton_append, map_cons, map_cons,
          cons_prefix_cons, cons_prefix_cons, htail]
      · -- Neither the backslash nor the character itself is one of the tag.
        have hback : w ≠ Char.toLower '\\' := by
          rintro rfl
          exact absurd hw (by decide)
        have hne : w ≠ c.toLower := by
          rintro rfl
          exact hother hw
        rw [flatMap_cons, hescape, cons_append, map_cons, map_cons,
          cons_prefix_cons, cons_prefix_cons]
        exact iff_of_false (fun h => hback h.1) (fun h => hne h.1)

theorem endsScript_escaped_iff (cs : List Char) :
    EndsScript (cs.flatMap escapeChar) ↔ EndsScript cs := by
  induction cs with
  | nil => rfl
  | cons c cs ih =>
    rcases escapeChar_cases c with hself | ⟨hother, hfree, -⟩
    · -- The tag starts at the character or behind it, before the escapes and after.
      have hprefix := prefix_escaped_iff (fun _ hw => hw) (c :: cs)
      rw [flatMap_cons, hself, singleton_append] at hprefix ⊢
      unfold EndsScript at ih ⊢
      rw [map_cons, infix_cons_iff, ih, ← map_cons, hprefix, map_cons,
        infix_cons_iff]
    · -- The tag starts neither at the character nor within its escape.
      have hlt : '<' ∉ [c] := by
        rw [mem_singleton]
        rintro rfl
        exact hother (by decide)
      rw [flatMap_cons, endsScript_append_of_free hfree, ih, ← singleton_append,
        endsScript_append_of_free hlt]

theorem endsScript_writeString_append (s : String) (back : List Char) :
    EndsScript ((writeString s).toList ++ back) ↔ EndsScript s.toList ∨ EndsScript back := by
  have htext : (writeString s).toList ++ back =
      ['"'] ++ (s.toList.flatMap escapeChar ++ (['"'] ++ back)) := by
    simp [writeString]
  have hseam : StartsOff (['"'] ++ back) := startsOff_cons (by decide) back
  rw [htext, endsScript_append_of_free (by decide), endsScript_append hseam,
    endsScript_append_of_free (by decide), endsScript_escaped_iff]

end Texts

/-! ## Documents -/

open Json

/-- The tag stands in one of the texts. -/
def AnyEnds (texts : List String) : Prop :=
  ∃ t ∈ texts, EndsScript t.toList

instance (texts : List String) : Decidable (AnyEnds texts) :=
  inferInstanceAs (Decidable (∃ t ∈ texts, _))

@[simp] theorem anyEnds_nil : ¬ AnyEnds [] := by
  simp [AnyEnds]

@[simp] theorem anyEnds_cons (t : String) (texts : List String) :
    AnyEnds (t :: texts) ↔ EndsScript t.toList ∨ AnyEnds texts := by
  simp [AnyEnds]

@[simp] theorem anyEnds_append (texts more : List String) :
    AnyEnds (texts ++ more) ↔ AnyEnds texts ∨ AnyEnds more := by
  simp [AnyEnds, or_and_right, exists_or]

theorem lt_not_mem_of_marks (h : Marks cs) : '<' ∉ cs :=
  fun hmem => absurd (h _ hmem) (by decide)

theorem endsScript_laid {flat : Bool} {texts : List String} (h : Laid false flat texts cs)
    (back : List Char) : EndsScript (cs ++ back) ↔ AnyEnds texts ∨ EndsScript back := by
  induction h generalizing back with
  | marks h => simp [endsScript_append_of_free (lt_not_mem_of_marks h)]
  | lineBreak _ =>
    rw [endsScript_append_of_free (by decide)]
    simp
  | string s => simp [endsScript_writeString_append]
  | word h => simp [endsScript_writeString_append, not_endsScript_of_free (lt_not_mem_of_marks (h rfl))]
  | append _ _ ihcs ihds => rw [List.append_assoc, ihcs, ihds, anyEnds_append, or_assoc]

theorem endsScript_writeIn (layout : Layout) (v : Value) {s : String}
    (h : writeIn false layout v = .ok s) : EndsScript s.toList ↔ AnyEnds v.strings := by
  rw [← List.append_nil s.toList, endsScript_laid (laid_writeIn layout v h)]
  exact or_iff_left not_endsScript_nil

/-! ## Reviews -/

theorem endsScript_embedded {data : Value} {s : String} (h : embedded data = .ok s) :
    EndsScript s.toList ↔ AnyEnds data.strings := by
  obtain ⟨json, hjson, h⟩ := Result.bind_eq_ok.mp h
  cases h
  change EndsScript ("const EMBEDDED_DATA = " ++ json ++ ";").toList ↔ _
  have hseam : StartsOff ";".toList := startsOff_cons (by decide) []
  rw [String.toList_append, String.toList_append, List.append_assoc,
    endsScript_append_of_free (by decide), endsScript_append hseam,
    endsScript_writeIn .line data hjson]
  exact or_iff_left (by decide)

theorem exists_embedded {data : Value} (h : isJson data = true) : ∃ s, embedded data = .ok s := by
  obtain ⟨json, hjson, -⟩ := writeIn_readsBack false .line data h
  exact ⟨"const EMBEDDED_DATA = " ++ json ++ ";", by rw [embedded, write, hjson]; rfl⟩

/-- What is put into the page ends the script exactly if a text does that was given for the review:
the name of the skill, or a text of the runs, of what counts of the iteration before, or of a
benchmark that counts. -/
theorem embedded_endsScript_iff {runs previous benchmark data : Value} {skillName s : String}
    {earlier feedback outputs : Fields} (hearlier : previousFields previous = .ok earlier)
    (hfeedback : previousField "feedback" earlier = .ok feedback)
    (houtputs : previousField "outputs" earlier = .ok outputs)
    (hdata : reviewData runs skillName previous benchmark = .ok data) (hs : embedded data = .ok s) :
    (∀ template, page template runs skillName previous benchmark =
        .ok (replace template dataMark s)) ∧
      (EndsScript s.toList ↔
        AnyEnds (skillName :: runs.strings ++ Value.stringsOfFields feedback ++
          Value.stringsOfFields outputs ++ if benchmark.truthy then benchmark.strings else [])) := by
  refine ⟨fun template => ?_, ?_⟩
  · rw [page, hdata, Result.ok_bind, hs]
    rfl
  · rw [endsScript_embedded hs]
    rw [reviewData, hearlier, Result.ok_bind, hfeedback, Result.ok_bind, houtputs,
      Result.ok_bind] at hdata
    cases hdata
    -- None of the keys of the data holds the tag.
    have hname := not_endsScript_of_free (show '<' ∉ "skill_name".toList by decide)
    have hruns := not_endsScript_of_free (show '<' ∉ "runs".toList by decide)
    have hback := not_endsScript_of_free (show '<' ∉ "previous_feedback".toList by decide)
    have hout := not_endsScript_of_free (show '<' ∉ "previous_outputs".toList by decide)
    have hbench := not_endsScript_of_free (show '<' ∉ "benchmark".toList by decide)
    cases benchmark.truthy <;>
      simp only [Bool.false_eq_true, if_true, if_false, Value.object, List.map_cons, List.map_nil,
        List.cons_append, List.nil_append, List.append_nil, Value.strings, Value.stringsOfFields,
        Atom.strings, anyEnds_cons, anyEnds_append, hname, hruns, hback, hout, hbench, false_or,
        or_assoc]

def pageRun (content : String) : Value :=
  .object [("id", .text "eval-0"), ("prompt", .text "draw"), ("eval_id", .null),
    ("outputs", .list [.object [("name", .text "index.html"), ("type", .text "text"),
      ("content", .text content)]]),
    ("grading", .null)]

def said : Value :=
  .object [("eval-0", .object [("feedback", .text "too small"), ("outputs", .list [])])]

def pageData (content : String) : Value :=
  .object [("skill_name", .text "charts"), ("runs", .list [pageRun content]),
    ("previous_feedback", .object [("eval-0", .text "too small")]),
    ("previous_outputs", .object [])]

theorem reviewData_pageRun (content : String) :
    reviewData (.list [pageRun content]) "charts" said .null = .ok (pageData content) := rfl

theorem isJson_pageData (content : String) : isJson (pageData content) = true := rfl

/-- A page with tags of other kinds leaves the script open. -/
theorem embedded_plain_page :
    ∃ data s, reviewData (.list [pageRun "<p>2 < 3</p>"]) "charts" said .null = .ok data ∧
      embedded data = .ok s ∧ ¬ EndsScript s.toList := by
  have hdata := reviewData_pageRun "<p>2 < 3</p>"
  obtain ⟨s, hs⟩ := exists_embedded (isJson_pageData "<p>2 < 3</p>")
  exact ⟨_, s, hdata, hs,
    (embedded_endsScript_iff rfl rfl rfl hdata hs).2.not.mpr (by decide +kernel)⟩

/-- A page with a script ends the script of the review. -/
theorem embedded_scripted_page :
    ∃ data s, reviewData (.list [pageRun "<script>f()</script>"]) "charts" said .null = .ok data ∧
      embedded data = .ok s ∧ EndsScript s.toList := by
  obtain ⟨s, hs⟩ := exists_embedded (isJson_pageData "<script>f()</script>")
  exact ⟨_, s, reviewData_pageRun _, hs, (endsScript_embedded hs).mpr (by decide +kernel)⟩

end SkillKit.Review
