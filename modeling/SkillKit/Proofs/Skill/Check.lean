import SkillKit.Proofs.Json.Strings
import SkillKit.Proofs.Skill.Header
import SkillKit.Proofs.Skill.Package

/-!
# What the check of a skill says

The pattern of names and the places that hyphens may not have come to one grammar: words joined by
single hyphens (`passes_iff_kebab`).  A verdict is given on every text, unless its frontmatter has a
key that no message can tell (`verdict_iff_keys_told`).
-/

namespace SkillKit.Skill

open Act Text
open List hiding contains dropPrefix?

variable {fields : Fields} {k : Atom} {data : Value} {content : String}

/-! ## Names in kebab case -/

def isWordChar (c : Char) : Bool :=
  ('a' ≤ c && c ≤ 'z') || ('0' ≤ c && c ≤ '9')

/-- Words of small letters and digits, joined by single hyphens. -/
def IsKebab (s : String) : Prop :=
  ∃ words : List String, words ≠ [] ∧ (∀ w ∈ words, w ≠ "" ∧ w.toList.all isWordChar = true) ∧
    s = "-".intercalate words

theorem isNameChar_eq (c : Char) : isNameChar c = (isWordChar c || c == '-') := rfl

/-- No piece between hyphens is empty exactly if no hyphen stands at an end or beside another. -/
theorem nil_not_mem_splitWhen (cs : List Char) :
    [] ∉ splitWhen (· == '-') cs ↔
      cs ≠ [] ∧ ¬ ['-'] <+: cs ∧ ¬ ['-'] <:+ cs ∧ ¬ ['-', '-'] <:+: cs := by
  induction cs using pieces_induction (p := (· == '-')) with
  | one piece hfree =>
    have hnone : '-' ∉ piece := fun h => by simpa using hfree '-' h
    rw [splitWhen_of_free hfree, mem_singleton]
    constructor
    · intro hne
      refine ⟨Ne.symm hne, fun h => ?_, fun h => ?_, fun h => ?_⟩ <;>
        exact hnone (h.subset mem_cons_self)
    · exact fun h => Ne.symm h.1
  | more piece c cs hfree hc ih =>
    obtain rfl : c = '-' := by simpa using hc
    have hnone : '-' ∉ piece := fun h => by simpa using hfree '-' h
    -- The first piece ends at a hyphen, so it is empty exactly if the text starts with one.
    have hfirst : ['-'] <+: piece ++ '-' :: cs ↔ piece = [] := by
      cases piece with
      | nil => simp
      | cons d ds =>
        have hd : '-' ≠ d := fun h => hnone (h ▸ mem_cons_self)
        simp [cons_prefix_cons, hd]
    have hlast : ['-'] <:+ piece ++ '-' :: cs ↔ cs = [] ∨ ['-'] <:+ cs := by
      rw [singleton_suffix_iff_getLast?_eq_some, singleton_suffix_iff_getLast?_eq_some]
      cases cs <;> simp [getLast?_cons]
    have hdouble : ['-', '-'] <:+: piece ++ '-' :: cs ↔ ['-'] <+: cs ∨ ['-', '-'] <:+: cs := by
      rw [infix_append_iff_of_not_mem hnone, infix_cons_iff, cons_prefix_cons]
      simp
    rw [splitWhen_append_cons hfree hc, mem_cons, not_or, ih, hfirst, hlast, hdouble]
    have hne : piece ++ '-' :: cs ≠ [] := by simp
    grind

theorem all_pieces (cs : List Char) :
    (∀ w ∈ splitWhen (· == '-') cs, w.all isWordChar = true) ↔ cs.all isNameChar = true := by
  -- Away from hyphens the letters of words and of names are the same.
  have hpiece : ∀ {piece : List Char}, (∀ d ∈ piece, (d == '-') = false) →
      (piece.all isWordChar = true ↔ piece.all isNameChar = true) := fun hfree => by
    rw [all_eq_true, all_eq_true]
    exact forall₂_congr fun c hc => by rw [isNameChar_eq, hfree c hc, Bool.or_false]
  induction cs using pieces_induction (p := (· == '-')) with
  | one piece hfree => rw [splitWhen_of_free hfree, forall_mem_singleton, hpiece hfree]
  | more piece c cs hfree hc ih =>
    have hname : isNameChar c = true := by rw [isNameChar_eq, hc, Bool.or_true]
    rw [splitWhen_append_cons hfree hc, forall_mem_cons, all_append, all_cons, hname, Bool.and_eq_true]
    exact and_congr (hpiece hfree) ih

theorem intercalate_splitOnChar (c : Char) (s : String) :
    (String.singleton c).intercalate (splitOnChar c s) = s := by
  have hchars : [c].intercalate (splitWhen (· == c) s.toList) = s.toList := by
    rw [splitWhen_eq]
    exact intercalate_splitOn c
  rw [← String.toList_inj, String.toList_intercalate, splitOnChar]
  simpa [Function.comp_def] using hchars

theorem isKebab_iff_pieces (s : String) : IsKebab s ↔
    [] ∉ splitWhen (· == '-') s.toList ∧
      ∀ w ∈ splitWhen (· == '-') s.toList, w.all isWordChar = true := by
  constructor
  · rintro ⟨words, hne, hwords, rfl⟩
    have hfree : ∀ w ∈ words, '-' ∉ w.toList := fun w hw hmem => by
      have := all_eq_true.mp (hwords w hw).2 '-' hmem
      cases this
    have hsplit := splitOnChar_intercalate hne hfree
    have hpieces : splitWhen (· == '-') ("-".intercalate words).toList = words.map String.toList := by
      have := congrArg (map String.toList) hsplit
      rwa [splitOnChar, map_map, map_congr_left (g := id) (by simp), map_id] at this
    rw [hpieces, forall_mem_map]
    refine ⟨fun hmem => ?_, fun w hw => (hwords w hw).2⟩
    obtain ⟨w, hw, hnil⟩ := mem_map.mp hmem
    exact (hwords w hw).1 (String.toList_eq_nil_iff.mp hnil)
  · rintro ⟨hnil, hall⟩
    refine ⟨splitOnChar '-' s, ?_, ?_, (intercalate_splitOnChar '-' s).symm⟩
    · simpa [splitOnChar] using splitWhen_ne_nil _ s.toList
    · rw [splitOnChar, forall_mem_map]
      intro w hw
      rw [String.toList_ofList]
      refine ⟨fun hempty => hnil ?_, hall w hw⟩
      rwa [String.ofList_eq_empty_iff.mp hempty] at hw

theorem nameProblem?_eq_none_iff (name : String) : nameProblem? name = none ↔
    strip name = "" ∨ (strip name).length ≤ 64 ∧ IsKebab (strip name) := by
  have hkebab : IsKebab (strip name) ↔ strip name ≠ "" ∧
      (strip name).toList.all isNameChar = true ∧ startsWith (strip name) "-" = false ∧
        endsWith (strip name) "-" = false ∧ contains (strip name) "--" = false := by
    rw [isKebab_iff_pieces, nil_not_mem_splitWhen, all_pieces, ← Bool.not_eq_true,
      ← Bool.not_eq_true, ← Bool.not_eq_true, startsWith_iff, endsWith_iff, contains, isInfix_iff,
      ne_eq, String.toList_eq_nil_iff]
    tauto
  rw [hkebab]
  unfold nameProblem?
  grind [String.isEmpty_iff]

/-! ## Keys -/

def extraKeys (fields : Fields) : List Atom :=
  fields.filterMap fun f => if allowedKeys.any (f.1.same <| .text ·) then none else some f.1

def tellKey : Atom → Except Fault String
  | .text s => .ok s
  | _ => .error .wrongKind

theorem unexpectedKeys_eq (fields : Fields) :
    unexpectedKeys fields = (·.mergeSort (· ≤ ·)) <$> (extraKeys fields).mapM tellKey := rfl

theorem mem_extraKeys :
    k ∈ extraKeys fields ↔ (∃ v, (k, v) ∈ fields) ∧ ∀ a ∈ allowedKeys, k ≠ .text a := by
  have hallowed : ∀ k : Atom, allowedKeys.any (k.same <| .text ·) = true ↔
      ∃ a ∈ allowedKeys, k = .text a := by
    intro k
    rw [any_eq_true]
    refine exists_congr fun a => and_congr_right fun _ => ⟨Atom.eq_of_same_text, ?_⟩
    rintro rfl
    exact beq_self_eq_true a
  rw [extraKeys, mem_filterMap]
  constructor
  · rintro ⟨⟨k', v⟩, hmem, hk⟩
    split at hk
    · cases hk
    · rename_i hnone
      cases hk
      rw [hallowed] at hnone
      exact ⟨⟨v, hmem⟩, fun a ha heq => hnone ⟨a, ha, heq⟩⟩
  · rintro ⟨⟨v, hmem⟩, hnone⟩
    refine ⟨(k, v), hmem, if_neg fun hany => ?_⟩
    obtain ⟨a, ha, heq⟩ := (hallowed k).mp hany
    exact hnone a ha heq

def isText : Atom → Bool
  | .text _ => true
  | _ => false

/-- Whether a frontmatter has a key that is no text, so that no message can tell it. -/
def hasUntoldKey : Value → Bool
  | .dict fields => fields.any (!isText ·.1)
  | _ => false

theorem tellKey_cases (k : Atom) : isText k = true ∧ (∃ s, tellKey k = .ok s) ∨
    isText k = false ∧ tellKey k = .error .wrongKind := by
  cases k with
  | text s => exact .inl ⟨rfl, s, rfl⟩
  | _ => exact .inr ⟨rfl, rfl⟩

theorem mapM_tellKey_error {keys : List Atom} (hk : k ∈ keys) (htext : isText k = false) :
    keys.mapM tellKey = .error .wrongKind := by
  induction keys with
  | nil => cases hk
  | cons first rest ih =>
    rw [mapM_cons]
    rcases tellKey_cases first with ⟨hfirst, s, hs⟩ | ⟨-, hfirst⟩
    · have hrest : k ∈ rest := (mem_cons.mp hk).resolve_left fun heq => by
        rw [heq, hfirst] at htext
        cases htext
      rw [hs, ih hrest]
      rfl
    · rw [hfirst]
      rfl

theorem unexpectedKeys_untold (h : hasUntoldKey (.dict fields) = true) :
    unexpectedKeys fields = .error .wrongKind := by
  obtain ⟨⟨k, v⟩, hmem, htext⟩ := any_eq_true.mp h
  replace htext : isText k = false := by simpa using htext
  have hextra : k ∈ extraKeys fields := by
    refine mem_extraKeys.mpr ⟨⟨v, hmem⟩, fun a _ heq => ?_⟩
    rw [heq] at htext
    cases htext
  rw [unexpectedKeys_eq, mapM_tellKey_error hextra htext]
  rfl

theorem exists_unexpectedKeys (h : hasUntoldKey (.dict fields) = false) :
    ∃ keys, unexpectedKeys fields = .ok keys := by
  have htold : ∀ k ∈ extraKeys fields, ∃ s, tellKey k = .ok s := by
    intro k hk
    obtain ⟨⟨v, hmem⟩, -⟩ := mem_extraKeys.mp hk
    rcases tellKey_cases k with ⟨-, hs⟩ | ⟨htext, -⟩
    · exact hs
    · exact absurd (by simp [htext]) (any_eq_false.mp h (k, v) hmem)
  obtain ⟨keys, hkeys⟩ := Result.exists_mapM htold
  exact ⟨keys.mergeSort (· ≤ ·), by rw [unexpectedKeys_eq, hkeys]; rfl⟩

/-! ## Whole frontmatters -/

/-- All of a frontmatter passes, its name aside. -/
structure PassesAside (fields : Fields) : Prop where
  keys : ∀ f ∈ fields, ∃ a ∈ allowedKeys, f.1 = .text a
  description : ∃ d, Fields.get? fields "description" = some (.text d) ∧ descriptionProblem? d = none
  compatibility :
    compatibilityProblem? ((Fields.get? fields "compatibility").getD (.text "")) = none

theorem frontmatterProblem?_of_passesAside {name : String} (h : PassesAside fields)
    (hname : Fields.get? fields "name" = some (.text name)) :
    frontmatterProblem? (.dict fields) = .ok (nameProblem? name) := by
  obtain ⟨d, hdescription, hplain⟩ := h.description
  have hnone : extraKeys fields = [] := by
    rw [eq_nil_iff_forall_not_mem]
    intro k hk
    obtain ⟨⟨v, hmem⟩, hother⟩ := mem_extraKeys.mp hk
    obtain ⟨a, ha, hkey⟩ := h.keys _ hmem
    exact hother a ha hkey
  rw [frontmatterProblem?, unexpectedKeys_eq, hnone, hname, hdescription]
  simp [hplain, h.compatibility]

theorem frontmatterProblem?_untold (h : hasUntoldKey data = true) :
    frontmatterProblem? data = .error .wrongKind := by
  cases data with
  | dict fields =>
    rw [frontmatterProblem?, unexpectedKeys_untold h]
    rfl
  | _ => cases h

theorem exists_frontmatterProblem? (h : hasUntoldKey data = false) :
    ∃ found, frontmatterProblem? data = .ok found := by
  cases data with
  | dict fields =>
    obtain ⟨keys, hkeys⟩ := exists_unexpectedKeys h
    rw [frontmatterProblem?, hkeys, Result.ok_bind]
    split
    · exact ⟨_, rfl⟩
    · split <;> exact ⟨_, rfl⟩
  | _ => exact ⟨_, rfl⟩

/-! ## Whole texts -/

theorem contentProblem?_of_frontmatter {front : String} (h : frontmatter? content = some front) :
    contentProblem? content =
      match Yaml.read front with
      | .ok data => frontmatterProblem? data
      | .error .badYaml => .ok (some .badYaml)
      | .error fault => .error fault := by
  obtain ⟨rest, hdrop, -⟩ := Option.bind_eq_some_iff.mp h
  have hstart : startsWith content "---" = true := by
    rw [startsWith_iff, eq_append_of_dropPrefix? hdrop]
    exact ⟨'\n' :: rest, rfl⟩
  rw [contentProblem?, hstart, h]
  rfl

section Runs

variable {host : Host} {dir : Path} {skill : Tree} {text : String}

theorem exec_problem?_of_text (hskill : host.at? dir = some skill)
    (hmain : skill.get? ["SKILL.md"] = some (.file text.toUTF8)) :
    exec (problem? dir) host = (contentProblem? (unifyLines text), host) := by
  rw [exec_problem? hskill, problemIn?, hmain]
  dsimp only
  rw [Tree.readText_toUTF8, Result.ok_bind]

/-- Where everything else passes, a name passes exactly if it is blank or is in kebab case and has at
most 64 characters. -/
theorem passes_iff_kebab {front name : String} {fields : Fields} (hskill : host.at? dir = some skill)
    (hmain : skill.get? ["SKILL.md"] = some (.file text.toUTF8))
    (hfront : frontmatter? (unifyLines text) = some front)
    (hyaml : Yaml.read front = .ok (.dict fields)) (haside : PassesAside fields)
    (hname : Fields.get? fields "name" = some (.text name)) :
    exec (problem? dir) host = (.ok none, host) ↔
      strip name = "" ∨ (strip name).length ≤ 64 ∧ IsKebab (strip name) := by
  have hrun : exec (problem? dir) host = (.ok (nameProblem? name), host) := by
    rw [exec_problem?_of_text hskill hmain, contentProblem?_of_frontmatter hfront, hyaml]
    dsimp only
    rw [frontmatterProblem?_of_passesAside haside hname]
  rw [hrun, ← nameProblem?_eq_none_iff]
  simp

end Runs

def areTexts : List (Atom × Value) → List (String × String) → Bool
  | [], [] => true
  | (.text k, .text v) :: fields, t :: texts => k == t.1 && v == t.2 && areTexts fields texts
  | _, _ => false

def isMappingOf (texts : List (String × String)) : Value → Bool
  | .dict fields => areTexts fields texts
  | _ => false

theorem eq_of_areTexts {fields : List (Atom × Value)} {texts : List (String × String)}
    (h : areTexts fields texts = true) : fields = texts.map fun t => (.text t.1, .text t.2) := by
  fun_induction areTexts fields texts with
  | case1 => rfl
  | case2 k v fields t texts ih => grind
  | case3 => cases h

theorem eq_of_isMappingOf {r : Except Fault Value} (texts : List (String × String))
    (h : r.toOption.any (isMappingOf texts) = true) :
    r = .ok (.dict (texts.map fun t => (.text t.1, .text t.2))) := by
  match r, h with
  | .ok (.dict fields), h => rw [eq_of_areTexts h]

theorem passes_iff_kebab_numbered :
    exec (problem? ⟨"/", ["s"]⟩) (hostOf "---\nname: a-2\ndescription: b\n---\n") =
      (.ok none, hostOf "---\nname: a-2\ndescription: b\n---\n") := by
  have hyaml := eq_of_isMappingOf (r := Yaml.read "name: a-2\ndescription: b")
    [("name", "a-2"), ("description", "b")] (by decide +kernel)
  have hstrip : strip "a-2" = "a-2" := by decide +kernel
  refine (passes_iff_kebab rfl rfl (by decide +kernel) hyaml ⟨?_, ⟨"b", rfl, ?_⟩, rfl⟩ rfl).mpr
    (.inr ?_)
  · simp [allowedKeys]
  · decide +kernel
  · rw [hstrip]
    exact ⟨by decide, ["a", "2"], by simp, by decide, by decide⟩

section Runs

variable {host : Host} {dir : Path} {skill : Tree} {text : String}

theorem exec_printLine (s : String) (host : Host) : exec (printLine s) host =
    (.ok ⟨⟩, { host with printed := host.printed ++ [(.out, s ++ "\n")] }) := rfl

theorem exec_package_problem {given : Path} {output : Option Path} {p : Problem}
    (hskill : host.at? dir = some skill)
    (hmain : skill.get? ["SKILL.md"] = some (.file text.toUTF8)) (hclean : IsClean given)
    (hdir : host.directory.resolve given = dir) (hproblem : problemIn? skill = .ok (some p)) :
    exec (package given output) host = (.ok none, { host with printed := host.printed ++
      [(.out, "🔍 Validating skill...\n"), (.out, "❌ Validation failed: " ++ p.message ++ "\n"),
        (.out, "   Please fix the validation errors before packaging.\n")] }) := by
  have hat : ∀ printed, ({ host with printed } : Host).at? dir = some skill := fun _ => hskill
  have hexists : exec (pathExists dir) host = (.ok true, host) := by
    rw [exec_pathExists, Tree.exists?, Host.find_of_at? hskill]
  have hisDir : exec (isDir dir) host = (.ok true, host) := by
    rw [exec_isDir, Tree.isDirAt, Host.find_of_at? hskill]
    cases skill with
    | file content => cases hmain
    | dir entries => rfl
  have hfile : exec (pathExists (mainFile dir)) host = (.ok true, host) := by
    rw [mainFile, Host.exec_pathExists_child hskill (by decide), hmain]
    rfl
  have hfound := exec_problem? (hat (host.printed ++ [(.out, "🔍 Validating skill...\n")]))
  rw [hproblem] at hfound
  have hpackable : exec (isPackable dir) host = (.ok false, { host with printed := host.printed ++
      [(.out, "🔍 Validating skill...\n"), (.out, "❌ Validation failed: " ++ p.message ++ "\n"),
        (.out, "   Please fix the validation errors before packaging.\n")] }) := by
    rw [isPackable, exec_bind_ok hexists]
    refine (exec_bind_ok hisDir).trans ((exec_bind_ok hfile).trans ?_)
    refine (exec_bind_ok (exec_printLine _ _)).trans ((exec_bind_ok hfound).trans ?_)
    refine (exec_bind_ok (exec_printLine _ _)).trans ((exec_bind_ok (exec_printLine _ _)).trans ?_)
    rw [append_assoc, append_assoc]
    rfl
  rw [package, exec_bind_ok (exec_resolvePath hclean), hdir, exec_bind_ok hpackable]
  rfl

/-- The text of a skill has a frontmatter with a key that no message can tell. -/
def IsUntold (content : String) : Prop :=
  ∃ front data, frontmatter? content = some front ∧ Yaml.read front = .ok data ∧
    hasUntoldKey data = true

theorem contentProblem?_untold (h : IsUntold content) :
    contentProblem? content = .error .wrongKind := by
  obtain ⟨front, data, hfront, hyaml, hkey⟩ := h
  rw [contentProblem?_of_frontmatter hfront, hyaml]
  exact frontmatterProblem?_untold hkey

theorem exists_contentProblem?
    (hyaml : ∀ front fault, frontmatter? content = some front → Yaml.read front = .error fault →
      fault = .badYaml) (h : ¬ IsUntold content) :
    ∃ found, contentProblem? content = .ok found := by
  cases hfront : frontmatter? content with
  | none =>
    rw [contentProblem?, hfront]
    split <;> exact ⟨_, rfl⟩
  | some front =>
    rw [contentProblem?_of_frontmatter hfront]
    cases hread : Yaml.read front with
    | ok data =>
      refine exists_frontmatterProblem? ?_
      rw [← Bool.not_eq_true]
      exact fun hkey => h ⟨front, data, hfront, hread, hkey⟩
    | error fault =>
      cases hyaml front fault hfront hread
      exact ⟨_, rfl⟩

/-- If YAML is read or refused as such, a skill gets a verdict exactly if its frontmatter has only
texts as keys; otherwise checking and packing end in a fault.  The verdict changes nothing, and a
problem is printed where the skill is to be packed. -/
theorem verdict_iff_keys_told (hskill : host.at? dir = some skill)
    (hmain : skill.get? ["SKILL.md"] = some (.file text.toUTF8))
    (hyaml : ∀ front fault, frontmatter? (unifyLines text) = some front →
      Yaml.read front = .error fault → fault = .badYaml) :
    ((∃ found, exec (problem? dir) host = (.ok found, host)) ↔ ¬ IsUntold (unifyLines text)) ∧
    (IsUntold (unifyLines text) → exec (problem? dir) host = (.error .wrongKind, host)) ∧
    ∀ given output, IsClean given → host.directory.resolve given = dir →
      (IsUntold (unifyLines text) → ∃ printed,
        exec (package given output) host = (.error .wrongKind, { host with printed })) ∧
      ∀ p, exec (problem? dir) host = (.ok (some p), host) → ∃ printed,
        exec (package given output) host = (.ok none, { host with printed }) ∧
          (.out, "❌ Validation failed: " ++ p.message ++ "\n") ∈ printed := by
  have hrun := exec_problem?_of_text hskill hmain
  have hfault : IsUntold (unifyLines text) →
      exec (problem? dir) host = (.error .wrongKind, host) := fun h => by
    rw [hrun, contentProblem?_untold h]
  refine ⟨⟨?_, fun h => ?_⟩, hfault, fun given output hclean hdir => ⟨fun h => ?_, fun p hp => ?_⟩⟩
  · rintro ⟨found, hfound⟩ h
    rw [hfault h] at hfound
    cases hfound
  · obtain ⟨found, hfound⟩ := exists_contentProblem? hyaml h
    exact ⟨found, by rw [hrun, hfound]⟩
  · have hproblem : problemIn? skill = .error .wrongKind := by
      have := hfault h
      rw [exec_problem? hskill] at this
      exact congrArg Prod.fst this
    have hpackable : packable (host.files.find (host.locate dir)) = .error .wrongKind := by
      rw [Host.find_of_at? hskill, packable, hproblem]
      cases skill with
      | file content => cases hmain
      | dir entries => rfl
    exact tells_package_error hclean hdir hpackable
  · rw [exec_problem? hskill] at hp
    refine ⟨_, exec_package_problem hskill hmain hclean hdir (congrArg Prod.fst hp), ?_⟩
    simp

end Runs

/-- No verdict is given on a frontmatter with a number as key. -/
theorem no_verdict_on_number : exec (problem? ⟨"/", ["s"]⟩) (hostOf "---\n1: x\n---\n") =
    (.error .wrongKind, hostOf "---\n1: x\n---\n") := by
  have hany : (Yaml.read "1: x").toOption.any hasUntoldKey = true := by decide +kernel
  cases hread : Yaml.read "1: x" with
  | error fault =>
    rw [hread] at hany
    cases hany
  | ok data =>
    rw [hread] at hany
    rw [exec_problem?_of_text rfl rfl,
      contentProblem?_untold ⟨"1: x", data, by decide +kernel, hread, hany⟩]

/-- A key that is a text is told. -/
theorem verdict_iff_keys_told_text : ∃ printed,
    exec (package ⟨"", ["s"]⟩ none) (hostOf "---\nx: 1\n---\n") =
      (.ok none, { hostOf "---\nx: 1\n---\n" with printed }) ∧
    (.out, "❌ Validation failed: " ++ (Problem.unexpectedKeys ["x"]).message ++ "\n") ∈ printed := by
  have hfront : frontmatter? (unifyLines "---\nx: 1\n---\n") = some "x: 1" := by decide +kernel
  have hcontent : contentProblem? (unifyLines "---\nx: 1\n---\n") =
      .ok (some (.unexpectedKeys ["x"])) :=
    Result.eq_ok_of_toOption (by decide +kernel)
  have hclean : IsClean ⟨"", ["s"]⟩ := fun n hn => by
    cases mem_singleton.mp hn
    decide
  refine ((verdict_iff_keys_told rfl rfl fun front fault hcut hread => ?_).2.2 _ none hclean rfl).2 _ ?_
  · cases hfront.symm.trans hcut
    obtain ⟨data, hok⟩ := Result.exists_of_isSome (r := Yaml.read "x: 1") (by decide +kernel)
    cases hok.symm.trans hread
  · rw [exec_problem?_of_text rfl rfl, hcontent]

end SkillKit.Skill
