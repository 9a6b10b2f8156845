import SkillKit.Proofs.Files.Named
import SkillKit.Proofs.Text.Search
import SkillKit.Skill.Check

/-!
# The header of a skill

The check takes the text up to the next `---` at the start of a line and reads it as a mapping.  The
header is read up to the next line that is `---`, line by line.  So a text that passes may have no
header that ends.  What a header means is said without the scan (`loadHeader_means`).
-/

namespace SkillKit.Skill

open Act Text List

variable {key line value content : String} {below lines : List String}

/-! ## What lines say -/

/-- The name that the last line with one says. -/
def nameIn? (lines : List String) : Option String :=
  (lines.filterMap (valueAfter? "name:")).getLast?.map unquoted

/-- The description that the first line says, with those below it. -/
def describes? : List String → Option String
  | [] => none
  | line :: below => (valueAfter? "description:" line).map (descriptionOf · below)

/-- The description that the last line with one says. -/
def descriptionIn? (lines : List String) : Option String :=
  (lines.tails.filterMap describes?).getLast?

theorem valueAfter?_description (h : valueAfter? "name:" line = some value) :
    valueAfter? "description:" line = none := by
  unfold valueAfter? at h ⊢
  split_ifs at h with hname
  refine if_neg fun hdescription => ?_
  obtain ⟨_, hn⟩ := (startsWith_iff _ _).1 hname
  obtain ⟨_, hd⟩ := (startsWith_iff _ _).1 hdescription
  rw [← hn] at hd
  cases hd

/-- The value of the last line that starts with a key, with the lines below it. -/
def lastWith? (key : String) : List String → Option (String × List String)
  | [] => none
  | line :: below => (lastWith? key below).or ((valueAfter? key line).map (·, below))

theorem valueAfter?_eq_some : valueAfter? key line = some value ↔ line = key ++ value := by
  rw [valueAfter?, Option.ite_none_right_eq_some, startsWith_iff, Option.some.injEq]
  constructor
  · rintro ⟨⟨rest, hrest⟩, rfl⟩
    rw [← String.toList_inj, String.toList_append, dropChars, String.toList_ofList, ← hrest,
      ← String.length_toList, drop_left]
  · rintro rfl
    rw [← String.toList_inj, dropChars, String.toList_ofList, String.toList_append,
      ← String.length_toList, drop_left]
    exact ⟨prefix_append _ _, rfl⟩

theorem nameIn?_eq (lines : List String) :
    nameIn? lines = (lastWith? "name:" lines).map (unquoted ·.1) := by
  induction lines with
  | nil => rfl
  | cons line below ih =>
    rw [lastWith?, Option.map_or, ← ih, nameIn?, nameIn?]
    cases hname : valueAfter? "name:" line with
    | none => rw [filterMap_cons_none hname, Option.map_none, Option.map_none, Option.or_none]
    | some value =>
      rw [filterMap_cons_some hname, getLast?_cons]
      cases (below.filterMap (valueAfter? "name:")).getLast? <;> rfl

theorem descriptionIn?_eq (lines : List String) :
    descriptionIn? lines = (lastWith? "description:" lines).map fun p => descriptionOf p.1 p.2 := by
  induction lines with
  | nil => rfl
  | cons line below ih =>
    rw [lastWith?, Option.map_or, ← ih, descriptionIn?, descriptionIn?, tails_cons,
      filterMap_cons, describes?]
    cases hvalue : valueAfter? "description:" line with
    | none => simp
    | some value =>
      simp only [Option.map_some, getLast?_cons]
      cases (below.tails.filterMap describes?).getLast? <;> rfl

theorem valueAfter?_of_isContinuation (h : isContinuation line = true) :
    valueAfter? "name:" line = none ∧ valueAfter? "description:" line = none := by
  rw [isContinuation, Bool.or_eq_true, startsWith_iff, startsWith_iff] at h
  constructor <;> rw [Option.eq_none_iff_forall_ne_some]
  all_goals
    rintro value hvalue
    rw [valueAfter?_eq_some.mp hvalue] at h
    rcases h with ⟨rest, hrest⟩ | ⟨rest, hrest⟩ <;> simp at hrest

/-- The last line with a name gives the name, and the last with a description the description; no
line with one of them is passed over in a block. -/
theorem scanLines_eq (name description : String) (inBlock : Bool) (lines : List String) :
    scanLines name description inBlock lines =
      ((nameIn? lines).getD name, (descriptionIn? lines).getD description) := by
  rw [nameIn?_eq, descriptionIn?_eq]
  induction lines generalizing name description inBlock with
  | nil => rfl
  | cons line below ih =>
    rw [scanLines, lastWith?, lastWith?]
    cases hblock : inBlock && isContinuation line with
    | true =>
      -- An indented line starts with neither key, so nothing is lost where it is passed over.
      obtain ⟨hname, hvalue⟩ := valueAfter?_of_isContinuation (Bool.and_eq_true_iff.mp hblock).2
      simp [ih, hname, hvalue]
    | false =>
      rw [if_neg Bool.false_ne_true]
      cases hname : valueAfter? "name:" line with
      | some value =>
        rw [valueAfter?_description hname, Option.map_none]
        dsimp only
        rw [ih]
        cases lastWith? "name:" below <;> simp
      | none =>
        rw [Option.map_none, Option.or_none]
        cases valueAfter? "description:" line with
        | none =>
          rw [Option.map_none, Option.or_none]
          exact ih name description false
        | some value =>
          dsimp only
          rw [ih]
          cases lastWith? "description:" below <;> simp

/-! ## Where the header ends -/

/-- The header that lines tell. -/
def headerOf (content : String) (lines : List String) : Header :=
  ⟨(nameIn? lines).getD "", (descriptionIn? lines).getD "", content⟩

/-- A header is read from the lines between its fences, and refused if one of them is missing. -/
theorem readHeader_cases {first : String} (h : splitOnChar '\n' content = first :: below) :
    (isFence first = true ∧ (∃ line ∈ below, isFence line = true) ∧
      readHeader content = .ok (headerOf content (below.takeWhile (!isFence ·)))) ∨
    ¬ (isFence first = true ∧ ∃ line ∈ below, isFence line = true) ∧
      ∃ message, readHeader content = .error (.refused message) := by
  unfold readHeader
  rw [h]
  simp only [scanLines_eq]
  cases hfirst : isFence first with
  | false => exact .inr ⟨fun hfences => Bool.false_ne_true hfences.1, _, rfl⟩
  | true =>
    cases hend : below.any isFence with
    | true => exact .inl ⟨rfl, any_eq_true.mp hend, rfl⟩
    | false =>
      refine .inr ⟨fun ⟨_, line, hline, hfence⟩ => ?_, _, rfl⟩
      exact any_eq_false.mp hend line hline hfence

/-- The last line that starts with a key has a value, and lines are below it. -/
def IsLast (key : String) (lines : List String) (value : String) (below : List String) : Prop :=
  ∃ above, lines = above ++ (key ++ value) :: below ∧ ∀ l ∈ below, startsWith l key = false

theorem lastWith?_eq_none : lastWith? key lines = none ↔ ∀ l ∈ lines, startsWith l key = false := by
  induction lines with
  | nil => simp [lastWith?]
  | cons line below ih =>
    have hline : valueAfter? key line = none ↔ startsWith line key = false := by simp [valueAfter?]
    rw [lastWith?, Option.or_eq_none_iff, Option.map_eq_none_iff, ih, hline, forall_mem_cons,
      and_comm]

theorem lastWith?_eq_some :
    lastWith? key lines = some (value, below) ↔ IsLast key lines value below := by
  induction lines with
  | nil => simp [lastWith?, IsLast]
  | cons line rest ih =>
    rw [lastWith?, Option.or_eq_some_iff, ih, lastWith?_eq_none, Option.map_eq_some_iff]
    constructor
    · rintro (⟨above, rfl, hbelow⟩ | ⟨hrest, v, hv, heq⟩)
      · exact ⟨line :: above, rfl, hbelow⟩
      · cases heq
        exact ⟨[], by rw [valueAfter?_eq_some.mp hv]; rfl, hrest⟩
    · rintro ⟨above, hlines, hbelow⟩
      cases above with
      | nil =>
        obtain ⟨rfl, rfl⟩ := cons.inj hlines
        exact .inr ⟨hbelow, value, valueAfter?_eq_some.mpr rfl, rfl⟩
      | cons first above =>
        obtain ⟨rfl, rfl⟩ := cons.inj hlines
        exact .inl ⟨above, rfl, hbelow⟩

/-- Lines tell a text by the last of them that starts with a key, or nothing. -/
def Told (key : String) (meaning : String → List String → String → Prop) (lines : List String)
    (s : String) : Prop :=
  (∃ value below, IsLast key lines value below ∧ meaning value below s) ∨
    (∀ l ∈ lines, startsWith l key = false) ∧ s = ""

theorem told_iff {s : String} {meaning : String → List String → String → Prop}
    {f : String → List String → String}
    (h : ∀ value below s, meaning value below s ↔ s = f value below) :
    Told key meaning lines s ↔ s = ((lastWith? key lines).map fun p => f p.1 p.2).getD "" := by
  simp only [Told, ← lastWith?_eq_some, ← lastWith?_eq_none, h]
  cases hlast : lastWith? key lines with
  | none => simp
  | some p =>
    obtain ⟨value, below⟩ := p
    simp [and_assoc]

/-- What a value and the lines below it describe: the value itself, or the block of lines that
directly follow and are indented. -/
def Describes (value : String) (below : List String) (s : String) : Prop :=
  if isBlockMark (strip value) then
    ∃ block rest, below = block ++ rest ∧ (∀ l ∈ block, isContinuation l = true) ∧
      (∀ l ∈ rest.head?, isContinuation l = false) ∧ s = " ".intercalate (block.map strip)
  else s = unquoted value

theorem describes_iff (value : String) (below : List String) (s : String) :
    Describes value below s ↔ s = descriptionOf value below := by
  have hof : descriptionOf value below = if isBlockMark (strip value) then
      " ".intercalate ((below.takeWhile isContinuation).map strip) else unquoted value := rfl
  rw [hof]
  unfold Describes
  split_ifs with hmark
  · constructor
    · rintro ⟨block, rest, rfl, hblock, hrest, rfl⟩
      rw [takeWhile_pad hblock hrest]
    · rintro rfl
      refine ⟨_, _, takeWhile_append_dropWhile.symm, fun l => mem_takeWhile_imp, ?_, rfl⟩
      intro l hl
      have hnot := head?_dropWhile_not isContinuation below
      rw [hl] at hnot
      exact hnot
  · exact Iff.rfl

/-- The first line of a text and a later one are fences, and the lines between them are none. -/
def Framed (content : String) (front : List String) : Prop :=
  ∃ first closing rest, splitOnChar '\n' content = first :: (front ++ closing :: rest) ∧
    isFence first = true ∧ isFence closing = true ∧ ∀ l ∈ front, isFence l = false

theorem readHeader_of_framed {front : List String} (h : Framed content front) :
    readHeader content = .ok (headerOf content front) := by
  obtain ⟨first, closing, rest, hlines, hfirst, hclosing, hopen⟩ := h
  have hfront : (front ++ closing :: rest).takeWhile (!isFence ·) = front :=
    takeWhile_pad (by simpa using hopen) (by simpa using hclosing)
  rcases readHeader_cases hlines with ⟨-, -, hread⟩ | ⟨hmissing, -⟩
  · rw [hread, hfront]
  · exact absurd ⟨hfirst, closing, by simp, hclosing⟩ hmissing

theorem readHeader_of_not_framed (h : ∀ front, ¬ Framed content front) :
    ∃ message, readHeader content = .error (.refused message) := by
  obtain ⟨first, below, hlines⟩ := exists_cons_of_ne_nil
    (show splitOnChar '\n' content ≠ [] by simp [splitOnChar, splitWhen_ne_nil])
  rcases readHeader_cases hlines with ⟨hfirst, ⟨line, hline, hfence⟩, -⟩ | ⟨-, hrefused⟩
  · -- The first fence below the first line would close a frame.
    obtain ⟨closing, hfind⟩ := Option.isSome_iff_exists.mp (find?_isSome.mpr ⟨line, hline, hfence⟩)
    obtain ⟨hclosing, front, rest, rfl, hfront⟩ := find?_eq_some_iff_append.mp hfind
    exact absurd ⟨first, closing, rest, hlines, hfirst, hclosing, by simpa using hfront⟩ (h front)
  · exact hrefused

section Reading

variable {host : Host} {dir : Path} {skill : Tree} {text : String}

theorem exec_loadHeader (hskill : host.at? dir = some skill)
    (hmain : skill.get? ["SKILL.md"] = some (.file text.toUTF8)) :
    exec (loadHeader dir) host = (readHeader (unifyLines text), host) := by
  have hread := Host.exec_readText_child hskill (by decide) hmain
  rw [Tree.readText_toUTF8] at hread
  rw [loadHeader, mainFile, exec_bind_ok hread, exec_ofExcept]

/-- The header of a skill has the text as it is, the name that the last line with a name tells, and
the description that the last line with one tells together with the block below it.  Only the lines
between the first two fences count.  Without two fences the skill is refused. -/
theorem loadHeader_means (hskill : host.at? dir = some skill)
    (hmain : skill.get? ["SKILL.md"] = some (.file text.toUTF8)) :
    (∀ front, Framed (unifyLines text) front → ∃ name description,
      exec (loadHeader dir) host = (.ok ⟨name, description, unifyLines text⟩, host) ∧
      (∀ s, Told "name:" (fun value _ s => s = unquoted value) front s ↔ s = name) ∧
      ∀ s, Told "description:" Describes front s ↔ s = description) ∧
    ((∀ front, ¬ Framed (unifyLines text) front) →
      ∃ message, exec (loadHeader dir) host = (.error (.refused message), host)) := by
  rw [exec_loadHeader hskill hmain]
  constructor
  · intro front hframed
    refine ⟨(nameIn? front).getD "", (descriptionIn? front).getD "", ?_, fun s => ?_, fun s => ?_⟩
    · rw [readHeader_of_framed hframed]
      rfl
    · rw [nameIn?_eq]
      exact told_iff (f := fun value _ => unquoted value) fun _ _ _ => Iff.rfl
    · rw [descriptionIn?_eq]
      exact told_iff describes_iff
  · intro hopen
    obtain ⟨message, hrefused⟩ := readHeader_of_not_framed hopen
    exact ⟨message, by rw [hrefused]⟩

end Reading

def hostOf (text : String) : Host where
  files := .dir [("s", .dir [("SKILL.md", .file text.toUTF8)])]

def blocked : String :=
  "---\nname: a\ndescription: >-\n  two\n\tlines\nname: 'b'\n---\nname: c\n"

theorem loadHeader_means_blocked :
    exec (loadHeader ⟨"/", ["s"]⟩) (hostOf blocked) =
      (.ok ⟨"b", "two lines", unifyLines blocked⟩, hostOf blocked) := by
  have hlines : splitOnChar '\n' (unifyLines blocked) =
      ["---", "name: a", "description: >-", "  two", "\tlines", "name: 'b'", "---", "name: c", ""] := by
    decide +kernel
  have hframed : Framed (unifyLines blocked)
      ["name: a", "description: >-", "  two", "\tlines", "name: 'b'"] :=
    ⟨"---", "---", ["name: c", ""], hlines, by decide +kernel⟩
  have hskill : (hostOf blocked).at? ⟨"/", ["s"]⟩ =
      some (.dir [("SKILL.md", .file blocked.toUTF8)]) := rfl
  obtain ⟨name, description, hrun, hname, hdescription⟩ := (loadHeader_means hskill rfl).1 _ hframed
  obtain rfl : "b" = name := by
    refine (hname "b").mp (.inl ⟨" 'b'", [], ⟨["name: a", "description: >-", "  two", "\tlines"], ?_⟩, ?_⟩)
    · simp
    · decide +kernel
  obtain rfl : "two lines" = description := by
    refine (hdescription "two lines").mp (.inl ⟨" >-", ["  two", "\tlines", "name: 'b'"], ⟨["name: a"], ?_⟩, ?_⟩)
    · decide +kernel
    · rw [Describes, if_pos (by decide +kernel)]
      exact ⟨["  two", "\tlines"], ["name: 'b'"], rfl, by decide +kernel⟩
  exact hrun

end SkillKit.Skill
