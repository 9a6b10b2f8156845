import SkillKit.Connector.Basic
import SkillKit.Proofs.Text.Search

/-!
# URLs that have a dialect

Exactly the URLs that start with a scheme have a dialect (`schemeWords?_url`, `exists_scheme`), and a
scheme names it whatever follows and in whatever case its words are written (`dialectOf?_by_scheme`).
-/

namespace SkillKit.Connector

open Text String

/-- A non-empty word of letters, digits, `_` and `-`. -/
def IsSchemeWord (word : String) : Prop :=
  word ≠ "" ∧ ∀ c ∈ word.toList, isSchemeChar c = true

def smallLetters (word : String) : String :=
  ofList (word.toList.map Char.toLower)

/-- What a URL starts with: a dialect and perhaps a driver. -/
structure Scheme where
  dialect : String
  driver : Option String
  dialect_word : IsSchemeWord dialect
  driver_word : ∀ d ∈ driver, IsSchemeWord d

namespace Scheme

def text (s : Scheme) : String :=
  match s.driver with
  | none => s.dialect
  | some driver => s.dialect ++ "+" ++ driver

def url (s : Scheme) (rest : String) : String :=
  s.text ++ "://" ++ rest

/-- The word by which the database goes. -/
def name (s : Scheme) : String :=
  match s.driver.map lower with
  | none => lower s.dialect
  | some driver => if driver ∈ dialects.map (·.1) then driver else lower s.dialect

/-- The two schemes differ at most in the case of their letters. -/
def SameButCase (s t : Scheme) : Prop :=
  smallLetters s.dialect = smallLetters t.dialect ∧
    s.driver.map smallLetters = t.driver.map smallLetters

end Scheme

/-! ## Words of a scheme -/

theorem toNat_of_isSchemeChar {c : Char} (h : isSchemeChar c = true) : c.toNat < 128 := by
  delta isSchemeChar Char.isAlphanum Char.isAlpha Char.isUpper Char.isLower Char.isDigit at h
  simp only [Bool.or_eq_true, Bool.and_eq_true, decide_eq_true_eq, beq_iff_eq] at h
  change ((((65 ≤ c.toNat ∧ c.toNat ≤ 90) ∨ (97 ≤ c.toNat ∧ c.toNat ≤ 122)) ∨
    (48 ≤ c.toNat ∧ c.toNat ≤ 57)) ∨ c = '_') ∨ c = '-' at h
  rcases h with (h | rfl) | rfl
  · omega
  · decide
  · decide

theorem lowerFrom_of_scheme {cs : List Char} (h : ∀ c ∈ cs, isSchemeChar c = true)
    (before : List Char) : lowerFrom before cs = cs.map Char.toLower := by
  induction cs generalizing before with
  | nil => rfl
  | cons c cs ih =>
    have hc := toNat_of_isSchemeChar (h c List.mem_cons_self)
    have hsigma : (c.toNat == 0x3a3) = false := by
      rw [beq_eq_false_iff_ne]
      omega
    rw [lowerFrom, lowerCharIn, hsigma, ih fun d hd => h d (List.mem_cons_of_mem _ hd)]
    simp [lowerChar, hc]

theorem lower_of_isSchemeWord {word : String} (h : IsSchemeWord word) :
    lower word = smallLetters word := by
  rw [lower, lowerFrom_of_scheme h.2, smallLetters]

theorem Scheme.SameButCase.name_eq {s t : Scheme} (h : s.SameButCase t) : s.name = t.name := by
  have hdriver : ∀ u : Scheme, u.driver.map lower = u.driver.map smallLetters :=
    fun u => Option.map_congr fun d hd => lower_of_isSchemeWord (u.driver_word d hd)
  rw [name, name, hdriver s, hdriver t, h.2, lower_of_isSchemeWord s.dialect_word,
    lower_of_isSchemeWord t.dialect_word, h.1]

/-! ## Schemes of URLs -/

theorem schemeWords?_url (s : Scheme) (rest : String) :
    schemeWords? (s.url rest).toList = some (s.dialect.toList, s.driver.map (·.toList)) := by
  obtain ⟨dialect, driver, ⟨hne, hdialect⟩, hdriver⟩ := s
  have hfirst : dialect.toList.isEmpty = false := by simpa using hne
  have hcolon : ∀ c ∈ (':' :: '/' :: '/' :: rest.toList).head?, isSchemeChar c = false := by
    rintro c ⟨⟩
    rfl
  cases driver with
  | none =>
    have hurl : (Scheme.url ⟨dialect, none, ⟨hne, hdialect⟩, hdriver⟩ rest).toList =
        dialect.toList ++ ':' :: '/' :: '/' :: rest.toList := by
      simp [Scheme.url, Scheme.text]
    rw [hurl, schemeWords?, takeWhile_pad hdialect hcolon, dropWhile_pad hdialect hcolon]
    simp [hfirst]
  | some driver =>
    obtain ⟨hne', hword⟩ := hdriver driver rfl
    have hsecond : driver.toList.isEmpty = false := by simpa using hne'
    have hurl : (Scheme.url ⟨dialect, some driver, ⟨hne, hdialect⟩, hdriver⟩ rest).toList =
        dialect.toList ++ '+' :: (driver.toList ++ ':' :: '/' :: '/' :: rest.toList) := by
      simp [Scheme.url, Scheme.text]
    have hplus : ∀ c ∈ ('+' :: (driver.toList ++ ':' :: '/' :: '/' :: rest.toList)).head?,
        isSchemeChar c = false := by
      rintro c ⟨⟩
      rfl
    rw [hurl, schemeWords?, takeWhile_pad hdialect hplus, dropWhile_pad hdialect hplus]
    simp [hfirst, takeWhile_pad hword hcolon, dropWhile_pad hword hcolon, hsecond]

theorem isSchemeWord_takeWhile {cs : List Char} (h : (cs.takeWhile isSchemeChar).isEmpty = false) :
    IsSchemeWord (ofList (cs.takeWhile isSchemeChar)) := by
  refine ⟨fun hnone => ?_, fun c hc => List.mem_takeWhile_imp (by simpa using hc)⟩
  have hnil : cs.takeWhile isSchemeChar = [] := by simpa using congrArg toList hnone
  simp [hnil] at h

theorem exists_scheme {url : String} {words : List Char × Option (List Char)}
    (h : schemeWords? url.toList = some words) : ∃ (s : Scheme) (rest : String), url = s.url rest := by
  have hcut := List.takeWhile_append_dropWhile (p := isSchemeChar) (l := url.toList)
  unfold schemeWords? at h
  dsimp only at h
  split at h
  · cases h
  · rename_i hword
    have hdialect := isSchemeWord_takeWhile (by simpa using hword)
    split at h
    · rename_i rest hrest
      rw [hrest] at hcut
      refine ⟨⟨_, none, hdialect, by simp⟩, ofList rest,
        toList_inj.mp (hcut.symm.trans ?_)⟩
      simp [Scheme.url, Scheme.text]
    · rename_i more hmore
      split at h
      · rename_i rest hempty hrest
        have hcut' := List.takeWhile_append_dropWhile (p := isSchemeChar) (l := more)
        rw [hmore, ← hcut', hrest] at hcut
        refine ⟨⟨_, some _, hdialect, by simpa using isSchemeWord_takeWhile hempty⟩,
          ofList rest, toList_inj.mp (hcut.symm.trans ?_)⟩
        simp [Scheme.url, Scheme.text]
      · cases h
    · cases h

theorem isSome_dialectNamed? (name : String) :
    (dialectNamed? name).isSome = true ↔ name ∈ dialects.map (·.1) := by
  simp [dialectNamed?]

theorem dialectOf?_url (s : Scheme) (rest : String) : dialectOf? (s.url rest) = some s.name := by
  rw [dialectOf?, schemeWords?_url, Scheme.name]
  cases s.driver with
  | none => simp
  | some driver =>
    simp only [Option.map_some, ofList_toList, isSome_dialectNamed?]
    split <;> rfl

theorem dialectOf?_eq_none {url : String} (h : ∀ (s : Scheme) (rest : String), url ≠ s.url rest) :
    dialectOf? url = none := by
  cases hwords : schemeWords? url.toList with
  | none => rw [dialectOf?, hwords]
  | some words =>
    obtain ⟨s, rest, hurl⟩ := exists_scheme hwords
    exact absurd hurl (h s rest)

/-! ## Packages -/

def packagesOf (name : String) : List String :=
  match dialects.lookup name with
  | some dialect => dialect.packages
  | none => []

theorem packages_byUrl {c : UrlDatabase} {url : String} (h : c.url = .text url) :
    packages (.byUrl c) = .ok ("sqlalchemy" :: ((dialectOf? url).map packagesOf).getD []) := by
  simp only [packages, h]
  cases dialectOf? url with
  | none => rfl
  | some name =>
    simp only [Option.bind_some, Option.map_some, packagesOf, dialectNamed?]
    cases dialects.lookup name <;> rfl

/-- A URL has a dialect exactly if it starts with a scheme, and the scheme names it: by its driver if
that is a known one, and by its dialect otherwise, in lower case.  So neither what follows nor the
case of letters matters.  The packages for a database by URL are `sqlalchemy` and those of the
dialect, if there is one and it is known. -/
theorem dialectOf?_by_scheme (c : UrlDatabase) (url : String) (hurl : c.url = .text url) :
    (∀ name, dialectOf? url = some name ↔
      ∃ (s : Scheme) (rest : String), url = s.url rest ∧ name = s.name) ∧
    (∀ (s t : Scheme) (rest rest' : String), url = s.url rest → s.SameButCase t →
      dialectOf? (t.url rest') = dialectOf? url ∧
      packages (.byUrl { c with url := .text (t.url rest') }) = packages (.byUrl c)) ∧
    (∀ (s : Scheme) (rest : String), url = s.url rest →
      packages (.byUrl c) = .ok ("sqlalchemy" :: packagesOf s.name)) ∧
    ((∀ (s : Scheme) (rest : String), url ≠ s.url rest) →
      packages (.byUrl c) = .ok ["sqlalchemy"]) := by
  rw [packages_byUrl hurl]
  refine ⟨fun name => ⟨fun hname => ?_, ?_⟩, ?_, ?_, fun hnone => ?_⟩
  · by_contra hnone
    have hfree : ∀ (s : Scheme) (rest : String), url ≠ s.url rest := by
      rintro s rest rfl
      exact hnone ⟨s, rest, rfl, Option.some.inj (hname.symm.trans (dialectOf?_url s rest))⟩
    rw [dialectOf?_eq_none hfree] at hname
    cases hname
  · rintro ⟨s, rest, rfl, rfl⟩
    exact dialectOf?_url s rest
  · rintro s t rest rest' rfl hcase
    have hsame : dialectOf? (t.url rest') = dialectOf? (s.url rest) := by
      rw [dialectOf?_url, dialectOf?_url, hcase.name_eq]
    exact ⟨hsame, by rw [packages_byUrl rfl, hsame]⟩
  · rintro s rest rfl
    rw [dialectOf?_url]
    rfl
  · rw [dialectOf?_eq_none hnone]
    rfl

def Scheme.ofWords (dialect driver : String)
    (h : ([dialect, driver].all fun w => w != "" && w.toList.all isSchemeChar) = true) : Scheme :=
  ⟨dialect, some driver, by simp_all [IsSchemeWord], by simp_all [IsSchemeWord]⟩

/-- Signs of a scheme in a password, and capitals, change nothing. -/
theorem dialectOf?_by_scheme_capitals :
    let url := "PostgreSQL+AsyncPG://me:a+b://c@host/db"
    let c : UrlDatabase := ⟨.text url, .null, .null, .null, none, .null⟩
    packages (.byUrl c) = .ok ["sqlalchemy", "asyncpg"] ∧
      dialectOf? "postgresql+asyncpg://host" = dialectOf? url := by
  intro url c
  have hcase : (Scheme.ofWords "PostgreSQL" "AsyncPG" rfl).SameButCase
      (.ofWords "postgresql" "asyncpg" rfl) := ⟨by decide +kernel, by decide +kernel⟩
  have hname : packagesOf (Scheme.ofWords "PostgreSQL" "AsyncPG" rfl).name = ["asyncpg"] := by
    decide +kernel
  obtain ⟨-, hsame, hpackages, -⟩ := dialectOf?_by_scheme c url rfl
  refine ⟨?_, (hsame _ _ "me:a+b://c@host/db" "host" rfl hcase).1⟩
  rw [hpackages (.ofWords "PostgreSQL" "AsyncPG" rfl) "me:a+b://c@host/db" rfl, hname]

end SkillKit.Connector
