import SkillKit.Proofs.Knowledge.BriefTable
import SkillKit.Proofs.Knowledge.Memory
import SkillKit.Proofs.Knowledge.Shelf

/-!
# Importing concepts

An import learns the rows of data of a document one after the other, each into the map that the rows
before it left (`exec_learnRows`), so that under every name lies what its last row says, and under a
name without a row what lay there before (`find?_learnedAll`).
-/

namespace SkillKit.Knowledge

open Act Text Time List Json

variable {after before : List String} {dashes heading : Brief} {fields : Fields}

variable {briefs : List Brief}

/-! ## Learning rows -/

theorem isJson_columnValue (column : Option String) : isJson (columnValue column) = true := by
  cases column with
  | none => rfl
  | some s =>
    rw [columnValue]
    split <;> rfl

def Row.learned (r : Row) (now : Stamp) : Document :=
  ⟨conceptEntry (.text r.table) (columnValue r.keyColumn) (columnValue r.dateColumn) now, by
    simp [conceptEntry, Value.object, isJson, fieldsAreJson, isTextKey,
      atomIsJson, Atom.same, isJson_columnValue]⟩

/-- A map with rows learned one after the other. -/
def learnedAll (now : Stamp) (cached : OrderedMap Document) (rows : List Row) :
    OrderedMap Document :=
  rows.foldl (fun m r => m.insert (nameKey r.concept) (r.learned now)) cached

theorem find?_learnedAll (now : Stamp) (cached : OrderedMap Document) (rows : List Row)
    (key : String) :
    (learnedAll now cached rows).find? key =
      ((rows.reverse.find? (nameKey ·.concept == key)).map (·.learned now)).or
        (cached.find? key) := by
  -- By induction from the end: the last row was learned last.
  induction rows using reverseRecOn with
  | nil => rfl
  | append_singleton rows r ih =>
    rw [learnedAll, foldl_concat, ← learnedAll, OrderedMap.find?_insert, ih,
      reverse_append, reverse_singleton, singleton_append, find?_cons]
    by_cases hkey : nameKey r.concept = key
    · simp [hkey]
    · have hother : (nameKey r.concept == key) = false := by simpa using hkey
      rw [if_neg (Ne.symm hkey), hother]

def putRow (now : Stamp) (fields : Fields) (r : Row) : Fields :=
  Fields.put fields (.text (nameKey r.concept)) (r.learned now).1

theorem toFields_learnedAll (now : Stamp) (cached : OrderedMap Document) (rows : List Row) :
    (learnedAll now cached rows).toFields (·.1) =
      rows.foldl (putRow now) (cached.toFields (·.1)) := by
  induction rows generalizing cached with
  | nil => rfl
  | cons r rows ih => rw [learnedAll, foldl_cons, ← learnedAll, ih, ← OrderedMap.put_toFields]; rfl

def learnRow (r : Row) : Act Unit := do
  discard <| learnConcept (.text r.concept) (.text r.table) (columnValue r.keyColumn)
    (columnValue r.dateColumn)

def documentPath : Option Path → Act (Option Path)
  | some path => pure (some path)
  | none => do firstExisting (referencePaths (← get).home)

def importFrom : Option Path → Act Nat
  | none => pure 0
  | some path => do
    if !(← Act.pathExists path) then return 0
    else
      let data := (rows (← Act.readText path)).filter (·.isData)
      data.forM learnRow
      return data.length

theorem importConcepts_eq (path : Option Path) :
    importConcepts path = documentPath path >>= importFrom := by
  cases path <;> rfl

section Files

variable {host : Host}

theorem exec_learnRow (h : Opens .concepts host fields) (r : Row) :
    ∃ files, exec (learnRow r) host = (.ok ⟨⟩, { host with files }) ∧
      Opens .concepts { host with files } (putRow host.now fields r) ∧
        ∀ other ≠ .concepts, ∀ fields', Opens other host fields' →
          Opens other { host with files } fields' := by
  have hread : isRead (.dict (putRow host.now fields r)) = true :=
    fieldsMadeOf_put h.isRead _ (isRead_of_isJson (r.learned host.now).2)
  obtain ⟨files, hsave, hafter⟩ := h.exec_save hread
  refine ⟨files, ?_, hafter, fun other hother _ hopens => hopens.of_save hother hsave⟩
  have hkey : nameKeyOf (.text r.concept) = .ok (nameKey r.concept) := rfl
  change exec ((fun _ => ()) <$> learnConcept _ _ _ _) host = _
  rw [exec_map, learnConcept_eq, exec_bind_ok h.exec_load, exec_learnFrom hkey hsave]
  rfl

theorem exec_learnRows (h : Opens .concepts host fields) (rows : List Row) :
    ∃ files, exec (rows.forM learnRow) host = (.ok ⟨⟩, { host with files }) ∧
      Opens .concepts { host with files } (rows.foldl (putRow host.now) fields) ∧
        ∀ other ≠ .concepts, ∀ fields', Opens other host fields' →
          Opens other { host with files } fields' := by
  induction rows generalizing host fields with
  | nil => exact ⟨host.files, rfl, h, fun _ _ _ hopens => hopens⟩
  | cons r rows ih =>
    -- The rest is learned on the files that the first row left.
    obtain ⟨files, hlearn, hafter, hothers⟩ := exec_learnRow h r
    obtain ⟨files', hrest, hafter', hothers'⟩ := ih hafter
    exact ⟨files', (exec_bind_ok hlearn).trans hrest, hafter', fun other hother _ hopens =>
      hothers' other hother _ (hothers other hother _ hopens)⟩

theorem exec_importConcepts {what : Shelf → Fields} {cached : OrderedMap Document} {path : Path}
    {text : String}
    (hfile : host.files.find (host.locate path) = .ok (.file text.toUTF8))
    (hreturn : '\r' ∉ text.toList) (h : Holds host.files (storeNames host) what)
    (hcached : what .concepts = cached.toFields (·.1)) :
    ∃ files, exec (importConcepts (some path)) host =
        (.ok ((rows text).filter (·.isData)).length, { host with files }) ∧
      ∀ shelf, exec (load shelf) { host with files } =
        (.ok (.dict (Function.update what .concepts
          ((learnedAll host.now cached ((rows text).filter (·.isData))).toFields (·.1)) shelf)),
          { host with files }) := by
  obtain ⟨files, hlearn, hafter, hothers⟩ :=
    exec_learnRows (h.opens .concepts) ((rows text).filter (·.isData))
  rw [hcached, ← toFields_learnedAll] at hafter
  refine ⟨files, ?_, fun shelf => Opens.exec_load ?_⟩
  swap
  · by_cases hshelf : shelf = .concepts
    · subst hshelf
      rwa [Function.update_self]
    · rw [Function.update_of_ne hshelf]
      exact hothers shelf hshelf _ (h.opens shelf)
  have hexists : exec (pathExists path) host = (.ok true, host) := by
    rw [exec_pathExists, Tree.exists?, hfile]
  have htext : exec (readText path) host = (.ok text, host) := by
    rw [exec_readText, Tree.readText, Tree.readBytes, hfile]
    simp only [Result.ok_bind, decode?_toUTF8, unifyLines_of_free hreturn]
  change exec (importFrom (some path)) host = _
  rw [importFrom, exec_bind_ok hexists, Bool.not_true, if_neg Bool.false_ne_true, exec_bind_ok htext,
    exec_bind_ok hlearn]
  rfl

end Files

/-! ## Rows of four cells -/

/-- What the cell of a column says: blanks and a dash say nothing. -/
def columnCell (s : String) : Value :=
  if strip s = "" ∨ strip s = "-" then .null else .text (strip s)

def Entry.name (e : Entry) : String :=
  nameKey (strip e.concept)

def Entry.learned (e : Entry) (now : Stamp) : Value :=
  conceptEntry (.text (strip e.table)) (columnCell e.keyColumn) (columnCell e.dateColumn) now

def stockedHost (text : String) : Host where
  files := .dir [("cache", .dir [("concepts.json", .file "\x7b\"old\": \"HQ.OLD\"\x7d".toUTF8)]),
    ("warehouse.md", .file text.toUTF8)]
  store := some ⟨"/", ["cache"]⟩

def oneConcept : OrderedMap Document := ⟨[("old", ⟨.text "HQ.OLD", rfl⟩)], by simp⟩

def stocked : Shelf → Fields
  | .concepts => oneConcept.toFields (·.1)
  | _ => []

theorem holds_stocked (text : String) :
    Holds (stockedHost text).files (storeNames (stockedHost text)) stocked := by
  refine .kept rfl fun shelf => ?_
  cases shelf with
  | concepts =>
    exact .inr ⟨"\x7b\"old\": \"HQ.OLD\"\x7d", rfl,
      readsBack_of_write rfl (by decide +kernel)⟩
  | patterns => exact .inl ⟨rfl, rfl⟩
  | tables => exact .inl ⟨rfl, rfl⟩

def tableDocument (before : List String) (heading dashes : Brief) (briefs : List Brief)
    (after : List String) : String :=
  document (before ++ ((heading :: dashes :: briefs).map (·.line) ++ after))

theorem filter_rows_tableDocument (hbefore : ∀ s ∈ before, IsProse s)
    (hheading : IsHeading heading.concept) (hrows : ∀ b ∈ heading :: dashes :: briefs, b.WellFormed)
    (hafter : ∀ s ∈ after, IsCell s) :
    (rows (tableDocument before heading dashes briefs after)).filter (·.isData) =
      (taken briefs).filter (·.isData) := by
  have hnone := hheading.isData (show (heading.row (some dashes)).concept = _ from rfl)
  rw [tableDocument, rows_briefs hbefore hrows hafter, taken,
    filter_cons_of_neg (by simp [hnone])]

theorem return_not_mem_tableDocument (hbefore : ∀ s ∈ before, IsProse s)
    (hrows : ∀ b ∈ heading :: dashes :: briefs, b.WellFormed) (hafter : ∀ s ∈ after, IsCell s) :
    '\r' ∉ (tableDocument before heading dashes briefs after).toList := by
  refine return_not_mem_document fun s hs => ?_
  rcases mem_append.mp hs with hs | hs
  · exact (hbefore s hs).1.2
  · rcases mem_append.mp hs with hs | hs
    · obtain ⟨b, hb, rfl⟩ := mem_map.mp hs
      exact (hrows b hb).return_not_mem
    · exact (hafter s hs).2.2

theorem length_filter_taken (h : ∀ b ∈ briefs, (b.row none).isData = true) :
    ((taken briefs).filter (·.isData)).length = (briefs.length + 1) / 2 := by
  have hall : ∀ row ∈ taken briefs, row.isData = true := by
    intro row hrow
    obtain ⟨b, hb, next, rfl⟩ := mem_taken briefs hrow
    exact h b hb
  rw [filter_eq_self.mpr hall, length_taken]

/-- Of a table whose rows have two or three cells, every second row is learned, from the first on:
the bar that starts a row ends a cell of the row above it.  A row of two cells is learned with the
concept of the next row as its date column. -/
theorem importConcepts_briefs {host : Host} {path : Path} {before after : List String}
    {heading dashes : Brief} {briefs : List Brief} {what : Shelf → Fields}
    {cached : OrderedMap Document} (hbefore : ∀ s ∈ before, IsProse s)
    (hheading : IsHeading heading.concept)
    (hrows : ∀ b ∈ heading :: dashes :: briefs, b.WellFormed) (hafter : ∀ s ∈ after, IsCell s)
    (hfile : host.files.find (host.locate path) =
      .ok (.file (tableDocument before heading dashes briefs after).toUTF8))
    (hstore : Holds host.files (storeNames host) what)
    (hcached : what .concepts = cached.toFields (·.1)) :
    ∃ (files : Tree) (cached' : OrderedMap Document),
      exec (importConcepts (some path)) host =
        (.ok ((taken briefs).filter (·.isData)).length, { host with files }) ∧
      (∀ shelf, exec (load shelf) { host with files } =
        (.ok (.dict (Function.update what .concepts (cached'.toFields (·.1)) shelf)),
          { host with files })) ∧
      (∀ key, cached'.find? key =
        ((((taken briefs).filter (·.isData)).reverse.find? (nameKey ·.concept == key)).map
          (·.learned host.now)).or (cached.find? key)) ∧
      ((∀ b ∈ briefs, (b.row none).isData = true) →
        ((taken briefs).filter (·.isData)).length = (briefs.length + 1) / 2) := by
  obtain ⟨files, himport, hload⟩ := exec_importConcepts hfile
    (return_not_mem_tableDocument hbefore hrows hafter) hstore hcached
  rw [filter_rows_tableDocument hbefore hheading hrows hafter] at himport hload
  exact ⟨files, _, himport, hload, find?_learnedAll _ _ _, length_filter_taken⟩

def threeColumns : Brief := ⟨" Concept ", " Table ", some " Key "⟩

def threeDashes : Brief := ⟨"---", "---", some "---"⟩

def threeRows : List Brief :=
  [⟨"users", "HQ.USERS", some "ID"⟩, ⟨"orgs", "HQ.ORGS", some "ID"⟩, ⟨"dags", "HQ.DAGS", some "-"⟩]

/-- Of three rows the first and the last are learned. -/
theorem importConcepts_briefs_sample :
    ∃ (files : Tree) (cached' : OrderedMap Document),
      let host := stockedHost (tableDocument ["# Reference"] threeColumns threeDashes threeRows [""])
      exec (importConcepts (some ⟨"", ["warehouse.md"]⟩)) host = (.ok 2, { host with files }) ∧
      exec (load .concepts) { host with files } =
        (.ok (.dict (cached'.toFields (·.1))), { host with files }) ∧
      (cached'.find? "users").map (·.1) =
        some (conceptEntry (.text "HQ.USERS") (.text "ID") .null host.now) ∧
      (cached'.find? "orgs").map (·.1) = none ∧
      (cached'.find? "dags").map (·.1) =
        some (conceptEntry (.text "HQ.DAGS") .null .null host.now) := by
  obtain ⟨files, cached', himport, hload, hfind, -⟩ :=
    @importConcepts_briefs
      (stockedHost (tableDocument ["# Reference"] threeColumns threeDashes threeRows [""]))
      ⟨"", ["warehouse.md"]⟩ ["# Reference"] [""] threeColumns threeDashes threeRows _ oneConcept
      (by decide +kernel) (by decide +kernel) (by decide +kernel) (by decide +kernel) rfl
      (holds_stocked _) rfl
  refine ⟨files, cached', himport, hload .concepts, ?_, ?_, ?_⟩
  all_goals rw [hfind]; rfl

def twoCells : String :=
  tableDocument [] ⟨" Concept ", " Table ", none⟩ ⟨"---", "---", none⟩
    [⟨" users ", " HQ.USERS ", none⟩, ⟨" orgs ", " HQ.ORGS ", none⟩] []

/-- The second of two rows is not learned by itself, but as the date column of the first. -/
theorem importConcepts_twoCells :
    ∃ (files : Tree) (cached' : OrderedMap Document),
      exec (importConcepts (some ⟨"", ["warehouse.md"]⟩)) (stockedHost twoCells) =
        (.ok 1, { stockedHost twoCells with files }) ∧
      exec (load .concepts) { stockedHost twoCells with files } =
        (.ok (.dict (cached'.toFields (·.1))), { stockedHost twoCells with files }) ∧
      (cached'.find? "users").map (·.1) =
        some (conceptEntry (.text "HQ.USERS") .null (.text "orgs") (stockedHost twoCells).now) ∧
      (cached'.find? "orgs").map (·.1) = none := by
  have hdata : (rows twoCells).filter (·.isData) = [⟨"users", "HQ.USERS", none, some "orgs"⟩] := by
    decide +kernel
  obtain ⟨files, himport, hload⟩ :=
    @exec_importConcepts (stockedHost twoCells) _ oneConcept ⟨"", ["warehouse.md"]⟩ twoCells rfl
      (by decide +kernel) (holds_stocked _) rfl
  rw [hdata] at himport hload
  refine ⟨files, _, himport, hload .concepts, ?_, ?_⟩
  all_goals rw [find?_learnedAll]; rfl

end SkillKit.Knowledge
