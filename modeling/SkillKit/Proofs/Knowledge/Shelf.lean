import SkillKit.Knowledge.Calls
import SkillKit.Proofs.Files.Named
import SkillKit.Proofs.Json.Numbers

/-!
# Shelves in a directory

A shelf with room for it gives back what was saved (`load_saved`).

`Opens shelf host fields` says of one shelf, whatever the others hold, that it is loaded as fields and
that its file can be written.  Such a shelf is saved with any fields that can be read
(`Opens.exec_save`), and what happens to another one does not matter to it (`Opens.of_save`).

`Holds files dir what` says what every shelf in a directory holds, which may not be there yet.
-/

namespace SkillKit.Knowledge

open Act Text SkillKit.Tree Fields Result Json

variable {s key : String} {v data : Value} {other : Shelf} {dir : List String}
  {entries : List (String × Tree)} {f : Fault} {fields : Fields}

variable {files : Tree} {names : List String} {u : Unit}

/-! ## Files of shelves -/

theorem fileName_ne_up (shelf : Shelf) : shelf.fileName ≠ ".." := by
  cases shelf <;> decide

theorem fileName_short (shelf : Shelf) : shelf.fileName.utf8ByteSize ≤ maxNameBytes := by
  cases shelf <;> decide

theorem fileName_ne {shelf : Shelf} (h : other ≠ shelf) : other.fileName ≠ shelf.fileName := by
  cases shelf <;> cases other <;> first | exact absurd rfl h | decide

def storeNames (host : Host) : List String := host.locate (storeOf host)

theorem locate_path (host : Host) (shelf : Shelf) :
    host.locate (shelf.path host) = storeNames host ++ [shelf.fileName] := by
  have hname : isName shelf.fileName = true := by
    cases shelf <;> decide
  exact host.locate_child (storeOf host) hname

/-! ## What a directory holds -/

/-- No shelf has a file, and the directory is there or can be made. -/
structure Vacant (files : Tree) (dir : List String) : Prop where
  absent : ∀ shelf : Shelf, files.exists? (dir ++ [shelf.fileName]) = .ok false
  room : ∃ files' entries names, files.makeDirs dir = .ok files' ∧
    follow [] files' dir = .ok (.dir entries, names) ∧
      ∀ shelf : Shelf, entries.lookup shelf.fileName = none

/-- A shelf holds fields: they stand in its file, or it has none and there are no fields. -/
def OnShelf (entries : List (String × Tree)) (shelf : Shelf) (fields : Fields) : Prop :=
  entries.lookup shelf.fileName = none ∧ fields = [] ∨
    ∃ s, entries.lookup shelf.fileName = some (.file s.toUTF8) ∧ ReadsBack (.dict fields) s

/-- The shelves in a directory hold fields. -/
inductive Holds (files : Tree) (dir : List String) : (Shelf → Fields) → Prop
  | vacant (h : Vacant files dir) : Holds files dir fun _ => []
  | kept {entries : List (String × Tree)} {names : List String} {what : Shelf → Fields}
      (hdir : follow [] files dir = .ok (.dir entries, names))
      (hshelves : ∀ shelf, OnShelf entries shelf (what shelf)) : Holds files dir what

theorem find_shelf (h : follow [] files dir = .ok (.dir entries, names)) (shelf : Shelf) :
    files.find (dir ++ [shelf.fileName]) =
      match entries.lookup shelf.fileName with
      | none => .error .noFile
      | some t => .ok t :=
  IsSlot.find ⟨h, fileName_ne_up shelf, fileName_short shelf⟩

theorem vacant_of_follow (h : follow [] files dir = .ok (.dir entries, names))
    (hnone : ∀ shelf : Shelf, entries.lookup shelf.fileName = none) : Vacant files dir where
  absent shelf := by
    rw [exists?, find_shelf h, hnone shelf]
  room := ⟨files, entries, names, makeDirs_of_follow h, h, hnone⟩

theorem vacant_new (now : Time.Stamp) :
    Vacant ({ now } : Host).files (storeNames ({ now } : Host)) := by
  refine ⟨fun shelf => ?_, _, _, _, rfl, rfl, fun _ => rfl⟩
  cases shelf <;> rfl

/-! ## One shelf -/

def Shelf.standing (shelf : Shelf) (host : Host) : Except Fault Tree :=
  host.files.find (storeNames host ++ [shelf.fileName])

/-- The file of a shelf in a directory has a text. -/
def HasText (files : Tree) (dir : List String) (shelf : Shelf) (s : String) : Prop :=
  ∃ entries names, follow [] files dir = .ok (.dir entries, names) ∧
    entries.lookup shelf.fileName = some (.file s.toUTF8)

/-- What is loaded from the place of a shelf in files. -/
def loadAt (files : Tree) (names : List String) : Except Fault Value := do
  if ← files.exists? names then read (← files.readText names) else .ok (.dict [])

theorem exec_load_eq (shelf : Shelf) (host : Host) :
    exec (load shelf) host = (loadAt host.files (storeNames host ++ [shelf.fileName]), host) := by
  rw [load, exec_bind_ok (exec_get host), exec_bind, exec_pathExists, locate_path, loadAt]
  cases host.files.exists? (storeNames host ++ [shelf.fileName]) with
  | error f => rfl
  | ok there =>
    cases there with
    | false => rfl
    | true =>
      simp only [if_true]
      rw [exec_bind, exec_readText, locate_path]
      cases host.files.readText (storeNames host ++ [shelf.fileName]) with
      | error f => rfl
      | ok text => exact exec_ofExcept _ _

theorem loadAt_congr {files' : Tree} (h : files'.find names = files.find names) :
    loadAt files' names = loadAt files names := by
  simp only [loadAt, Tree.exists?, Tree.readText, Tree.readBytes, h]

section Shelves

variable {host host' : Host} {shelf : Shelf}

theorem keeps_load {γ : Type} {part : Host → γ} (shelf : Shelf) : Keeps part (load shelf) := by
  intro host
  rw [exec_load_eq]

theorem isRead_of_load (h : exec (load shelf) host = (.ok v, host')) : isRead v = true := by
  rw [exec_load_eq] at h
  obtain ⟨there, -, h⟩ := bind_eq_ok.mp (congrArg Prod.fst h)
  cases there with
  | true =>
    obtain ⟨text, -, h⟩ := bind_eq_ok.mp h
    exact isRead_of_read h
  | false =>
    cases h
    rfl

theorem exec_load_of_standing (h : shelf.standing host = .ok (.file s.toUTF8)) :
    exec (load shelf) host = (Json.read (unifyLines s), host) := by
  rw [exec_load_eq, loadAt, Tree.exists?, Tree.readText, Tree.readBytes, ← Shelf.standing, h]
  simp only [ok_bind, decode?_toUTF8]
  rfl

theorem HasText.standing (h : HasText host.files (storeNames host) shelf s) :
    shelf.standing host = .ok (.file s.toUTF8) := by
  obtain ⟨entries, names, hdir, hfile⟩ := h
  rw [Shelf.standing, find_shelf hdir, hfile]

theorem HasText.exec_load (h : HasText host.files (storeNames host) shelf s)
    (hreads : ReadsBack v s) : exec (load shelf) host = (.ok v, host) := by
  rw [exec_load_of_standing h.standing, hreads.unifyLines, hreads.read]

theorem exec_save_eq (host : Host) (shelf : Shelf) (data : Value) :
    exec (save shelf data) host =
      match host.files.makeDirs (storeNames host) with
      | .error f => (.error f, host)
      | .ok files =>
        match writeIn true (.indented 0) data with
        | .error f => (.error f, { host with files })
        | .ok t =>
          match files.writeText (storeNames host ++ [shelf.fileName]) t with
          | .error f => (.error f, { host with files })
          | .ok files' => (.ok ⟨⟩, { host with files := files' }) := by
  rw [save, exec_bind_ok (exec_get host)]
  cases hmake : host.files.makeDirs (storeNames host) with
  | error f => exact exec_bind_error (exec_makeDirs_error hmake)
  | ok files =>
    rw [exec_bind_ok (exec_makeDirs_ok hmake)]
    cases hwrite : writeIn true (.indented 0) data with
    | error f => exact exec_bind_error (exec_ofExcept _ _)
    | ok t =>
      rw [exec_bind_ok (exec_ofExcept (.ok t) _), ← locate_path]
      dsimp only
      cases htext : files.writeText (host.locate (shelf.path host)) t with
      | error f => exact exec_writeText_error htext
      | ok files' => exact exec_writeText_ok htext

/-- A save that succeeded has written the document to a file, where a file or nothing stood. -/
theorem of_exec_save_ok (h : exec (save shelf data) host = (.ok u, host')) :
    ∃ t files files' entries names, writeIn true (.indented 0) data = .ok t ∧
      host.files.makeDirs (storeNames host) = .ok files ∧
      follow [] files (storeNames host) = .ok (.dir entries, names) ∧
      (∀ u, entries.lookup shelf.fileName = some u → u.isDir = false) ∧
      host' = { host with files := files' } ∧ follow [] files' (storeNames host) =
        .ok (.dir (setEntry shelf.fileName (.file t.toUTF8) entries), names) := by
  rw [exec_save_eq] at h
  split at h
  · cases h
  · rename_i files hmake
    split at h
    · cases h
    · rename_i t hwrite
      split at h
      · cases h
      · rename_i files' htext
        cases h
        obtain ⟨up, name, entries, names, hpath, hslot, hfree, rfl⟩ := of_writeBytes htext
        obtain ⟨rfl, rfl⟩ := List.append_singleton_inj.mp hpath
        exact ⟨t, files, _, entries, names, hwrite, hmake, hslot.follow, hfree, rfl,
          (hslot.put hfree _).follow⟩

/-- The files on two hosts are the same, and so is what stands in the place of each shelf. -/
structure Untouched (host host' : Host) : Prop where
  files : host'.files.files = host.files.files
  shelves : ∀ shelf : Shelf, shelf.standing host' = shelf.standing host

theorem untouched_makeDirs (h : host.files.makeDirs (storeNames host) = .ok files) :
    Untouched host { host with files } where
  files := files_makeDirs h
  shelves shelf := find_concat_makeDirs h (fileName_ne_up shelf) (fileName_short shelf)

theorem untouched_of_save_error (h : exec (save shelf data) host = (.error f, host')) :
    Untouched host host' := by
  rw [exec_save_eq] at h
  split at h
  · cases h
    exact ⟨rfl, fun _ => rfl⟩
  · rename_i files hmake
    have huntouched := untouched_makeDirs hmake
    split at h
    · cases h
      exact huntouched
    · split at h <;> cases h
      exact huntouched

theorem keeps_standing_save (hother : other ≠ shelf) (data : Value) :
    Keeps other.standing (save shelf data) := by
  intro host
  cases hrun : exec (save shelf data) host with
  | mk r host' =>
    cases r with
    | error f => exact (untouched_of_save_error hrun).shelves other
    | ok u =>
      -- The new entry is in the directory, and stands under another name.
      obtain ⟨t, files, files', entries, names, -, hmake, hdir, -, rfl, hdir'⟩ := of_exec_save_ok hrun
      calc files'.find (storeNames host ++ [other.fileName])
          = files.find (storeNames host ++ [other.fileName]) := by
            rw [find_shelf hdir, find_shelf hdir', lookup_setEntry_of_ne (fileName_ne hother)]
        _ = host.files.find (storeNames host ++ [other.fileName]) :=
            (untouched_makeDirs hmake).shelves other

end Shelves

/-! ## Saving and loading -/

/-- A shelf can be written: the directory of the store is there or can be made, and no directory stands
in the place of the file. -/
def HasRoom (shelf : Shelf) (host : Host) : Prop :=
  ∃ files entries names, host.files.makeDirs (storeNames host) = .ok files ∧
    follow [] files (storeNames host) = .ok (.dir entries, names) ∧
      ∀ u, entries.lookup shelf.fileName = some u → u.isDir = false

section Saving

variable {shelf : Shelf} {host : Host}

theorem Vacant.hasRoom (h : Vacant host.files (storeNames host)) (shelf : Shelf) :
    HasRoom shelf host := by
  obtain ⟨files, entries, names, hmake, hdir, hnone⟩ := h.room
  refine ⟨files, entries, names, hmake, hdir, fun u hu => ?_⟩
  rw [hnone shelf] at hu
  cases hu

theorem HasRoom.exec_save (h : HasRoom shelf host)
    (hwrite : writeIn true (.indented 0) data = .ok s) :
    ∃ files, exec (save shelf data) host = (.ok ⟨⟩, { host with files }) ∧
      HasText files (storeNames host) shelf s := by
  obtain ⟨files, entries, names, hmake, hdir, hfree⟩ := h
  have hslot : IsSlot files (storeNames host) shelf.fileName entries names :=
    ⟨hdir, fileName_ne_up shelf, fileName_short shelf⟩
  refine ⟨_, ?_, _, names, (hslot.put hfree _).follow, lookup_setEntry_self _ _ _⟩
  rw [exec_save_eq, hmake, hwrite]
  simp only [hslot.writeText hfree s]

/-- What is saved is loaded again, with the order of its fields, through a file in ASCII. -/
theorem load_saved (hroom : HasRoom shelf host) (hdata : isJson (.dict fields) = true) :
    ∃ files s, exec (save shelf (.dict fields)) host = (.ok ⟨⟩, { host with files }) ∧
      HasText files (storeNames host) shelf s ∧ (∀ c ∈ s.toList, c.toNat < 0x80) ∧
        exec (load shelf) { host with files } = (.ok (.dict fields), { host with files }) := by
  obtain ⟨s, hwrite, hreads⟩ := writeIn_readsBack true (.indented 0) _ hdata
  obtain ⟨files, hsave, htext⟩ := hroom.exec_save hwrite
  refine ⟨files, s, hsave, htext, fun c hc => ?_, HasText.exec_load htext hreads⟩
  rcases hreads.plain c hc with rfl | ⟨-, hlt⟩
  · decide
  · omega

theorem load_saved_nested :
    let host : Host := { now := default }
    let fields : Fields := [
      (.text "b\"\n", .list [.int (-1000000000000000000000000000000), .dict [], .list []]),
      (.text "é", .dict [(.text "😀\x7f", .null), (.text "", .bool true)])]
    HasRoom .tables host ∧ isJson (.dict fields) = true ∧
      ∃ files s, exec (save .tables (.dict fields)) host = (.ok ⟨⟩, { host with files }) ∧
        HasText files (storeNames host) .tables s ∧ (∀ c ∈ s.toList, c.toNat < 0x80) ∧
          exec (load .tables) { host with files } = (.ok (.dict fields), { host with files }) := by
  intro host fields
  have hroom : HasRoom .tables host := (vacant_new default).hasRoom .tables
  have hdata : isJson (.dict fields) = true := by decide +kernel
  exact ⟨hroom, hdata, load_saved hroom hdata⟩

end Saving

/-! ## Shelves that open -/

/-- A shelf is loaded as fields, and there is room for its file. -/
structure Opens (shelf : Shelf) (host : Host) (fields : Fields) : Prop where
  load : loadAt host.files (storeNames host ++ [shelf.fileName]) = .ok (.dict fields)
  room : ∃ files entries names, host.files.makeDirs (storeNames host) = .ok files ∧
    follow [] files (storeNames host) = .ok (.dir entries, names) ∧
      ∀ u, entries.lookup shelf.fileName = some u → u.isDir = false

section Opens

variable {shelf : Shelf} {host host' : Host} {fields' : Fields}

theorem HasText.opens (h : HasText host.files (storeNames host) shelf s)
    (hreads : ReadsBack (.dict fields) s) : Opens shelf host fields where
  load := by
    have hload := h.exec_load hreads
    rw [exec_load_eq] at hload
    exact congrArg Prod.fst hload
  room := by
    obtain ⟨entries, names, hdir, hfile⟩ := h
    refine ⟨host.files, entries, names, makeDirs_of_follow hdir, hdir, fun u hu => ?_⟩
    rw [hfile] at hu
    cases hu
    rfl

theorem Vacant.opens (h : Vacant host.files (storeNames host)) (shelf : Shelf) :
    Opens shelf host [] where
  load := by
    rw [loadAt, h.absent shelf]
    rfl
  room := h.hasRoom shelf

theorem Holds.opens {what : Shelf → Fields} (h : Holds host.files (storeNames host) what)
    (shelf : Shelf) : Opens shelf host (what shelf) := by
  cases h with
  | vacant h => exact h.opens shelf
  | @kept entries names _ hdir hshelves =>
    rcases hshelves shelf with ⟨hnone, hempty⟩ | ⟨s, hfile, hreads⟩
    · refine ⟨?_, host.files, entries, names, makeDirs_of_follow hdir, hdir, fun u hu => ?_⟩
      · rw [hempty, loadAt, exists?, find_shelf hdir, hnone]
        rfl
      · rw [hnone] at hu
        cases hu
    · exact HasText.opens ⟨entries, names, hdir, hfile⟩ hreads

theorem opens_of_save (h : exec (save shelf (.dict fields)) host = (.ok u, host'))
    (hread : isRead (.dict fields) = true) :
    ∃ files, host' = { host with files } ∧ Opens shelf { host with files } fields := by
  obtain ⟨t, _, files, _, names, hwrite, -, -, -, rfl, hdir⟩ := of_exec_save_ok h
  obtain ⟨t', hwrite', hreads⟩ := writeIn_readsBack_of_isRead true (.indented 0) hread
  obtain rfl : t = t' := Except.ok.inj (hwrite.symm.trans hwrite')
  exact ⟨files, rfl, HasText.opens ⟨_, names, hdir, lookup_setEntry_self _ _ _⟩ hreads⟩

namespace Opens

theorem of_load_save
    (hload : loadAt host.files (storeNames host ++ [shelf.fileName]) = .ok (.dict fields))
    (hsave : exec (save shelf data) host = (.ok u, host')) : Opens shelf host fields := by
  obtain ⟨t, files, -, entries, names, -, hmake, hdir, hfree, -⟩ := of_exec_save_ok hsave
  exact ⟨hload, files, entries, names, hmake, hdir, hfree⟩

theorem exec_load (h : Opens shelf host fields) :
    exec (Knowledge.load shelf) host = (.ok (.dict fields), host) := by
  rw [exec_load_eq, h.load]

theorem isRead (h : Opens shelf host fields) : isRead (.dict fields) = true :=
  isRead_of_load h.exec_load

theorem exec_save (h : Opens shelf host fields) (hread : Json.isRead (.dict fields') = true) :
    ∃ files, exec (save shelf (.dict fields')) host = (.ok ⟨⟩, { host with files }) ∧
      Opens shelf { host with files } fields' := by
  obtain ⟨s, hwrite, hreads⟩ := writeIn_readsBack_of_isRead true (.indented 0) hread
  obtain ⟨files, hsave, htext⟩ := HasRoom.exec_save h.room hwrite
  exact ⟨files, hsave, HasText.opens htext hreads⟩

theorem of_makeDirs (h : Opens shelf host fields)
    (hmake : host.files.makeDirs (storeNames host) = .ok files) :
    Opens shelf { host with files } fields := by
  obtain ⟨_, entries, names, hmake', hdir, hfree⟩ := h.room
  cases hmake.symm.trans hmake'
  refine ⟨?_, files, entries, names, makeDirs_of_follow hdir, hdir, hfree⟩
  rw [← h.load]
  exact loadAt_congr ((untouched_makeDirs hmake).shelves shelf)

theorem of_save (h : Opens shelf host fields) (hne : shelf ≠ other) {r : Except Fault Unit}
    (hsave : exec (save other data) host = (r, host')) : Opens shelf host' fields := by
  obtain ⟨files, entries, names, hmake, hdir, hfree⟩ := h.room
  have hplace : shelf.standing host' = shelf.standing host := by
    have hkeeps := keeps_standing_save hne data host
    rwa [hsave] at hkeeps
  rw [exec_save_eq, hmake] at hsave
  dsimp only at hsave
  split at hsave
  · cases hsave
    exact h.of_makeDirs hmake
  · split at hsave
    · cases hsave
      exact h.of_makeDirs hmake
    · rename_i files' htext
      cases hsave
      -- No more than the entry of the other shelf is new in the directory.
      obtain ⟨up, name, _, _, hpath, hslot, hfree', rfl⟩ := of_writeBytes htext
      obtain ⟨rfl, rfl⟩ := List.append_singleton_inj.mp hpath
      cases hdir.symm.trans hslot.follow
      refine ⟨?_, _, _, names, makeDirs_of_follow (hslot.put hfree' _).follow,
        (hslot.put hfree' _).follow, fun u hu => ?_⟩
      · rw [← h.load]
        exact loadAt_congr hplace
      · rw [lookup_setEntry_of_ne (fileName_ne hne)] at hu
        exact hfree u hu

theorem exec_save_error (h : Opens shelf host fields)
    (hwrite : writeIn true (.indented 0) data = .error f) :
    ∃ files, exec (save shelf data) host = (.error f, { host with files }) ∧
      ∀ other fields, Opens other host fields → Opens other { host with files } fields := by
  obtain ⟨files, -, -, hmake, -⟩ := h.room
  refine ⟨files, ?_, fun other fields h => h.of_makeDirs hmake⟩
  rw [exec_save_eq, hmake, hwrite]

end Opens

end Opens

/-! ## Clearing -/

theorem clear_eq (which : Value) (staleOnly : Bool) : clear which staleOnly = (do
    let concepts ← (if which.isText "all" || which.isText "concepts" then
      clearShelf .concepts staleOnly else pure 0)
    let patterns ← (if which.isText "all" || which.isText "patterns" then
      clearShelf .patterns staleOnly else pure 0)
    return (concepts, patterns)) := by
  rw [clear]
  cases which.isText "all" || which.isText "concepts" <;>
    cases which.isText "all" || which.isText "patterns" <;> rfl

/-! ## Learning a concept -/

/-- What learning a concept does once the concepts have been loaded. -/
def learnFrom (data concept table keyColumn dateColumn : Value) : Act Value := do
  let entry := conceptEntry table keyColumn dateColumn (← Act.now)
  let key ← Act.ofExcept (nameKeyOf concept)
  let data ← Act.ofExcept (data.store key entry)
  save .concepts data
  return entry

theorem learnConcept_eq (concept table keyColumn dateColumn : Value) :
    learnConcept concept table keyColumn dateColumn =
      load .concepts >>= fun data => learnFrom data concept table keyColumn dateColumn := rfl

section Learning

variable {host host' : Host} {concept table keyColumn dateColumn : Value}

theorem of_exec_learnFrom_ok
    (h : exec (learnFrom data concept table keyColumn dateColumn) host = (.ok v, host')) :
    ∃ key fields, nameKeyOf concept = .ok key ∧ data = .dict fields ∧
      v = conceptEntry table keyColumn dateColumn host.now ∧
        exec (save .concepts (.dict (put fields (.text key) v))) host = (.ok ⟨⟩, host') := by
  obtain ⟨now, host₁, hnow, h⟩ := of_exec_bind_ok h
  cases hnow
  obtain ⟨key, host₂, hkeyRun, h⟩ := of_exec_bind_ok h
  rw [exec_ofExcept] at hkeyRun
  obtain ⟨hkey, rfl⟩ := Prod.mk.inj hkeyRun
  obtain ⟨data', host₃, hstoreRun, h⟩ := of_exec_bind_ok h
  obtain ⟨hstore, rfl⟩ := Prod.mk.inj hstoreRun
  obtain ⟨_, host₄, hsave, h⟩ := of_exec_bind_ok h
  cases h
  cases data with
  | dict fields =>
    cases hstore
    exact ⟨key, fields, hkey, rfl, rfl, hsave⟩
  | _ => cases hstore

theorem exec_learnFrom (hkey : nameKeyOf concept = .ok key)
    (hsave : exec (save .concepts (.dict (put fields (.text key)
      (conceptEntry table keyColumn dateColumn host.now)))) host = (.ok ⟨⟩, host')) :
    exec (learnFrom (.dict fields) concept table keyColumn dateColumn) host =
      (.ok (conceptEntry table keyColumn dateColumn host.now), host') := by
  rw [learnFrom, exec_bind_ok (exec_now host), hkey, exec_bind_ok (exec_ofExcept (.ok key) host),
    Value.store, exec_bind_ok (exec_ofExcept (.ok _) host), exec_bind_ok hsave]
  rfl

theorem Opens.exec_learnFrom {saved : Fields} (h : Opens .concepts host saved)
    (hfields : Json.isRead (.dict fields) = true) (hkey : nameKeyOf concept = .ok key)
    (hentry : Json.isRead (conceptEntry table keyColumn dateColumn host.now) = true) :
    ∃ files, exec (learnFrom (.dict fields) concept table keyColumn dateColumn) host =
        (.ok (conceptEntry table keyColumn dateColumn host.now), { host with files }) ∧
      Opens .concepts { host with files }
        (put fields (.text key) (conceptEntry table keyColumn dateColumn host.now)) := by
  obtain ⟨files, hsave, hopens⟩ := h.exec_save (fieldsMadeOf_put hfields key hentry)
  exact ⟨files, Knowledge.exec_learnFrom hkey hsave, hopens⟩

theorem opens_of_learnConcept
    (hentry : isRead (conceptEntry table keyColumn dateColumn host.now) = true)
    (h : exec (learnConcept concept table keyColumn dateColumn) host = (.ok v, host')) :
    ∃ fields files, Opens .concepts host fields ∧
      v = conceptEntry table keyColumn dateColumn host.now ∧ host' = { host with files } ∧
        ∃ fields', Opens .concepts { host with files } fields' := by
  obtain ⟨data, host₁, hload, h⟩ := of_exec_bind_ok h
  rw [exec_load_eq] at hload
  obtain ⟨hdata, rfl⟩ := Prod.mk.inj hload
  obtain ⟨key, fields, -, rfl, rfl, hsave⟩ := of_exec_learnFrom_ok h
  have hopens := Opens.of_load_save hdata hsave
  obtain ⟨files, rfl, hafter⟩ := opens_of_save hsave (fieldsMadeOf_put hopens.isRead key hentry)
  exact ⟨fields, files, hopens, rfl, rfl, _, hafter⟩

end Learning

end SkillKit.Knowledge
