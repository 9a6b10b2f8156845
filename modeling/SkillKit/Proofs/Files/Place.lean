import SkillKit.Proofs.Files.Shape

/-!
# Files in a directory

A path may lead through a directory more than once and back out of it, so where it ends is told by
names from the root, none of which leads back (`get?`, `Leads`).  A file that is written into a
directory does not change where the path of the directory leads (`follow_put`), and one that is
written where nothing stood can be removed again (`removeFile_of_writeText`).
-/

namespace SkillKit.Tree

open List Result

variable {s name : String} {u root : Tree} {names revPath : List String}
  {entries : List (String × Tree)} {f : Fault}

variable {path up : List String} {t t' : Tree} {content : ByteArray}

/-! ## Entries by name -/

theorem lookup_cons_of_ne {n : String} (h : n ≠ name) (u : Tree) (rest : List (String × Tree)) :
    lookup name ((n, u) :: rest) = rest.lookup name := by
  rw [lookup_cons, beq_false_of_ne (Ne.symm h)]

theorem setEntry_cons_self (name : String) (t u : Tree) (rest : List (String × Tree)) :
    setEntry name t ((name, u) :: rest) = (name, t) :: rest :=
  if_pos (beq_self_eq_true name)

theorem setEntry_cons_of_ne {n : String} (h : n ≠ name) (t u : Tree)
    (rest : List (String × Tree)) :
    setEntry name t ((n, u) :: rest) = (n, u) :: setEntry name t rest :=
  if_neg (by simpa using h)

/-- Induction on entries in which a name is looked for. -/
@[elab_as_elim]
theorem entries_induction {motive : List (String × Tree) → Prop} (name : String) (nil : motive [])
    (self : ∀ u rest, motive rest → motive ((name, u) :: rest))
    (other : ∀ n u rest, n ≠ name → motive rest → motive ((n, u) :: rest))
    (entries : List (String × Tree)) : motive entries := by
  induction entries with
  | nil => exact nil
  | cons e rest ih =>
    by_cases h : e.1 = name
    · subst h
      exact self e.2 rest ih
    · exact other e.1 e.2 rest h ih

theorem lookup_setEntry_self (name : String) (t : Tree) (entries : List (String × Tree)) :
    (setEntry name t entries).lookup name = some t := by
  induction entries using entries_induction name with
  | nil => simp [setEntry]
  | self u rest => rw [setEntry_cons_self, lookup_cons_self]
  | other n u rest hn ih => rw [setEntry_cons_of_ne hn, lookup_cons_of_ne hn, ih]

theorem lookup_setEntry_of_ne {other : String} (h : other ≠ name) (t : Tree)
    (entries : List (String × Tree)) :
    (setEntry name t entries).lookup other = entries.lookup other := by
  induction entries using entries_induction name with
  | nil => simp [setEntry, h]
  | self u rest =>
    rw [setEntry_cons_self, lookup_cons_of_ne (Ne.symm h), lookup_cons_of_ne (Ne.symm h)]
  | other n u rest hn ih => rw [setEntry_cons_of_ne hn, lookup_cons, lookup_cons, ih]

/-! ## A file among the entries of a directory -/

/-- The tree with other entries in the directory at a place. -/
def editAt (edit : List (String × Tree) → List (String × Tree)) : List String → Tree → Tree
  | [], .dir entries => .dir (edit entries)
  | name :: rest, .dir entries =>
    .dir (setEntry name (editAt edit rest ((entries.lookup name).getD (.dir []))) entries)
  | _, t => t

/-- The names lead from directory to directory, to one with these entries. -/
inductive DirAt (entries : List (String × Tree)) : Tree → List String → Prop
  | here : DirAt entries (.dir entries) []
  | step {siblings : List (String × Tree)} {name : String} {u : Tree} {rest : List String}
      (hu : siblings.lookup name = some u) (h : DirAt entries u rest) :
      DirAt entries (.dir siblings) (name :: rest)

theorem dirAt_of_get? (h : get? root names = some (.dir entries)) : DirAt entries root names := by
  induction names generalizing root with
  | nil =>
    cases h
    exact .here
  | cons n rest ih =>
    cases root with
    | file content => cases h
    | dir siblings =>
      obtain ⟨u, hu, hrest⟩ := Option.bind_eq_some_iff.mp h
      exact .step hu (ih hrest)

theorem dirAt_of_follow (h : follow [] t path = .ok (.dir entries, names)) : DirAt entries t names :=
  dirAt_of_get? (follow_eq_ok.mp h).2

section Edit

variable {edit : List (String × Tree) → List (String × Tree)}

theorem put_concat (new : Tree) (h : DirAt entries root names) :
    put new (names ++ [name]) root = editAt (setEntry name new) names root := by
  induction h with
  | here => rfl
  | step hu _ ih => rw [cons_append, put, editAt, hu, Option.getD_some, ih]

theorem remove_concat (h : DirAt entries root names) :
    remove (names ++ [name]) root = editAt (filter (·.1 != name)) names root := by
  induction h with
  | here => rfl
  | step hu _ ih =>
    rw [cons_append, editAt, remove, hu, Option.getD_some, ← ih]
    exact append_ne_nil_of_right_ne_nil _ (cons_ne_nil _ _)

theorem get?_editAt_self (h : DirAt entries root names) :
    get? (editAt edit names root) names = some (.dir (edit entries)) := by
  induction h with
  | here => rfl
  | step hu _ ih =>
    rw [editAt, hu, get?, lookup_setEntry_self]
    exact ih

theorem get?_editAt_dir (h : DirAt entries root names)
    (hfree : ∀ u, entries.lookup name = some u → u.isDir = false)
    (hedit : ∀ m ≠ name, (edit entries).lookup m = entries.lookup m) (place : List String)
    (others : List (String × Tree)) (hplace : get? root place = some (.dir others)) :
    ∃ others', get? (editAt edit names root) place = some (.dir others') := by
  -- The place may leave the names of the directory at any of them.
  induction h generalizing place with
  | here =>
    cases place with
    | nil => exact ⟨_, rfl⟩
    | cons m below =>
      obtain ⟨u, hu, hbelow⟩ := Option.bind_eq_some_iff.mp hplace
      have hm : m ≠ name := by
        rintro rfl
        cases u with
        | dir _ => cases hfree _ hu
        | file _ => cases below <;> cases hbelow
      refine ⟨others, ?_⟩
      rw [editAt, get?, hedit m hm, hu]
      exact hbelow
  | @step siblings n u rest hu _ ih =>
    rw [editAt, hu]
    cases place with
    | nil => exact ⟨_, rfl⟩
    | cons m below =>
      obtain ⟨w, hw, hbelow⟩ := Option.bind_eq_some_iff.mp hplace
      by_cases hm : m = n
      · subst hm
        obtain rfl : u = w := Option.some.inj (hu.symm.trans hw)
        obtain ⟨others', hothers⟩ := ih below hbelow
        refine ⟨others', ?_⟩
        rw [get?, lookup_setEntry_self]
        exact hothers
      · refine ⟨others, ?_⟩
        rw [get?, lookup_setEntry_of_ne hm, hw]
        exact hbelow

end Edit

/-! ## Following a path again -/

theorem walk_again {root' : Tree} (hdirs : ∀ place others, get? root place = some (.dir others) →
      ∃ others', get? root' place = some (.dir others')) (h : walk root path = .ok names)
    (hplace : get? root names = some (.dir entries)) : walk root' path = .ok names := by
  induction path using reverseRecOn generalizing names entries with
  | nil => exact h
  | append_singleton path name ih =>
    rw [walk_concat] at h ⊢
    obtain ⟨ns, hns, hmove⟩ := bind_eq_ok.mp h
    obtain ⟨es, hes, hlast⟩ := move_eq_ok.mp hmove
    obtain ⟨es', hes'⟩ := hdirs ns es hes
    rw [ih hns hes, ok_bind, move_eq_ok]
    refine ⟨es', hes', hlast.imp id ?_⟩
    rintro ⟨hup, hshort, -, rfl⟩
    -- The next directory is there in the second tree too.
    obtain ⟨others', hthere⟩ := hdirs _ _ hplace
    rw [get?_child hes'] at hthere
    exact ⟨hup, hshort, Option.isSome_of_eq_some hthere, rfl⟩

theorem follow_editAt {edit : List (String × Tree) → List (String × Tree)}
    (h : follow [] root path = .ok (.dir entries, names))
    (hfree : ∀ u, entries.lookup name = some u → u.isDir = false)
    (hedit : ∀ m ≠ name, (edit entries).lookup m = entries.lookup m) :
    follow [] (editAt edit names root) path = .ok (.dir (edit entries), names) := by
  obtain ⟨hwalk, hplace⟩ := follow_eq_ok.mp h
  have hdir := dirAt_of_get? hplace
  exact follow_eq_ok.mpr ⟨walk_again (get?_editAt_dir hdir hfree hedit) hwalk hplace,
    get?_editAt_self hdir⟩

theorem follow_put (new : Tree) (h : follow [] root path = .ok (.dir entries, names))
    (hfree : ∀ u, entries.lookup name = some u → u.isDir = false) :
    follow [] (put new (names ++ [name]) root) path =
      .ok (.dir (setEntry name new entries), names) := by
  rw [put_concat new (dirAt_of_follow h)]
  exact follow_editAt h hfree fun m hm => lookup_setEntry_of_ne hm new entries

/-! ## Entries of a directory -/

/-- A path with a name behind it leads to an entry of the directory at the path, if there is one of
this name. -/
structure IsSlot (t : Tree) (up : List String) (name : String) (entries : List (String × Tree))
    (names : List String) : Prop where
  follow : follow [] t up = .ok (.dir entries, names)
  back : name ≠ ".."
  short : name.utf8ByteSize ≤ maxNameBytes

theorem IsSlot.follow_concat (h : IsSlot t up name entries names) :
    Tree.follow [] t (up ++ [name]) =
      match entries.lookup name with
      | none => .error .noFile
      | some u => .ok (u, names ++ [name]) := by
  obtain ⟨hwalk, hplace⟩ := follow_eq_ok.mp h.follow
  have hlast : walk t (up ++ [name]) =
      if (entries.lookup name).isSome then .ok (names ++ [name]) else .error .noFile := by
    simp [walk_concat, hwalk, move, hplace, h.back, Nat.not_lt.mpr h.short]
  cases hu : entries.lookup name with
  | none =>
    rw [hu] at hlast
    exact follow_eq_error.mpr hlast
  | some u =>
    rw [hu] at hlast
    exact follow_eq_ok.mpr ⟨hlast, (get?_child hplace name).trans hu⟩

theorem IsSlot.find (h : IsSlot t up name entries names) :
    t.find (up ++ [name]) =
      match entries.lookup name with
      | none => .error .noFile
      | some u => .ok u := by
  rw [Tree.find, h.follow_concat]
  cases entries.lookup name <;> rfl

theorem IsSlot.put (h : IsSlot t up name entries names)
    (hfree : ∀ u, entries.lookup name = some u → u.isDir = false) (new : Tree) :
    IsSlot (put new (names ++ [name]) t) up name (setEntry name new entries) names :=
  { h with follow := follow_put new h.follow hfree }

theorem IsSlot.find_put (h : IsSlot t up name entries names)
    (hfree : ∀ u, entries.lookup name = some u → u.isDir = false) (new : Tree) :
    (Tree.put new (names ++ [name]) t).find (up ++ [name]) = .ok new := by
  rw [(h.put hfree new).find, lookup_setEntry_self]

theorem slot_eq_ok {place : List String × Option Tree} : t.slot path f = .ok place ↔
    ∃ up name entries names, path = up ++ [name] ∧ IsSlot t up name entries names ∧
      place = (names ++ [name], entries.lookup name) := by
  constructor
  · intro h
    rcases eq_nil_or_concat' path with rfl | ⟨up, name, rfl⟩
    · cases h
    · rw [slot, getLast?_concat, dropLast_concat] at h
      obtain ⟨⟨u, names⟩, hfollow, h⟩ := bind_eq_ok.mp h
      cases u with
      | file content => cases h
      | dir entries =>
        dsimp only at h
        split_ifs at h with hback hlong
        cases h
        exact ⟨up, name, entries, names, rfl,
          ⟨hfollow, by simpa using hback, Nat.not_lt.mp hlong⟩, rfl⟩
  · rintro ⟨up, name, entries, names, rfl, h, rfl⟩
    rw [slot, getLast?_concat, dropLast_concat, h.follow]
    exact (if_neg (by simpa using h.back)).trans (if_neg (Nat.not_lt.mpr h.short))

theorem follow_dropLast (h : follow [] t (path ++ [name]) = .ok (u, names)) :
    ∃ es ns, follow [] t path = .ok (.dir es, ns) ∧
      (name ≠ ".." → IsSlot t path name es ns ∧ es.lookup name = some u ∧ names = ns ++ [name]) := by
  obtain ⟨hwalk, hu⟩ := follow_eq_ok.mp h
  rw [walk_concat] at hwalk
  obtain ⟨ns, hns, hmove⟩ := bind_eq_ok.mp hwalk
  obtain ⟨es, hes, hlast⟩ := move_eq_ok.mp hmove
  have hfollow := follow_eq_ok.mpr ⟨hns, hes⟩
  refine ⟨es, ns, hfollow, fun hback => ?_⟩
  obtain ⟨-, hshort, -, rfl⟩ := hlast.resolve_left fun hup => hback hup.1
  exact ⟨⟨hfollow, hback, hshort⟩, (get?_child hes name).symm.trans hu, rfl⟩

theorem makeDirs_of_follow (h : follow [] t path = .ok (.dir entries, names)) :
    t.makeDirs path = .ok t := by
  rcases eq_nil_or_concat' path with rfl | ⟨up, name, rfl⟩
  · rfl
  · obtain ⟨es, ns, hup, hentry⟩ := follow_dropLast h
    have hmake : t.makeDir (up ++ [name]) = .error .occupied := by
      by_cases hback : name = ".."
      · rw [makeDir, slot, getLast?_concat, dropLast_concat, hup, hback]
        rfl
      · obtain ⟨hslot, hthere, -⟩ := hentry hback
        rw [makeDir, slot_eq_ok.mpr ⟨up, name, es, ns, rfl, hslot, rfl⟩, hthere]
        rfl
    have hdir : t.isDirAt (up ++ [name]) = .ok true := by
      rw [isDirAt, find, h]
      rfl
    rw [makeDirs, reverse_concat, makeDirsRev]
    simp only [reverse_cons, reverse_reverse, hmake, hdir]

theorem of_makeDir (h : t.makeDir path = .ok t') :
    ∃ up name entries names, path = up ++ [name] ∧ IsSlot t up name entries names ∧
      entries.lookup name = none ∧ t' = put (.dir []) (names ++ [name]) t := by
  obtain ⟨place, hplace, h⟩ := bind_eq_ok.mp h
  obtain ⟨up, name, entries, names, rfl, hslot, rfl⟩ := slot_eq_ok.mp hplace
  dsimp only at h
  split_ifs at h with hthere
  exact ⟨up, name, entries, names, rfl, hslot, Option.not_isSome_iff_eq_none.mp hthere,
    (Except.ok.inj h).symm⟩

theorem find_eq_ok : t.find path = .ok u ↔ ∃ names, follow [] t path = .ok (u, names) := by
  unfold find
  cases follow [] t path with
  | error f => simp
  | ok found =>
    obtain ⟨v, names⟩ := found
    simp

theorem find_eq_error : t.find path = .error f ↔ follow [] t path = .error f := by
  unfold find
  cases follow [] t path with
  | error g => simp
  | ok found => simp

theorem follow_append_error (h : follow [] t path = .error f) (more : List String) :
    follow [] t (path ++ more) = .error f := by
  rw [follow_eq_error, walk] at h ⊢
  rw [foldlM_append, h]
  rfl

theorem find_of_makeDir (h : t.makeDir path = .ok t') :
    t.find path = .error .noFile ∧ t'.find path = .ok (.dir []) := by
  obtain ⟨up, name, entries, names, rfl, hslot, hnew, rfl⟩ := of_makeDir h
  refine ⟨?_, hslot.find_put (by simp [hnew]) _⟩
  rw [hslot.find, hnew]

theorem find_of_makeDirs (h : t.makeDirs path = .ok t') :
    t' = t ∨ t.find path = .error .noFile ∧ t'.find path = .ok (.dir []) := by
  rcases eq_nil_or_concat' path with rfl | ⟨up, name, rfl⟩
  · exact .inl (Except.ok.inj h).symm
  · rw [makeDirs, reverse_concat, makeDirsRev, reverse_cons, reverse_reverse] at h
    split at h
    · rename_i hmake
      cases h
      exact .inr (find_of_makeDir hmake)
    · -- The directory above was missing too, so nothing stood here.
      rename_i hmissing
      obtain ⟨above, -, hmake⟩ := bind_eq_ok.mp h
      refine .inr ⟨?_, (find_of_makeDir hmake).2⟩
      rw [makeDir, slot, getLast?_concat, dropLast_concat] at hmissing
      cases hup : follow [] t up with
      | error f =>
        rw [hup] at hmissing
        cases hmissing
        exact find_eq_error.mpr (follow_append_error hup [name])
      | ok found =>
        obtain ⟨place, names⟩ := found
        rw [hup] at hmissing
        cases place with
        | file content => cases hmissing
        | dir entries =>
          simp only [ok_bind] at hmissing
          split_ifs at hmissing
          · cases hmissing
          · cases hmissing
          · simp only [ok_bind] at hmissing
            split_ifs at hmissing
            cases hmissing
    · split at h
      · exact .inl (Except.ok.inj h).symm
      · cases h

/-- A file can be written into a directory unless a directory is in its place, and is then among the
entries. -/
theorem IsSlot.writeText (h : IsSlot t up name entries names)
    (hfree : ∀ u, entries.lookup name = some u → u.isDir = false) (s : String) :
    t.writeText (up ++ [name]) s = .ok (Tree.put (.file s.toUTF8) (names ++ [name]) t) := by
  rw [Tree.writeText, writeBytes, slot_eq_ok.mpr ⟨up, name, entries, names, rfl, h, rfl⟩, ok_bind]
  dsimp only
  split
  · rename_i hdir
    cases hfree _ hdir
  · rfl

theorem of_writeBytes (h : t.writeBytes path content = .ok t') :
    ∃ up name entries names, path = up ++ [name] ∧ IsSlot t up name entries names ∧
      (∀ u, entries.lookup name = some u → u.isDir = false) ∧
        t' = put (.file content) (names ++ [name]) t := by
  obtain ⟨place, hplace, h⟩ := bind_eq_ok.mp h
  obtain ⟨up, name, entries, names, rfl, hslot, rfl⟩ := slot_eq_ok.mp hplace
  dsimp only at h
  split at h
  · cases h
  · rename_i hfile
    refine ⟨up, name, entries, names, rfl, hslot, fun u hu => ?_, (Except.ok.inj h).symm⟩
    cases u with
    | file content => rfl
    | dir others => cases hfile others hu

theorem find_of_writeBytes (h : t.writeBytes path content = .ok t') :
    t'.find path = .ok (.file content) := by
  obtain ⟨up, name, entries, names, rfl, hslot, hfree, rfl⟩ := of_writeBytes h
  exact hslot.find_put hfree _

theorem isDirAt_of_writeBytes {other : List String} (h : t.writeBytes path content = .ok t')
    (hdir : t.isDirAt other = .ok true) : t'.isDirAt other = .ok true := by
  obtain ⟨up, name, entries, names, rfl, hslot, hfree, rfl⟩ := of_writeBytes h
  unfold isDirAt at hdir ⊢
  cases hfind : t.find other with
  | error f =>
    rw [hfind] at hdir
    cases f <;> cases hdir
  | ok u =>
    rw [hfind] at hdir
    cases u with
    | file content => cases hdir
    | dir others =>
      obtain ⟨place, hother⟩ := find_eq_ok.mp hfind
      have hplace := dirAt_of_follow hslot.follow
      have hdirs := get?_editAt_dir hplace hfree
        fun m hm => lookup_setEntry_of_ne hm (.file content) entries
      obtain ⟨hwalk, hthere⟩ := follow_eq_ok.mp hother
      obtain ⟨others', hothers'⟩ := hdirs place others hthere
      have hagain := follow_eq_ok.mpr ⟨walk_again hdirs hwalk hthere, hothers'⟩
      rw [put_concat _ hplace, find_eq_ok.mpr ⟨place, hagain⟩]
      rfl

theorem find_concat_makeDirs (h : t.makeDirs path = .ok t') (hback : name ≠ "..")
    (hshort : name.utf8ByteSize ≤ maxNameBytes) :
    t'.find (path ++ [name]) = t.find (path ++ [name]) := by
  obtain rfl | ⟨hbefore, hafter⟩ := find_of_makeDirs h
  · rfl
  · -- Before there was no directory, and now it is empty.
    have hnone := follow_append_error (find_eq_error.mp hbefore) [name]
    obtain ⟨names, hempty⟩ := find_eq_ok.mp hafter
    rw [find_eq_error.mpr hnone, IsSlot.find ⟨hempty, hback, hshort⟩]
    rfl

/-! ## The files of a tree -/

theorem filesOfEntries_setEntry (h : filesBelow (name :: revPath) t =
      ((entries.lookup name).map (filesBelow (name :: revPath))).getD []) :
    filesOfEntries revPath (setEntry name t entries) = filesOfEntries revPath entries := by
  induction entries using entries_induction name with
  | nil =>
    change filesBelow (name :: revPath) t ++ [] = []
    rw [h]
    rfl
  | self u rest =>
    rw [lookup_cons_self] at h
    rw [setEntry_cons_self, filesOfEntries, h]
    rfl
  | other n u rest hn ih =>
    rw [lookup_cons_of_ne hn] at h
    rw [setEntry_cons_of_ne hn, filesOfEntries, filesOfEntries, ih h]

theorem filesBelow_put_dir (h : DirAt entries t names) (hnew : entries.lookup name = none)
    (revPath : List String) :
    filesBelow revPath (put (.dir []) (names ++ [name]) t) = filesBelow revPath t := by
  induction h generalizing revPath with
  | here =>
    rw [nil_append, put, filesBelow, filesBelow, filesOfEntries_setEntry]
    rw [hnew]
    rfl
  | @step siblings n u rest hu _ ih =>
    rw [cons_append, put, filesBelow, filesBelow, filesOfEntries_setEntry]
    rw [hu]
    exact ih (n :: revPath)

theorem files_makeDir (h : t.makeDir path = .ok t') : t'.files = t.files := by
  obtain ⟨up, name, entries, names, rfl, hslot, hnew, rfl⟩ := of_makeDir h
  exact filesBelow_put_dir (dirAt_of_follow hslot.follow) hnew []

theorem files_makeDirsRev (h : t.makeDirsRev revPath = .ok t') : t'.files = t.files := by
  induction revPath generalizing t' with
  | nil =>
    cases h
    rfl
  | cons name up ih =>
    rw [makeDirsRev] at h
    split at h
    · rename_i hmake
      cases h
      exact files_makeDir hmake
    · obtain ⟨above, habove, h⟩ := bind_eq_ok.mp h
      exact (files_makeDir h).trans (ih habove)
    · split at h
      · cases h
        rfl
      · cases h

theorem files_makeDirs (h : t.makeDirs path = .ok t') :
    t'.files = t.files :=
  files_makeDirsRev h

/-! ## A file that is written and removed again -/

theorem lookup_filter (name m : String) (entries : List (String × Tree)) :
    (entries.filter (·.1 != name)).lookup m = if m = name then none else entries.lookup m := by
  induction entries using entries_induction name with
  | nil => simp
  | self u rest ih =>
    rw [filter_cons_of_neg (by simp), ih]
    split
    · rfl
    · rename_i hm
      rw [lookup_cons_of_ne (Ne.symm hm)]
  | other n u rest hn ih =>
    rw [filter_cons_of_pos (by simpa using hn), lookup_cons, lookup_cons, ih]
    by_cases hm : m = n
    · simp [hm, hn]
    · simp only [beq_false_of_ne hm]

theorem exists?_of_removeFile (hname : name ≠ "..") (h : t.removeFile (up ++ [name]) = .ok t') :
    t'.exists? (up ++ [name]) = .ok false := by
  obtain ⟨⟨u, names⟩, hfollow, h⟩ := bind_eq_ok.mp h
  obtain ⟨es, ns, hup, hentry⟩ := follow_dropLast hfollow
  obtain ⟨hslot, hu, rfl⟩ := hentry hname
  dsimp only at h
  split_ifs at h with hdir
  cases h
  have hfree : ∀ w, es.lookup name = some w → w.isDir = false := by
    intro w hw
    rw [hu] at hw
    cases hw
    exact Bool.not_eq_true _ ▸ hdir
  have hgone := follow_editAt hup hfree fun m hm => (lookup_filter name m es).trans (if_neg hm)
  rw [← remove_concat (dirAt_of_follow hup)] at hgone
  rw [exists?, IsSlot.find ⟨hgone, hname, hslot.short⟩, lookup_filter, if_pos rfl]

end SkillKit.Tree
