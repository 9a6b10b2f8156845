import SkillKit.Proofs.Files.Place
import SkillKit.Proofs.Text.Lines
import SkillKit.Proofs.Text.Utf8

/-!
# Names of entries

The names of a tree of files are sound when in each directory no two entries share a name and every
name is one step of a path.  What a path to a directory and the name of an entry lead to is then the
entry (`find_child`), so a directory can be walked by its listing.
-/

namespace SkillKit

open Text List SkillKit.Tree Host

variable {u v : Tree} {content : ByteArray} {name : String}

namespace Tree

variable {entries : List (String × Tree)} {e : String × Tree} {t : Tree}
variable {names path : List String}

/-! ## Sound names -/

/-- A name that is one step down from a directory. -/
def isName (s : String) : Bool :=
  !s.isEmpty && s != "." && s != ".." && !s.toList.elem '/' &&
    decide (s.utf8ByteSize ≤ maxNameBytes)

mutual

/-- In every directory the entries have names of their own. -/
def wellNamed : Tree → Bool
  | .file _ => true
  | .dir entries => decide (entries.map (·.1)).Nodup && wellNamedAll entries

def wellNamedAll : List (String × Tree) → Bool
  | [] => true
  | (name, t) :: rest => isName name && wellNamed t && wellNamedAll rest

end

theorem wellNamedAll_iff (entries : List (String × Tree)) :
    wellNamedAll entries = true ↔
      ∀ e ∈ entries, isName e.1 = true ∧ e.2.wellNamed = true := by
  induction entries with
  | nil => simp [wellNamedAll]
  | cons e rest ih =>
    rw [wellNamedAll, Bool.and_eq_true, Bool.and_eq_true, ih, forall_mem_cons]

theorem wellNamed_dir :
    (dir entries).wellNamed = true ↔
      (entries.map (·.1)).Nodup ∧ ∀ e ∈ entries, isName e.1 = true ∧ e.2.wellNamed = true := by
  rw [wellNamed, Bool.and_eq_true, decide_eq_true_iff, wellNamedAll_iff]

theorem lookup_of_mem (hnodup : (entries.map (·.1)).Nodup) (he : e ∈ entries) :
    entries.lookup e.1 = some e.2 := by
  obtain ⟨front, rest, rfl⟩ := append_of_mem he
  refine lookup_eq_some_iff.mpr ⟨front, rest, rfl, fun other hother => ?_⟩
  rw [map_append, nodup_append] at hnodup
  rw [bne_iff_ne]
  exact (hnodup.2.2 _ (mem_map_of_mem hother) _ mem_cons_self).symm

theorem mem_of_lookup (h : entries.lookup name = some t) : (name, t) ∈ entries := by
  obtain ⟨front, rest, rfl, -⟩ := lookup_eq_some_iff.mp h
  exact mem_append_right _ mem_cons_self

/-! ## Listings -/

/-- The entries of a directory in the order of their names; a file has none. -/
def listing : Tree → List (String × Tree)
  | .dir entries => entries.mergeSort fun a b => a.1 ≤ b.1
  | .file _ => []

theorem mem_listing_dir :
    e ∈ (dir entries).listing ↔ e ∈ entries :=
  mem_mergeSort

theorem isName_of_mem_listing (ht : t.wellNamed = true) (he : e ∈ t.listing) :
    isName e.1 = true ∧ e.2.wellNamed = true := by
  cases t with
  | file content => cases he
  | dir entries => exact (wellNamed_dir.mp ht).2 e (mem_listing_dir.mp he)

theorem pairwise_listing (ht : t.wellNamed = true) : t.listing.Pairwise fun a b => a.1 < b.1 := by
  cases t with
  | file content => exact .nil
  | dir entries =>
    have hsorted : (dir entries).listing.Pairwise fun a b => decide (a.1 ≤ b.1) = true := by
      apply pairwise_mergeSort
      · intro a b c hab hbc
        rw [decide_eq_true_iff] at hab hbc ⊢
        exact String.le_trans hab hbc
      · intro a b
        simpa using String.le_total a.1 b.1
    have hnodup : ((dir entries).listing.map (·.1)).Nodup :=
      ((mergeSort_perm _ _).map _).nodup_iff.mpr (wellNamed_dir.mp ht).1
    refine (hsorted.and (pairwise_map.mp hnodup)).imp ?_
    rintro a b ⟨hle, hne⟩
    exact Std.lt_of_le_of_ne (of_decide_eq_true hle) hne

theorem listing_of_sorted (h : entries.Pairwise fun a b => a.1 ≤ b.1) :
    (dir entries).listing = entries :=
  mergeSort_of_pairwise (h.imp fun hle => decide_eq_true hle)

theorem eq_of_mem_listing (ht : t.wellNamed = true) (hu : (name, u) ∈ t.listing)
    (hv : (name, v) ∈ t.listing) : u = v := by
  cases t with
  | file content => cases hu
  | dir entries =>
    have hnodup := (wellNamed_dir.mp ht).1
    have hlookup := lookup_of_mem hnodup (mem_listing_dir.mp hu)
    rw [lookup_of_mem hnodup (mem_listing_dir.mp hv)] at hlookup
    exact (Option.some.inj hlookup).symm

theorem get?_cons_eq_some {rest : List String} (ht : t.wellNamed = true) :
    t.get? (name :: rest) = some u ↔ ∃ v, (name, v) ∈ t.listing ∧ v.get? rest = some u := by
  cases t with
  | file content => simp [get?, listing]
  | dir entries =>
    rw [get?, Option.bind_eq_some_iff]
    constructor
    · rintro ⟨v, hv, hrest⟩
      exact ⟨v, mem_listing_dir.mpr (mem_of_lookup hv), hrest⟩
    · rintro ⟨v, hv, hrest⟩
      exact ⟨v, lookup_of_mem (wellNamed_dir.mp ht).1 (mem_listing_dir.mp hv), hrest⟩

theorem wellNamed_of_get? (ht : t.wellNamed = true) (h : t.get? names = some u) :
    u.wellNamed = true := by
  induction names generalizing t with
  | nil =>
    cases h
    exact ht
  | cons name rest ih =>
    obtain ⟨v, hv, hrest⟩ := (get?_cons_eq_some ht).mp h
    exact ih (isName_of_mem_listing ht hv).2 hrest

/-! ## Finding an entry -/

theorem follow_concat_file (h : follow [] t path = .ok (.file content, names)) (name : String) :
    follow [] t (path ++ [name]) = .error .notDirectory := by
  obtain ⟨hwalk, hplace⟩ := follow_eq_ok.mp h
  rw [follow_eq_error, walk_concat, hwalk, Result.ok_bind, move, hplace]

theorem find_concat_file (h : t.find path = .ok (.file content)) (name : String) :
    t.find (path ++ [name]) = .error .notDirectory := by
  obtain ⟨names, hfollow⟩ := find_eq_ok.mp h
  rw [find, follow_concat_file hfollow]
  rfl

theorem find_concat (hname : isName name = true) (h : t.find path = .ok (.dir entries)) :
    t.find (path ++ [name]) = match entries.lookup name with
      | none => .error .noFile
      | some u => .ok u := by
  obtain ⟨names, hfollow⟩ := find_eq_ok.mp h
  simp only [isName, Bool.and_eq_true, bne_iff_ne, decide_eq_true_iff] at hname
  exact IsSlot.find ⟨hfollow, hname.1.1.2, hname.2⟩

theorem find_child (h : t.find path = .ok u) (hu : u.wellNamed = true) (he : e ∈ u.listing) :
    t.find (path ++ [e.1]) = .ok e.2 := by
  cases u with
  | file content => cases he
  | dir entries =>
    rw [find_concat (isName_of_mem_listing hu he).1 h,
      lookup_of_mem (wellNamed_dir.mp hu).1 (mem_listing_dir.mp he)]

theorem find_of_get? (hu : t.find path = .ok u) (hnamed : u.wellNamed = true)
    (h : u.get? names = some v) : t.find (path ++ names) = .ok v := by
  induction names generalizing u path with
  | nil =>
    cases h
    rw [append_nil]
    exact hu
  | cons name rest ih =>
    obtain ⟨w, hw, hrest⟩ := (get?_cons_eq_some hnamed).mp h
    have hstep := find_child hu hnamed hw
    have hbelow := ih hstep (isName_of_mem_listing hnamed hw).2 hrest
    rwa [append_assoc] at hbelow

theorem readText_toUTF8 (s : String) : (file s.toUTF8).readText [] = .ok (Text.unifyLines s) := by
  have hbytes : (file s.toUTF8).readBytes [] = .ok s.toUTF8 := rfl
  rw [readText, hbytes, Result.ok_bind, Text.decode?_toUTF8]

end Tree

/-! ## Paths of entries -/

theorem Path.ofString_of_free (hempty : name ≠ "") (hdot : name ≠ ".") (hfree : '/' ∉ name.toList) :
    Path.ofString name = ⟨"", [name]⟩ := by
  have hslashes : name.toList.takeWhile (· == '/') = [] := by
    cases hcs : name.toList with
    | nil => rfl
    | cons c rest =>
      apply takeWhile_cons_of_neg
      intro hc
      apply hfree
      rw [hcs, beq_iff_eq.mp hc]
      exact mem_cons_self
  rw [Path.ofString, hslashes, splitOnChar_of_free hfree]
  simp [hempty, hdot]

theorem Tree.slash_not_mem (h : isName name = true) : '/' ∉ name.toList := by
  simp only [isName] at h
  intro hmem
  rw [elem_eq_true_of_mem hmem] at h
  simp at h

theorem Path.ofString_of_isName (h : isName name = true) :
    Path.ofString name = ⟨"", [name]⟩ := by
  have hfree := slash_not_mem h
  simp only [isName, Bool.and_eq_true, bne_iff_ne] at h
  exact Path.ofString_of_free (by simpa using h.1.1.1.1) h.1.1.1.2 hfree

theorem Host.locate_join (host : Host) (dir : Path) (names : List String) :
    host.locate (dir.join ⟨"", names⟩) = host.locate dir ++ names := by
  have hjoin : dir.join ⟨"", names⟩ = ⟨dir.root, dir.parts ++ names⟩ := rfl
  rw [locate, locate, hjoin, Path.join, Path.join]
  by_cases habs : dir.isAbsolute
  · rw [if_pos habs]
    exact congrArg Path.parts (if_pos habs)
  · rw [if_neg habs]
    refine (congrArg Path.parts (if_neg habs)).trans ?_
    simp

theorem Host.locate_child (host : Host) (dir : Path) (h : isName name = true) :
    host.locate (dir.child name) = host.locate dir ++ [name] := by
  rw [Path.child, Path.ofString_of_isName h, locate_join]

theorem Path.name_child (dir : Path) (h : isName name = true) :
    (dir.child name).name = name := by
  have hparts : (dir.join ⟨"", [name]⟩).parts = dir.parts ++ [name] := rfl
  rw [Path.child, Path.ofString_of_isName h, Path.name, hparts, getLast?_concat]
  rfl

/-! ## What stands at a path -/

theorem Tree.at?_eq_some {t : Tree} {path : List String} :
    t.at? path = some u ↔ t.find path = .ok u := by
  unfold Tree.at?
  cases t.find path <;> simp

namespace Host

variable {host : Host} {t : Tree} {dir : Path}

/-- What settles what stands at a path. -/
def ground (host : Host) : Tree × Path := (host.files, host.directory)

theorem find_of_at? {p : Path} (h : host.at? p = some t) :
    host.files.find (host.locate p) = .ok t :=
  at?_eq_some.mp h

theorem at?_of_ground {host' : Host} (h : host'.ground = host.ground) (p : Path) :
    host'.at? p = host.at? p := by
  obtain ⟨hfiles, hdirectory⟩ := Prod.mk.inj h
  rw [at?, at?, locate, locate, hfiles, hdirectory]

theorem at?_child {e : String × Tree} (h : host.at? dir = some t) (ht : t.wellNamed = true)
    (he : e ∈ t.listing) : host.at? (dir.child e.1) = some e.2 := by
  rw [at?, at?_eq_some, locate_child host dir (isName_of_mem_listing ht he).1]
  exact find_child (find_of_at? h) ht he

theorem find_child_eq (h : host.at? dir = some t) (hname : isName name = true) :
    host.files.find (host.locate (dir.child name)) = match t.get? [name] with
      | some u => .ok u
      | none => .error (if t.isDir then .noFile else .notDirectory) := by
  rw [locate_child host dir hname]
  cases t with
  | file content => exact find_concat_file (find_of_at? h) name
  | dir entries =>
    rw [find_concat hname (find_of_at? h), get?]
    cases entries.lookup name <;> rfl

theorem exec_pathExists_child (h : host.at? dir = some t) (hname : isName name = true) :
    Act.exec (Act.pathExists (dir.child name)) host = (.ok (t.get? [name]).isSome, host) := by
  rw [Act.exec_pathExists, exists?, find_child_eq h hname]
  cases t.get? [name] with
  | some u => rfl
  | none => cases t <;> rfl

theorem exec_readText_child (h : host.at? dir = some t) (hname : isName name = true)
    (hu : t.get? [name] = some u) :
    Act.exec (Act.readText (dir.child name)) host = (u.readText [], host) := by
  have hfind := find_child_eq h hname
  rw [hu] at hfind
  rw [Act.exec_readText, readText, readText, readBytes, hfind]
  rfl

end Host

end SkillKit
