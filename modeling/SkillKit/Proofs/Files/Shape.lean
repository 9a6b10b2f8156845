import Mathlib.Data.List.Induction
import SkillKit.Proofs.Run

/-!
# Shapes of file trees

The shape of a tree is the tree with all files emptied.  Whether a file can be written or a
directory be made, and what the shape is afterwards, is settled by the shape alone
(`shape_writeText`, `shape_makeDirs`): trees that differ only in what their files hold go on to
differ only in that.
-/

namespace SkillKit.Tree

variable {t here root : Tree} {trail : List (String × Tree)}

mutual

/-- The tree with its files emptied. -/
def shape : Tree → Tree
  | .file _ => .file .empty
  | .dir entries => .dir (shapes entries)

def shapes : List (String × Tree) → List (String × Tree)
  | [] => []
  | (name, t) :: rest => (name, shape t) :: shapes rest

end

theorem lookup_shapes (name : String) (entries : List (String × Tree)) :
    (shapes entries).lookup name = (entries.lookup name).map shape := by
  induction entries with
  | nil => rfl
  | cons e rest ih =>
    obtain ⟨n, t⟩ := e
    rw [shapes, List.lookup_cons, List.lookup_cons]
    cases name == n with
    | true => rfl
    | false => exact ih

theorem shapes_setEntry (name : String) (t : Tree) (entries : List (String × Tree)) :
    shapes (setEntry name t entries) = setEntry name t.shape (shapes entries) := by
  induction entries with
  | nil => rfl
  | cons e rest ih =>
    obtain ⟨n, u⟩ := e
    rw [setEntry, shapes, setEntry]
    cases n == name with
    | true => rfl
    | false => simp [shapes, ih]

theorem shape_put (new : Tree) (path : List String) (t : Tree) :
    (put new path t).shape = put new.shape path t.shape := by
  induction path generalizing t with
  | nil => rfl
  | cons name rest ih =>
    cases t with
    | file content => rfl
    | dir entries =>
      rw [put, shape, shapes_setEntry, ih, shape, put, lookup_shapes]
      cases entries.lookup name <;> rfl

theorem isDir_shape (t : Tree) : t.shape.isDir = t.isDir := by
  cases t <;> rfl

/-! ## Places in a tree -/

/-- What stands at names from the root, none of which leads back. -/
def get? : Tree → List String → Option Tree
  | t, [] => some t
  | .dir entries, name :: rest => (entries.lookup name).bind (get? · rest)
  | .file _, _ :: _ => none

theorem get?_append (t : Tree) (names more : List String) :
    get? t (names ++ more) = (get? t names).bind (get? · more) := by
  induction names generalizing t with
  | nil => rfl
  | cons name rest ih =>
    cases t with
    | file content => rfl
    | dir entries =>
      rw [List.cons_append, get?, get?]
      cases entries.lookup name with
      | none => rfl
      | some u => exact ih u

theorem get?_child {names : List String} {entries : List (String × Tree)}
    (h : get? t names = some (.dir entries)) (name : String) :
    get? t (names ++ [name]) = entries.lookup name := by
  rw [get?_append, h, Option.bind_some]
  exact Option.bind_fun_some _

theorem get?_shape (t : Tree) (names : List String) : get? t.shape names = (get? t names).map shape := by
  induction names generalizing t with
  | nil => rfl
  | cons name rest ih =>
    cases t with
    | file content => rfl
    | dir entries =>
      rw [shape, get?, get?, lookup_shapes]
      cases entries.lookup name with
      | none => rfl
      | some u => exact ih u

/-- A place reached from the root, with the directories above it. -/
inductive Leads (root : Tree) : List (String × Tree) → Tree → Prop
  | root : Leads root [] root
  | step {trail entries : List (String × Tree)} {name : String} {t : Tree}
      (h : Leads root trail (.dir entries)) (hname : entries.lookup name = some t) :
      Leads root ((name, .dir entries) :: trail) t

def trailNames (trail : List (String × Tree)) : List String := (trail.map (·.1)).reverse

theorem trailNames_cons (name : String) (up : Tree) (trail : List (String × Tree)) :
    trailNames ((name, up) :: trail) = trailNames trail ++ [name] := by
  rw [trailNames, List.map_cons, List.reverse_cons, trailNames]

theorem Leads.get? (h : Leads root trail here) : get? root (trailNames trail) = some here := by
  induction h with
  | root => rfl
  | step _ hname ih =>
    rw [trailNames_cons, get?_child ih, hname]

/-! ## Following a path -/

/-- One step of a path, from the place at names to the place at other names. -/
def move (root : Tree) (names : List String) (name : String) : Except Fault (List String) :=
  match get? root names with
  | some (.dir entries) =>
    if name == ".." then .ok names.dropLast
    else if maxNameBytes < name.utf8ByteSize then .error (.system none)
    else if (entries.lookup name).isSome then .ok (names ++ [name])
    else .error .noFile
  | _ => .error .notDirectory

/-- The names of the place where a path ends. -/
def walk (root : Tree) (path : List String) : Except Fault (List String) :=
  path.foldlM (move root) []

theorem follow_dir (trail entries : List (String × Tree)) (name : String) (rest : List String) :
    follow trail (.dir entries) (name :: rest) =
      if name == ".." then follow trail.tail ((trail.head?.map (·.2)).getD (.dir entries)) rest
      else if maxNameBytes < name.utf8ByteSize then .error (.system none)
      else match entries.lookup name with
        | none => .error .noFile
        | some t => follow ((name, .dir entries) :: trail) t rest := by
  cases trail <;> rfl

theorem follow_of_leads (h : Leads root trail here) (path : List String) :
    (·.2) <$> follow trail here path = path.foldlM (move root) (trailNames trail) ∧
      ∀ found, follow trail here path = .ok found → get? root found.2 = some found.1 := by
  induction path generalizing trail here with
  | nil =>
    refine ⟨rfl, fun found hfound => ?_⟩
    cases hfound
    exact h.get?
  | cons name rest ih =>
    rw [List.foldlM_cons, move, h.get?]
    cases here with
    | file content => exact ⟨rfl, fun _ hfound => by cases hfound⟩
    | dir entries =>
      rw [follow_dir]
      dsimp only
      by_cases hup : name == ".."
      · rw [if_pos hup, if_pos hup]
        cases h with
        | root => exact ih .root
        | step habove hname =>
          rw [trailNames_cons, List.dropLast_concat]
          exact ih habove
      · rw [if_neg hup, if_neg hup]
        by_cases hlong : maxNameBytes < name.utf8ByteSize
        · rw [if_pos hlong, if_pos hlong]
          exact ⟨rfl, fun _ hfound => by cases hfound⟩
        · rw [if_neg hlong, if_neg hlong]
          cases hu : entries.lookup name with
          | none => exact ⟨rfl, fun _ hfound => by cases hfound⟩
          | some u =>
            have hstep := ih (.step h hu)
            rwa [trailNames_cons] at hstep

section Follow

variable {u : Tree} {path names : List String} {f : Fault}

theorem follow_eq_ok : follow [] t path = .ok (u, names) ↔
    walk t path = .ok names ∧ get? t names = some u := by
  obtain ⟨hwalk, hget⟩ := follow_of_leads (.root : Leads t [] t) path
  constructor
  · intro h
    rw [h] at hwalk
    exact ⟨hwalk.symm, hget _ h⟩
  · rintro ⟨hnames, hu⟩
    cases hfollow : follow [] t path with
    | error f =>
      rw [hfollow] at hwalk
      cases hwalk.trans hnames
    | ok found =>
      rw [hfollow] at hwalk
      cases hwalk.trans hnames
      rw [Option.some.inj (hu.symm.trans (hget _ hfollow))]

theorem follow_eq_error : follow [] t path = .error f ↔ walk t path = .error f := by
  have hwalk := (follow_of_leads (.root : Leads t [] t) path).1
  change _ = walk t path at hwalk
  rw [← hwalk]
  cases follow [] t path <;> simp

theorem walk_concat (t : Tree) (path : List String) (name : String) :
    walk t (path ++ [name]) = walk t path >>= (move t · name) := by
  rw [walk, List.foldlM_append]
  exact congrArg _ (funext fun names => bind_pure _)

theorem move_eq_ok {name : String} {names' : List String} : move t names name = .ok names' ↔
    ∃ entries, get? t names = some (.dir entries) ∧ (name = ".." ∧ names' = names.dropLast ∨
      name ≠ ".." ∧ name.utf8ByteSize ≤ maxNameBytes ∧ (entries.lookup name).isSome = true ∧
        names' = names ++ [name]) := by
  rw [move]
  split
  · rename_i entries hplace
    constructor
    · intro h
      refine ⟨entries, hplace, ?_⟩
      split_ifs at h with hup hlong hsome <;> cases h
      · exact .inl ⟨by simpa using hup, rfl⟩
      · exact .inr ⟨by simpa using hup, Nat.not_lt.mp hlong, hsome, rfl⟩
    · rintro ⟨es, hes, hlast⟩
      cases hplace.symm.trans hes
      rcases hlast with ⟨rfl, rfl⟩ | ⟨hup, hshort, hsome, rfl⟩
      · rfl
      · rw [if_neg (by simpa using hup), if_neg (Nat.not_lt.mpr hshort), if_pos hsome]
  · rename_i hno
    constructor
    · intro h
      cases h
    · rintro ⟨es, hes, -⟩
      exact absurd hes (hno es)

theorem follow_shape (t : Tree) (path : List String) :
    follow [] t.shape path = (follow [] t path).map fun found => (found.1.shape, found.2) := by
  have hwalk : walk t.shape path = walk t path := by
    have hmove : move t.shape = move t := by
      funext names name
      rw [move, move, get?_shape]
      cases get? t names with
      | none => rfl
      | some u =>
        cases u with
        | file content => rfl
        | dir entries => simp only [Option.map_some, shape, lookup_shapes, Option.isSome_map]
    rw [walk, hmove, walk]
  cases hfollow : follow [] t path with
  | error f => exact follow_eq_error.mpr (hwalk.trans (follow_eq_error.mp hfollow))
  | ok found =>
    obtain ⟨hnames, hget⟩ := follow_eq_ok.mp hfollow
    exact follow_eq_ok.mpr ⟨hwalk.trans hnames, by rw [get?_shape, hget, Option.map_some]⟩

end Follow

theorem isDirAt_shape (t : Tree) (path : List String) : t.shape.isDirAt path = t.isDirAt path := by
  unfold isDirAt find
  rw [follow_shape]
  cases follow [] t path with
  | error f => rfl
  | ok found =>
    simp only [Except.map, Result.map_ok, isDir_shape]

/-! ## Changes -/

theorem slot_shape (t : Tree) (path : List String) (taken : Fault) :
    t.shape.slot path taken = (t.slot path taken).map fun place => (place.1, place.2.map shape) := by
  unfold slot
  cases path.getLast? with
  | none => rfl
  | some name =>
    simp only [follow_shape]
    cases follow [] t path.dropLast with
    | error f => rfl
    | ok found =>
      obtain ⟨place, names⟩ := found
      cases place with
      | file content => rfl
      | dir entries =>
        simp only [Except.map, Result.ok_bind, shape, lookup_shapes]
        split_ifs <;> rfl

theorem shape_writeText (t : Tree) (path : List String) (s : String) :
    (t.writeText path s).map shape = t.shape.writeBytes path .empty := by
  rw [writeText, writeBytes, writeBytes, slot_shape]
  cases t.slot path .isDirectory with
  | error f => rfl
  | ok place =>
    obtain ⟨names, there⟩ := place
    rcases there with _ | ⟨_⟩ | ⟨_⟩
    · exact congrArg Except.ok (shape_put _ names t)
    · exact congrArg Except.ok (shape_put _ names t)
    · rfl

theorem shape_makeDir (t : Tree) (path : List String) :
    (t.makeDir path).map shape = t.shape.makeDir path := by
  rw [makeDir, makeDir, slot_shape]
  cases t.slot path .occupied with
  | error f => rfl
  | ok place =>
    obtain ⟨names, there⟩ := place
    cases there with
    | none => exact congrArg Except.ok (shape_put _ names t)
    | some u => rfl

theorem shape_makeDirsRev (t : Tree) (revPath : List String) :
    (t.makeDirsRev revPath).map shape = t.shape.makeDirsRev revPath := by
  induction revPath with
  | nil => rfl
  | cons name up ih =>
    have hmake := shape_makeDir t (name :: up).reverse
    unfold makeDirsRev
    simp only [isDirAt_shape, ← hmake, ← ih]
    cases t.makeDir (name :: up).reverse with
    | ok made => rfl
    | error f =>
      cases f
      case noFile =>
        cases t.makeDirsRev up with
        | error g => rfl
        | ok above => exact shape_makeDir above _
      all_goals
        cases t.isDirAt (name :: up).reverse with
        | error g => rfl
        | ok there => cases there <;> rfl

theorem shape_makeDirs (t : Tree) (path : List String) :
    (t.makeDirs path).map shape = t.shape.makeDirs path :=
  shape_makeDirsRev t path.reverse

end SkillKit.Tree
