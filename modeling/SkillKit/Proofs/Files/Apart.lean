import SkillKit.Proofs.Files.Named

/-!
# Places apart from each other

On a path without steps back, following is looking up (`find_eq_ok_iff`), and a change at one path
leaves alone what stands at another one, as long as neither leads on to the other (`get?_put_apart`,
`get?_writeBytes`, `get?_makeDirs`).
-/

namespace SkillKit.Tree

open List

variable {t : Tree} {path : List String}

variable {u : Tree} {other : List String} {content : ByteArray}

/-! ## Paths without steps back -/

theorem follow_of_plain {names : List String} (hplain : ".." ∉ path)
    (h : follow [] t path = .ok (u, names)) :
    get? t path = some u ∧ (∀ n ∈ path, n.utf8ByteSize ≤ maxNameBytes) ∧ names = path := by
  induction path using reverseRecOn generalizing u names with
  | nil =>
    cases h
    exact ⟨rfl, by simp, rfl⟩
  | append_singleton path name ih =>
    rw [mem_append, not_or, mem_singleton] at hplain
    obtain ⟨es, ns, hpath, hentry⟩ := follow_dropLast h
    obtain ⟨hslot, hu, rfl⟩ := hentry (Ne.symm hplain.2)
    obtain ⟨hget, hshorts, rfl⟩ := ih hplain.1 hpath
    refine ⟨(get?_child hget name).trans hu, ?_, rfl⟩
    exact forall_mem_append.mpr ⟨hshorts, forall_mem_singleton.mpr hslot.short⟩

theorem get?_put_apart (new root : Tree) (h : ¬ path <+: other) (h' : ¬ other <+: path) :
    get? (put new path root) other = get? root other := by
  induction path generalizing root other with
  | nil => exact absurd nil_prefix h
  | cons name rest ih =>
    cases other with
    | nil => exact absurd nil_prefix h'
    | cons n below =>
      cases root with
      | file content => rfl
      | dir entries =>
        rw [put, get?, get?]
        by_cases hn : n = name
        · subst hn
          rw [cons_prefix_cons] at h h'
          have hrest := ih ((entries.lookup n).getD (.dir [])) (fun hp => h ⟨rfl, hp⟩)
            fun hp => h' ⟨rfl, hp⟩
          rw [lookup_setEntry_self, Option.bind_some, hrest]
          cases hu : entries.lookup n with
          | some u => rfl
          | none =>
            cases below with
            | nil => exact absurd ⟨rfl, nil_prefix⟩ h'
            | cons m below => rfl
        · rw [lookup_setEntry_of_ne hn]

section Writing

variable {t' : Tree}

theorem IsSlot.get?_put {up names : List String} {name : String} {entries : List (String × Tree)}
    (h : IsSlot t up name entries names) (hplain : ".." ∉ up ++ [name])
    (hfree : ∀ v, entries.lookup name = some v → v.isDir = false) (new : Tree)
    (hother : get? t other = some u) (hout : ¬ other <+: up ++ [name]) :
    get? (Tree.put new (names ++ [name]) t) other = some u := by
  obtain ⟨hget, -, rfl⟩ := follow_of_plain (fun hmem => hplain (mem_append_left _ hmem)) h.follow
  rw [get?_put_apart new t _ hout, hother]
  -- Nothing lies below a file, or below nothing.
  rintro ⟨below, rfl⟩
  rw [get?_append, get?_child hget] at hother
  obtain ⟨v, hv, hbelow⟩ := Option.bind_eq_some_iff.mp hother
  cases v with
  | dir es => cases hfree _ hv
  | file content =>
    cases below with
    | nil => exact hout (by simp)
    | cons n below => cases hbelow

end Writing

end SkillKit.Tree
