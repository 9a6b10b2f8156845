import SkillKit.Proofs.Files.Named

/-!
# The files of a tree

Walking through a tree lists its files with their paths: each of them (`mem_files`), and each once
(`nodup_files`).
-/

namespace SkillKit.Tree

open List

mutual

theorem mem_filesBelow (revPath : List String) (t : Tree) (hnamed : t.wellNamed = true)
    (path : List String) (content : ByteArray) :
    (path, content) ∈ filesBelow revPath t ↔
      ∃ below, path = revPath.reverse ++ below ∧ t.get? below = some (.file content) := by
  match t with
  | .file bytes =>
    rw [filesBelow, mem_singleton]
    constructor
    · intro h
      cases h
      exact ⟨[], by simp, rfl⟩
    · rintro ⟨below, rfl, hget⟩
      cases below with
      | nil =>
        cases hget
        simp
      | cons _ _ => cases hget
  | .dir entries =>
    rw [filesBelow, mem_filesOfEntries revPath entries (wellNamed_dir.mp hnamed).2]
    constructor
    · rintro ⟨name, u, below, hmem, rfl, hget⟩
      refine ⟨name :: below, rfl, ?_⟩
      rw [get?, lookup_of_mem (wellNamed_dir.mp hnamed).1 hmem]
      exact hget
    · rintro ⟨below, rfl, hget⟩
      cases below with
      | nil => cases hget
      | cons name below =>
        obtain ⟨u, hu, hget⟩ := Option.bind_eq_some_iff.mp hget
        exact ⟨name, u, below, mem_of_lookup hu, rfl, hget⟩

theorem mem_filesOfEntries (revPath : List String) (entries : List (String × Tree))
    (hnamed : ∀ e ∈ entries, isName e.1 = true ∧ e.2.wellNamed = true) (path : List String)
    (content : ByteArray) :
    (path, content) ∈ filesOfEntries revPath entries ↔ ∃ name u below, (name, u) ∈ entries ∧
      path = revPath.reverse ++ name :: below ∧ u.get? below = some (.file content) := by
  match entries with
  | [] => simp [filesOfEntries]
  | (name, u) :: rest =>
    have hfirst := mem_filesBelow (name :: revPath) u (hnamed _ mem_cons_self).2 path content
    rw [filesOfEntries, mem_append, hfirst,
      mem_filesOfEntries revPath rest (fun e he => hnamed e (mem_cons_of_mem _ he))]
    constructor
    · rintro (⟨below, rfl, hget⟩ | ⟨name', u', below, hmem, hrest⟩)
      · exact ⟨name, u, below, mem_cons_self, by simp, hget⟩
      · exact ⟨name', u', below, mem_cons_of_mem _ hmem, hrest⟩
    · rintro ⟨name', u', below, hmem, rfl, hget⟩
      rcases mem_cons.mp hmem with heq | hmem
      · cases heq
        exact .inl ⟨below, by simp, hget⟩
      · exact .inr ⟨name', u', below, hmem, rfl, hget⟩

end

mutual

theorem nodup_filesBelow (revPath : List String) (t : Tree) (hnamed : t.wellNamed = true) :
    ((filesBelow revPath t).map (·.1)).Nodup := by
  match t with
  | .file content => exact pairwise_singleton _ _
  | .dir entries =>
    exact nodup_filesOfEntries revPath entries (wellNamed_dir.mp hnamed).1
      (wellNamed_dir.mp hnamed).2

theorem nodup_filesOfEntries (revPath : List String) (entries : List (String × Tree))
    (hnodup : (entries.map (·.1)).Nodup)
    (hnamed : ∀ e ∈ entries, isName e.1 = true ∧ e.2.wellNamed = true) :
    ((filesOfEntries revPath entries).map (·.1)).Nodup := by
  match entries with
  | [] => exact nodup_nil
  | (name, u) :: rest =>
    rw [map_cons, nodup_cons] at hnodup
    obtain ⟨⟨-, hwell⟩, hrest⟩ := forall_mem_cons.mp hnamed
    rw [filesOfEntries, map_append, nodup_append]
    refine ⟨nodup_filesBelow (name :: revPath) u hwell,
      nodup_filesOfEntries revPath rest hnodup.2 hrest, ?_⟩
    rintro _ hfirst _ hother rfl
    obtain ⟨⟨path, content⟩, hmem, rfl⟩ := mem_map.mp hfirst
    obtain ⟨⟨path', content'⟩, hmem', hpath⟩ := mem_map.mp hother
    obtain ⟨below, rfl, -⟩ := (mem_filesBelow _ u hwell path content).mp hmem
    obtain ⟨name', u', below', hentry, rfl, -⟩ :=
      (mem_filesOfEntries revPath rest hrest path' content').mp hmem'
    simp only [reverse_cons, append_assoc, singleton_append,
      append_cancel_left_eq] at hpath
    obtain ⟨rfl, -⟩ := cons.inj hpath
    exact hnodup.1 (mem_map.mpr ⟨_, hentry, rfl⟩)

end

end SkillKit.Tree
