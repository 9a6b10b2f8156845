import SkillKit.Proofs.Json.Documents

/-!
# Ordered maps

A map from texts that keeps its keys in the order in which they first came.  It is given by what is
found under each key (`find?_insert`, `find?_erase`, `find?_filter`) and by the order of its keys.

A mapping document is such a map written out: every operation on fields is the one on maps
(`toFields`).
-/

namespace SkillKit

open List Fields Json

/-- A map that keeps its keys in the order in which they first came. -/
structure OrderedMap (α : Type) where
  entries : List (String × α)
  nodup : (entries.map (·.1)).Nodup

namespace OrderedMap

variable {α : Type}

def keys (m : OrderedMap α) : List String := m.entries.map (·.1)

def size (m : OrderedMap α) : Nat := m.entries.length

def find? (m : OrderedMap α) (key : String) : Option α := m.entries.lookup key

def empty : OrderedMap α := ⟨[], nodup_nil⟩

/-- The entries with a value under a key that is in use. -/
def replace (entries : List (String × α)) (key : String) (value : α) : List (String × α) :=
  entries.map fun e => if e.1 = key then (key, value) else e

theorem map_fst_replace (entries : List (String × α)) (key : String) (value : α) :
    (replace entries key value).map (·.1) = entries.map (·.1) := by
  rw [replace, map_map]
  refine map_congr_left fun e _ => ?_
  by_cases h : e.1 = key <;> simp [h]

/-- The map with a value under a key: a key in use keeps its place, a new one comes last. -/
def insert (m : OrderedMap α) (key : String) (value : α) : OrderedMap α where
  entries := if key ∈ m.keys then replace m.entries key value else m.entries ++ [(key, value)]
  nodup := by
    split
    · rw [map_fst_replace]
      exact m.nodup
    · rename_i hnew
      have hne : ∀ a ∈ m.keys, a ≠ key := fun a ha heq => hnew (heq ▸ ha)
      rw [map_append, nodup_append]
      exact ⟨m.nodup, pairwise_singleton _ _, fun a ha b hb => mem_singleton.mp hb ▸ hne a ha⟩

theorem entries_insert_of_mem {m : OrderedMap α} {key : String} (h : key ∈ m.keys) (value : α) :
    (m.insert key value).entries = replace m.entries key value := if_pos h

theorem entries_insert_of_not_mem {m : OrderedMap α} {key : String} (h : key ∉ m.keys) (value : α) :
    (m.insert key value).entries = m.entries ++ [(key, value)] := if_neg h

def erase (m : OrderedMap α) (key : String) : OrderedMap α where
  entries := m.entries.filter (·.1 ≠ key)
  nodup := m.nodup.sublist (filter_sublist.map _)

/-- The map without the keys whose values are not to be kept. -/
def filter (m : OrderedMap α) (keep : α → Bool) : OrderedMap α where
  entries := m.entries.filter (keep ·.2)
  nodup := m.nodup.sublist (filter_sublist.map _)

/-! ## What is found under a key -/

theorem lookup_eq_some_iff {entries : List (String × α)} (hnodup : (entries.map (·.1)).Nodup)
    {key : String} {value : α} : entries.lookup key = some value ↔ (key, value) ∈ entries := by
  induction entries with
  | nil => simp
  | cons e rest ih =>
    obtain ⟨k, v⟩ := e
    rw [map_cons, nodup_cons] at hnodup
    by_cases hk : key = k
    · subst hk
      have hrest : (key, value) ∉ rest := fun h => hnodup.1 (mem_map.mpr ⟨_, h, rfl⟩)
      simp [hrest, eq_comm]
    · have hbeq : (key == k) = false := by simpa using hk
      rw [lookup_cons, hbeq, ih hnodup.2]
      simp [hk]

theorem find?_eq_some_iff {m : OrderedMap α} {key : String} {value : α} :
    m.find? key = some value ↔ (key, value) ∈ m.entries :=
  lookup_eq_some_iff m.nodup

theorem isSome_find? (m : OrderedMap α) (key : String) : (m.find? key).isSome ↔ key ∈ m.keys := by
  rw [Option.isSome_iff_exists, keys, mem_map]
  constructor
  · rintro ⟨value, h⟩
    exact ⟨_, find?_eq_some_iff.mp h, rfl⟩
  · rintro ⟨e, he, rfl⟩
    exact ⟨e.2, find?_eq_some_iff.mpr he⟩

theorem find?_eq_none_iff {m : OrderedMap α} {key : String} : m.find? key = none ↔ key ∉ m.keys := by
  rw [← isSome_find?, Option.not_isSome_iff_eq_none]

theorem find?_insert (m : OrderedMap α) (key : String) (value : α) (other : String) :
    (m.insert key value).find? other = if other = key then some value else m.find? other := by
  refine Option.ext fun v => ?_
  rw [find?_eq_some_iff]
  by_cases hmem : key ∈ m.keys
  · rw [entries_insert_of_mem hmem, replace, mem_map]
    obtain ⟨e, he, rfl⟩ := mem_map.mp hmem
    by_cases hother : other = e.1
    · rw [if_pos hother, Option.some.injEq]
      constructor
      · rintro ⟨e', -, h⟩
        split at h
        · exact (Prod.mk.inj h).2
        · rename_i hne
          exact absurd ((Prod.mk.inj h).1.trans hother) hne
      · rintro rfl
        exact ⟨e, he, by simp [hother]⟩
    · rw [if_neg hother, find?_eq_some_iff]
      constructor
      · rintro ⟨e', he', h⟩
        split at h
        · exact absurd (Prod.mk.inj h).1.symm hother
        · exact h ▸ he'
      · intro h
        exact ⟨_, h, by simp [hother]⟩
  · rw [entries_insert_of_not_mem hmem, mem_append, ← find?_eq_some_iff]
    by_cases hother : other = key
    · subst hother
      rw [find?_eq_none_iff.mpr hmem]
      simp [eq_comm]
    · simp [hother]

theorem find?_erase (m : OrderedMap α) (key other : String) :
    (m.erase key).find? other = if other = key then none else m.find? other := by
  refine Option.ext fun v => ?_
  rw [find?_eq_some_iff, erase, mem_filter, ← find?_eq_some_iff]
  by_cases hother : other = key <;> simp [hother]

theorem find?_filter (m : OrderedMap α) (keep : α → Bool) (key : String) :
    (m.filter keep).find? key = (m.find? key).filter keep := by
  refine Option.ext fun v => ?_
  rw [find?_eq_some_iff, filter, mem_filter, ← find?_eq_some_iff, Option.filter_eq_some_iff]

/-! ## Maps as fields -/

def toFields (m : OrderedMap α) (write : α → Value) : Fields :=
  m.entries.map fun e => (.text e.1, write e.2)

variable (m : OrderedMap α) (write : α → Value) (key : String)

theorem length_toFields : (m.toFields write).length = m.size := length_map _

theorem get?_toFields : get? (m.toFields write) key = (m.find? key).map write := by
  rw [toFields, find?]
  induction m.entries with
  | nil => rfl
  | cons e rest ih =>
    have hstep : ∀ fields : Fields, get? ((.text e.1, write e.2) :: fields) key =
        if e.1 = key then some (write e.2) else get? fields key := by
      by_cases he : e.1 = key <;> simp [get?, lookup?, Atom.same, he]
    rw [map_cons, hstep, ih, lookup_cons]
    by_cases he : e.1 = key
    · simp [he]
    · have hbeq : (key == e.1) = false := by simpa using Ne.symm he
      rw [if_neg he, hbeq]

theorem has_toFields : has (m.toFields write) (.text key) = (m.find? key).isSome := by
  rw [Bool.eq_iff_iff, isSome_find?, has, toFields, keys]
  simp [Atom.same]

theorem put_replace {entries : List (String × α)} (hnodup : (entries.map (·.1)).Nodup)
    (hmem : key ∈ entries.map (·.1)) (value : α) :
    put (entries.map fun e => (.text e.1, write e.2)) (.text key) (write value) =
      (replace entries key value).map fun e => (.text e.1, write e.2) := by
  induction entries with
  | nil => cases hmem
  | cons e rest ih =>
    rw [map_cons, nodup_cons] at hnodup
    rw [replace, map_cons, map_cons, map_cons, put, Atom.same]
    by_cases he : e.1 = key
    · subst he
      have hrest : ∀ d ∈ rest, (if d.1 = e.1 then (e.1, value) else d) = d := by
        intro d hd
        rw [if_neg]
        exact fun heq => hnodup.1 (heq ▸ mem_map.mpr ⟨d, hd, rfl⟩)
      rw [if_pos BEq.rfl, if_pos rfl, map_congr_left hrest, map_id']
    · have hin : key ∈ rest.map (·.1) := by
        rw [map_cons, mem_cons] at hmem
        exact hmem.resolve_left (Ne.symm he)
      rw [if_neg (by simpa using he), if_neg he]
      exact congrArg _ (ih hnodup.2 hin)

theorem put_toFields (value : α) :
    put (m.toFields write) (.text key) (write value) = (m.insert key value).toFields write := by
  by_cases hmem : key ∈ m.keys
  · rw [toFields, toFields, entries_insert_of_mem hmem]
    exact put_replace write key m.nodup hmem value
  · have hnew : has (m.toFields write) (.text key) = false := by
      rw [has_toFields, find?_eq_none_iff.mpr hmem]
      rfl
    rw [put_of_not_has hnew, toFields, toFields, entries_insert_of_not_mem hmem,
      map_append]
    rfl

theorem erase_toFields :
    Fields.erase (m.toFields write) (.text key) = (m.erase key).toFields write := by
  rw [Fields.erase, toFields, filter_map]
  congr 1
  refine filter_congr fun e _ => ?_
  by_cases he : e.1 = key <;> simp [Atom.same, he]

theorem filterM_toFields {keep : α → Bool} {test : Atom × Value → Except Fault Bool}
    (h : ∀ key value, test (.text key, write value) = .ok (keep value)) :
    (m.toFields write).filterM test = .ok ((m.filter keep).toFields write) :=
  Result.filterM_map fun e _ => h e.1 e.2

theorem fieldsAreJson_toFields (h : ∀ value, isJson (write value) = true) :
    fieldsAreJson (m.toFields write) = true := by
  obtain ⟨entries, hnodup⟩ := m
  rw [toFields]
  induction entries with
  | nil => rfl
  | cons e rest ih =>
    rw [map_cons, nodup_cons] at hnodup
    rw [map_cons, fieldsAreJson, ih hnodup.2, h]
    simp only [isTextKey, Bool.true_and, Bool.and_true, all_map, all_eq_true,
      Function.comp_apply, Bool.not_eq_true', Atom.same, beq_eq_false_iff_ne]
    intro d hd heq
    exact hnodup.1 (heq ▸ mem_map.mpr ⟨d, hd, rfl⟩)

end OrderedMap

end SkillKit
