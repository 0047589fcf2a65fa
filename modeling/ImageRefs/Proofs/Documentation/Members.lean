import ImageRefs.Documentation.Members
import Mathlib.Data.List.Dedup

/-!
Members added one after the other: each id has the text it was first given, and stands once.
-/

set_option autoImplicit false

namespace ImageRefs.Documentation.Members

def ids (members : Members) : List String :=
  members.entries.map Prod.fst

def addAll (members : Members) (entries : List (String × String)) : Members :=
  entries.foldl (fun members entry => members.add entry.1 entry.2) members

theorem mem_ids_iff (members : Members) (id : String) :
    id ∈ members.ids ↔ ∃ text, members.text? id = some text := by
  unfold ids text?
  rw [← Option.isSome_iff_exists, List.lookup_isSome_iff]
  simp

theorem text?_addAll (members : Members) (entries : List (String × String)) (id : String) :
    (members.addAll entries).text? id = (members.text? id).or (entries.lookup id) := by
  induction entries generalizing members with
  | nil => simp [addAll]
  | cons entry entries ih =>
    obtain ⟨name, text⟩ := entry
    have rest := ih (members.add name text)
    rw [text?_add, Option.or_assoc] at rest
    refine rest.trans (congrArg _ ?_)
    by_cases same : id = name
    · simp [same]
    · simp [same, List.lookup_cons, show (id == name) = false from beq_false_of_ne same]

theorem nodup_ids_add {members : Members} (nodup : members.ids.Nodup) (id text : String) :
    (members.add id text).ids.Nodup := by
  unfold add
  split
  · exact nodup
  next absent =>
    have new : id ∉ members.ids := by
      rw [mem_ids_iff, ← Option.isSome_iff_exists]
      exact absent
    simp only [ids, List.map_append, List.map_cons, List.map_nil]
    apply List.nodup_append.mpr
    refine ⟨nodup, by simp, ?_⟩
    intro other member _ last
    rw [List.mem_singleton] at last
    rintro rfl
    exact new (last ▸ member)

theorem nodup_ids_addAll {members : Members} (nodup : members.ids.Nodup)
    (entries : List (String × String)) : (members.addAll entries).ids.Nodup := by
  induction entries generalizing members with
  | nil => exact nodup
  | cons entry entries ih => exact ih (nodup_ids_add nodup entry.1 entry.2)

theorem mem_ids_addAll (members : Members) (entries : List (String × String)) (id : String) :
    id ∈ (members.addAll entries).ids ↔ id ∈ members.ids ∨ id ∈ entries.map Prod.fst := by
  simp only [mem_ids_iff, text?_addAll, ← Option.isSome_iff_exists, Option.isSome_or,
    Bool.or_eq_true, List.lookup_isSome_iff]
  simp

/-- Entries that have all different ids are all added. -/
theorem addAll_of_nodup {front entries : List (String × String)}
    (nodup : ((front ++ entries).map Prod.fst).Nodup) :
    addAll ⟨front⟩ entries = ⟨front ++ entries⟩ := by
  induction entries generalizing front with
  | nil => simp [addAll]
  | cons entry entries ih =>
    have new : ¬(text? ⟨front⟩ entry.1).isSome := by
      rw [Option.isSome_iff_exists, ← mem_ids_iff]
      rw [List.map_append, List.map_cons] at nodup
      exact fun member => (List.nodup_append.mp nodup).2.2 _ member _ (by simp) rfl
    have added : add ⟨front⟩ entry.1 entry.2 = ⟨front ++ [entry]⟩ := by rw [add, if_neg new]
    rw [← List.singleton_append, ← List.append_assoc] at nodup ⊢
    exact (congrArg (addAll · entries) added).trans (ih nodup)

theorem mem_entries_add {members : Members} {id text : String} {entry : String × String}
    (member : entry ∈ (members.add id text).entries) :
    entry ∈ members.entries ∨ entry = (id, text) := by
  unfold add at member
  split at member
  · exact Or.inl member
  · simpa using member

/-- No entry comes from elsewhere. -/
theorem mem_entries_addAll {members : Members} {entries : List (String × String)}
    {entry : String × String} (member : entry ∈ (members.addAll entries).entries) :
    entry ∈ members.entries ∨ entry ∈ entries := by
  induction entries generalizing members with
  | nil => exact Or.inl member
  | cons first entries ih =>
    rcases ih member with known | later
    · rcases mem_entries_add known with known | rfl
      · exact Or.inl known
      · exact Or.inr List.mem_cons_self
    · exact Or.inr (List.mem_cons_of_mem _ later)

theorem text?_eq_some_iff {members : Members} (nodup : members.ids.Nodup) (id text : String) :
    members.text? id = some text ↔ (id, text) ∈ members.entries := by
  obtain ⟨entries⟩ := members
  unfold ids at nodup
  unfold text?
  induction entries with
  | nil => simp
  | cons entry entries ih =>
    obtain ⟨name, found⟩ := entry
    rw [List.map_cons, List.nodup_cons] at nodup
    have later := ih nodup.2
    by_cases same : id = name
    · subst same
      have absent : (id, text) ∉ entries := fun member => nodup.1 (List.mem_map.mpr ⟨_, member, rfl⟩)
      simp [absent, eq_comm]
    · simp [List.lookup_cons, beq_false_of_ne same, same, later]

/-- The order of the entries does not matter. -/
theorem text?_perm {members other : Members} (nodup : members.ids.Nodup)
    (same : members.entries.Perm other.entries) (id : String) :
    members.text? id = other.text? id := by
  have nodup' : other.ids.Nodup := (same.map Prod.fst).nodup_iff.mp nodup
  apply Option.ext
  intro text
  rw [text?_eq_some_iff nodup, text?_eq_some_iff nodup', same.mem_iff]

/-- There are as many members as different ids were added. -/
theorem size_addAll (entries : List (String × String)) :
    (addAll {} entries).size = (entries.map Prod.fst).dedup.length := by
  have nodup : (addAll {} entries).ids.Nodup := nodup_ids_addAll (by simp [ids]) entries
  have same : (addAll {} entries).ids.Perm (entries.map Prod.fst).dedup := by
    rw [List.perm_ext_iff_of_nodup nodup (List.nodup_dedup _)]
    intro id
    rw [mem_ids_addAll, List.mem_dedup]
    simp [ids]
  rw [← same.length_eq, size, ids, List.length_map]

end ImageRefs.Documentation.Members
