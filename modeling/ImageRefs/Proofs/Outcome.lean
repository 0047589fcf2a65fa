/-!
Sequences of steps that can fail.
-/

set_option autoImplicit false

namespace ImageRefs.Outcome

variable {Fault A B : Type}

@[simp] theorem ok_bind (value : A) (next : A → Except Fault B) :
    (Except.ok value >>= next) = next value := rfl

@[simp] theorem error_bind (fault : Fault) (next : A → Except Fault B) :
    (Except.error fault >>= next) = .error fault := rfl

@[simp] theorem pure_eq (value : A) : (pure value : Except Fault A) = .ok value := rfl

/-- A sequence succeeds only if its first step does. -/
theorem bind_eq_ok {first : Except Fault A} {next : A → Except Fault B} {result : B}
    (h : (first >>= next) = .ok result) : ∃ value, first = .ok value ∧ next value = .ok result := by
  cases first with
  | error fault => cases h
  | ok value => exact ⟨value, rfl, h⟩

/-- A sequence fails in its first step or behind it. -/
theorem bind_eq_error {first : Except Fault A} {next : A → Except Fault B} {fault : Fault}
    (h : (first >>= next) = .error fault) :
    first = .error fault ∨ ∃ value, first = .ok value ∧ next value = .error fault := by
  cases first with
  | error other => exact Or.inl (by cases h; rfl)
  | ok value => exact Or.inr ⟨value, rfl, h⟩

theorem map_eq_ok {first : Except Fault A} {f : A → B} {result : B}
    (h : first.map f = .ok result) : ∃ value, first = .ok value ∧ result = f value := by
  cases first with
  | error fault => cases h
  | ok value =>
    cases h
    exact ⟨value, rfl, rfl⟩

/-- All steps of a list succeed only if each of them does. -/
theorem mapM_eq_ok {step : A → Except Fault B} {items : List A} :
    (∃ results, items.mapM step = .ok results) ↔
      ∀ item ∈ items, ∃ result, step item = .ok result := by
  induction items with
  | nil => simp
  | cons item items ih =>
    constructor
    · rintro ⟨results, h⟩ other member
      rw [List.mapM_cons] at h
      obtain ⟨result, one, h⟩ := bind_eq_ok h
      obtain ⟨rest, others, -⟩ := bind_eq_ok h
      rcases List.mem_cons.mp member with rfl | member
      · exact ⟨result, one⟩
      · exact ih.mp ⟨rest, others⟩ other member
    · intro all
      obtain ⟨result, one⟩ := all item (by simp)
      obtain ⟨rest, others⟩ := ih.mpr fun other member => all other (by simp [member])
      exact ⟨result :: rest, by simp [List.mapM_cons, one, others]⟩

/-- Each result is that of one of the items. -/
theorem exists_of_mem_results {step : A → Except Fault B} {items : List A} {results : List B}
    (h : items.mapM step = .ok results) {result : B} (member : result ∈ results) :
    ∃ item ∈ items, step item = .ok result := by
  induction items generalizing results with
  | nil =>
    cases h
    cases member
  | cons item items ih =>
    rw [List.mapM_cons] at h
    obtain ⟨first, one, h⟩ := bind_eq_ok h
    obtain ⟨rest, others, h⟩ := bind_eq_ok h
    cases h
    rcases List.mem_cons.mp member with rfl | member
    · exact ⟨item, List.mem_cons_self, one⟩
    · obtain ⟨other, among, found⟩ := ih others member
      exact ⟨other, List.mem_cons_of_mem _ among, found⟩

end ImageRefs.Outcome
