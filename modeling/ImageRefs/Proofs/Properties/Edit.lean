import ImageRefs.Proofs.Properties.Validity

/-!
Edits of properties, each of one field. Edits of different fields can change places, unless both are
refused; behind a row of edits, each field has what was last written to it.
-/

set_option autoImplicit false

namespace ImageRefs

/-- Another value for one of the fields that can change. -/
inductive Edit where
  | aliases (names : List String)
  | embedInteropTypes (value : Bool)
  deriving DecidableEq, Repr

namespace Edit

def apply (p : Properties) : Edit → Except Error Properties
  | .aliases names => p.withAliases names
  | .embedInteropTypes value => p.withEmbedInteropTypes value

/-- One edit after the other, as long as they succeed. -/
def applyAll (edits : List Edit) (p : Properties) : Except Error Properties :=
  edits.foldlM apply p

def aliases? : Edit → Option (List String)
  | .aliases names => some names
  | .embedInteropTypes _ => none

def embedInteropTypes? : Edit → Option Bool
  | .aliases _ => none
  | .embedInteropTypes value => some value

/-- The last aliases of the edits, or those there were. -/
def lastAliases (edits : List Edit) (p : Properties) : List String :=
  (edits.filterMap aliases?).getLastD p.aliases

def lastEmbedInteropTypes (edits : List Edit) (p : Properties) : Bool :=
  (edits.filterMap embedInteropTypes?).getLastD p.embedInteropTypes

variable {p q : Properties} {e : Edit} {edits : List Edit}

/-! ### Two edits -/

theorem apply_eq_ok_iff :
    e.apply p = .ok q ↔
      q = ⟨p.kind, e.aliases?.getD p.aliases, e.embedInteropTypes?.getD p.embedInteropTypes⟩ ∧
        q.Valid := by
  rw [← Properties.validate_eq_ok_iff]
  cases e with
  | aliases names => exact Properties.checked_eq_ok_iff
  | embedInteropTypes value => exact Properties.checked_eq_ok_iff

theorem withAliases_assembly (current names : List String) (embed : Bool) :
    Properties.withAliases ⟨.assembly, current, embed⟩ names =
      Alias.validateAll names >>= fun _ => .ok ⟨.assembly, names, embed⟩ := by
  have checks : Properties.validate ⟨.assembly, names, embed⟩ = Alias.validateAll names := by
    simp [Properties.validate]
  rw [← checks]
  rfl

theorem withEmbedInteropTypes_assembly {current : List String}
    (accepted : Alias.validateAll current = .ok ()) (embed value : Bool) :
    Properties.withEmbedInteropTypes ⟨.assembly, current, embed⟩ value =
      .ok ⟨.assembly, current, value⟩ := by
  obtain ⟨rule, once⟩ := Alias.validateAll_eq_ok_iff.mp accepted
  exact (apply_eq_ok_iff (e := .embedInteropTypes value)).mpr ⟨rfl, nofun, nofun, rule, once⟩

/-- For an assembly, only the aliases can be refused. -/
theorem assembly_comm {current : List String} {embed : Bool}
    (valid : Properties.Valid ⟨.assembly, current, embed⟩) (names : List String) (value : Bool) :
    (Properties.withAliases ⟨.assembly, current, embed⟩ names >>= (·.withEmbedInteropTypes value)) =
      Properties.withEmbedInteropTypes ⟨.assembly, current, embed⟩ value >>=
        (·.withAliases names) := by
  have kept : Alias.validateAll current = .ok () :=
    Alias.validateAll_eq_ok_iff.mpr ⟨valid.aliases_obey, valid.aliases_nodup⟩
  rw [withEmbedInteropTypes_assembly kept, Outcome.ok_bind, withAliases_assembly,
    withAliases_assembly]
  cases accepted : Alias.validateAll names with
  | error error => rfl
  | ok _ => exact withEmbedInteropTypes_assembly accepted embed value

/-- A valid module has neither aliases nor the flag, and cannot be given any of them. -/
theorem module_comm (names : List String) (value : Bool) (alone : names = [] ∨ value = false) :
    (Properties.module.withAliases names >>= (·.withEmbedInteropTypes value)) =
      Properties.module.withEmbedInteropTypes value >>= (·.withAliases names) := by
  cases names with
  | nil => cases value <;> rfl
  | cons name names =>
    cases alone.resolve_left (List.cons_ne_nil name names)
    rfl

/-- What a module is given first is reported. -/
theorem module_refuses {names : List String} (given : names ≠ []) :
    (Properties.module.withAliases names >>= (·.withEmbedInteropTypes true)) =
        .error .moduleAliases ∧
      (Properties.module.withEmbedInteropTypes true >>= (·.withAliases names)) =
        .error (.embedNotSupported .module) := by
  cases names with
  | nil => exact absurd rfl given
  | cons name names => exact ⟨rfl, rfl⟩

theorem eq_module_of_valid (valid : p.Valid) (kind : p.kind = .module) : p = .module := by
  obtain ⟨kind, aliases, embed⟩ := p
  obtain rfl := kind
  obtain rfl := valid.module_aliases rfl
  obtain rfl := valid.module_embed rfl
  rfl

/-- The aliases and the flag can be edited in either order. -/
theorem aliases_embed_comm (valid : p.Valid) {names : List String} {value : Bool}
    (alone : ¬(p.kind = .module ∧ names ≠ [] ∧ value = true)) :
    (p.withAliases names >>= (·.withEmbedInteropTypes value)) =
      p.withEmbedInteropTypes value >>= (·.withAliases names) := by
  cases kind : p.kind with
  | assembly =>
    obtain ⟨_, current, embed⟩ := p
    obtain rfl := kind
    exact assembly_comm valid names value
  | module =>
    obtain rfl := eq_module_of_valid valid kind
    cases value with
    | false => exact module_comm names false (Or.inr rfl)
    | true =>
      have plain : names = [] := Decidable.not_not.mp fun given => alone ⟨rfl, given, rfl⟩
      exact module_comm names true (Or.inl plain)

/-! ### Rows of edits -/

theorem getLastD_filterMap_cons {A : Type} (field? : Edit → Option A) (e : Edit) (edits : List Edit)
    (start : A) :
    ((e :: edits).filterMap field?).getLastD start =
      (edits.filterMap field?).getLastD ((field? e).getD start) := by
  cases found : field? e with
  | none => rw [List.filterMap_cons_none found, Option.getD_none]
  | some value => rw [List.filterMap_cons_some found, List.getLastD_cons, Option.getD_some]

/-- Every edit leaves a valid value, with the other fields as they were. -/
theorem applyAll_eq_ok (valid : p.Valid) (given : applyAll edits p = .ok q) :
    q.Valid ∧ q = ⟨p.kind, lastAliases edits p, lastEmbedInteropTypes edits p⟩ := by
  induction edits generalizing p with
  | nil =>
    cases given
    exact ⟨valid, rfl⟩
  | cons e edits ih =>
    rw [applyAll, List.foldlM_cons] at given
    obtain ⟨next, one, rest⟩ := Outcome.bind_eq_ok given
    obtain ⟨rfl, between⟩ := apply_eq_ok_iff.mp one
    obtain ⟨valid, same⟩ := ih between rest
    refine ⟨valid, same.trans ?_⟩
    simp only [lastAliases, lastEmbedInteropTypes, getLastD_filterMap_cons]

end Edit

end ImageRefs
