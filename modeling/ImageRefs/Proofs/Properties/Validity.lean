import ImageRefs.Proofs.Outcome
import ImageRefs.Properties

/-!
Valid properties. The checks accept exactly the values whose aliases obey the rule, stand once and
belong to an assembly; whatever is built by the constructors and changed by the updates is such a
value.
-/

set_option autoImplicit false

namespace ImageRefs

/-! ### Aliases -/

namespace Alias

/-- A letter or `_`, followed by letters, digits and `_` only. -/
def Obeys (name : String) : Prop :=
  ∃ first rest, name.toList = first :: rest ∧ startsAlias first = true ∧
    ∀ c ∈ rest, continuesAlias c = true

theorem fault?_eq_none_iff {name : String} : fault? name = none ↔ Obeys name := by
  unfold fault? Obeys
  cases name.toList with
  | nil => simp
  | cons first rest =>
    have split : (∃ c cs, first :: rest = c :: cs ∧ startsAlias c = true ∧
          ∀ d ∈ cs, continuesAlias d = true) ↔
        startsAlias first = true ∧ ∀ d ∈ rest, continuesAlias d = true := by
      constructor
      · rintro ⟨_, _, same, rule⟩
        cases same
        exact rule
      · exact fun rule => ⟨first, rest, rfl, rule⟩
    rw [split]
    by_cases starts : startsAlias first = true
    · simp [starts]
    · simp [starts]

theorem validate_eq_ok_iff {name : String} : validate name = .ok () ↔ Obeys name := by
  rw [← fault?_eq_none_iff]
  unfold validate
  cases fault? name with
  | none => simp
  | some fault => simp

/-- The aliases seen before are the ones that may not come again. -/
theorem go_eq_ok_iff {seen names : List String} :
    validateAll.go seen names = .ok () ↔
      (∀ name ∈ names, Obeys name) ∧ names.Nodup ∧ ∀ name ∈ names, name ∉ seen := by
  induction names generalizing seen with
  | nil => simp [validateAll.go]
  | cons name names ih =>
    by_cases obeys : Obeys name
    · rw [validateAll.go, validate_eq_ok_iff.mpr obeys, Outcome.ok_bind]
      by_cases repeated : name ∈ seen
      · simp [repeated]
      · -- What was not seen yet joins the aliases that must not come again.
        rw [if_neg repeated, ih]
        rw [List.forall_mem_cons, List.forall_mem_cons, List.nodup_cons]
        simp only [List.mem_cons, not_or]
        constructor
        · rintro ⟨rule, nodup, fresh⟩
          have once : name ∉ names := fun member => (fresh name member).1 rfl
          exact ⟨⟨obeys, rule⟩, ⟨once, nodup⟩, repeated, fun other member => (fresh other member).2⟩
        · rintro ⟨⟨-, rule⟩, ⟨once, nodup⟩, -, fresh⟩
          refine ⟨rule, nodup, fun other member => ⟨?_, fresh other member⟩⟩
          rintro rfl
          exact once member
    · constructor
      · intro accepted
        obtain ⟨_, one, -⟩ := Outcome.bind_eq_ok accepted
        exact absurd (validate_eq_ok_iff.mp one) obeys
      · rintro ⟨rule, -⟩
        exact absurd (rule name (by simp)) obeys

theorem validateAll_eq_ok_iff {names : List String} :
    validateAll names = .ok () ↔ (∀ name ∈ names, Obeys name) ∧ names.Nodup := by
  rw [validateAll, go_eq_ok_iff]
  simp

/-- Whatever is reported, it is about an alias. -/
theorem isConfiguration_of_go {seen names : List String} {error : Error}
    (refused : validateAll.go seen names = .error error) : error.isConfiguration = true := by
  induction names generalizing seen with
  | nil => cases refused
  | cons name names ih =>
    rw [validateAll.go] at refused
    rcases Outcome.bind_eq_error refused with first | ⟨_, -, rest⟩
    · unfold validate at first
      split at first <;> cases first
      rfl
    · split at rest
      · cases rest
        rfl
      · exact ih rest

end Alias

/-! ### Properties -/

namespace Properties

structure Valid (p : Properties) : Prop where
  module_aliases : p.kind = .module → p.aliases = []
  module_embed : p.kind = .module → p.embedInteropTypes = false
  aliases_obey : ∀ name ∈ p.aliases, Alias.Obeys name
  aliases_nodup : p.aliases.Nodup

theorem validate_eq_ok_iff {p : Properties} : p.validate = .ok () ↔ p.Valid := by
  unfold validate
  by_cases embeds : p.kind = .module ∧ p.embedInteropTypes = true
  · rw [if_pos embeds]
    refine ⟨nofun, fun valid => ?_⟩
    have unset := valid.module_embed embeds.1
    rw [embeds.2] at unset
    cases unset
  rw [if_neg embeds]
  by_cases named : p.kind = .module ∧ p.aliases ≠ []
  · rw [if_pos named]
    exact ⟨nofun, fun valid => absurd (valid.module_aliases named.1) named.2⟩
  rw [if_neg named, Alias.validateAll_eq_ok_iff]
  constructor
  · rintro ⟨rule, nodup⟩
    refine ⟨fun kind => ?_, fun kind => ?_, rule, nodup⟩
    · exact Decidable.not_not.mp fun aliases => named ⟨kind, aliases⟩
    · exact Bool.eq_false_iff.mpr fun embed => embeds ⟨kind, embed⟩
  · exact fun valid => ⟨valid.aliases_obey, valid.aliases_nodup⟩

theorem isConfiguration_of_validate {p : Properties} {error : Error}
    (refused : p.validate = .error error) : error.isConfiguration = true := by
  unfold validate at refused
  split at refused
  · cases refused
    rfl
  · split at refused
    · cases refused
      rfl
    · exact Alias.isConfiguration_of_go refused

/-- Checked properties are handed out as they are. -/
theorem checked_eq_ok_iff {p q : Properties} :
    (p.validate >>= fun _ => (pure p : Except Error Properties)) = .ok q ↔
      q = p ∧ q.validate = .ok () := by
  constructor
  · intro h
    obtain ⟨_, accepted, same⟩ := Outcome.bind_eq_ok h
    cases same
    exact ⟨rfl, accepted⟩
  · rintro ⟨rfl, accepted⟩
    rw [accepted]
    rfl

theorem new_eq_ok_iff {kind : ImageKind} {aliases : List String} {embed : Bool} {p : Properties} :
    new kind aliases embed = .ok p ↔ p = ⟨kind, aliases, embed⟩ ∧ p.Valid := by
  rw [← validate_eq_ok_iff]
  exact checked_eq_ok_iff

theorem checked_eq_error {p : Properties} {error : Error}
    (refused : (p.validate >>= fun _ => (pure p : Except Error Properties)) = .error error) :
    p.validate = .error error := by
  rcases Outcome.bind_eq_error refused with first | ⟨_, -, rest⟩
  · exact first
  · cases rest

/-- The values that the constructors and the updates give; `assembly` is also the default. -/
inductive Obtainable : Properties → Prop where
  | new {kind : ImageKind} {aliases : List String} {embed : Bool} {p : Properties}
      (given : Properties.new kind aliases embed = .ok p) : Obtainable p
  | assembly : Obtainable .assembly
  | module : Obtainable .module
  | withAliases {p q : Properties} {aliases : List String} (before : Obtainable p)
      (given : p.withAliases aliases = .ok q) : Obtainable q
  | withEmbedInteropTypes {p q : Properties} {value : Bool} (before : Obtainable p)
      (given : p.withEmbedInteropTypes value = .ok q) : Obtainable q

/-- An update is checked as a whole, so that what it leaves alone need not be known to be valid. -/
theorem Obtainable.valid {p : Properties} (obtained : Obtainable p) : p.Valid := by
  cases obtained with
  | new given => exact validate_eq_ok_iff.mp (checked_eq_ok_iff.mp given).2
  | assembly => exact validate_eq_ok_iff.mp rfl
  | module => exact validate_eq_ok_iff.mp rfl
  | withAliases _ given => exact validate_eq_ok_iff.mp (checked_eq_ok_iff.mp given).2
  | withEmbedInteropTypes _ given => exact validate_eq_ok_iff.mp (checked_eq_ok_iff.mp given).2

end Properties

end ImageRefs
