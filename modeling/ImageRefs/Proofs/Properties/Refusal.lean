import ImageRefs.Proofs.Properties.Validity
import Mathlib.Data.List.Induction
import Mathlib.Data.List.Nodup

/-!
Which properties are refused, and why. A module is refused before its aliases are looked at; of the
aliases of an assembly, the first one is reported that breaks the rule or stood before.
-/

set_option autoImplicit false

namespace ImageRefs

namespace Alias

/-- The first rule that an alias breaks. -/
inductive Breaks (name : String) : AliasFault → Prop where
  | empty (chars : name.toList = []) : Breaks name .empty
  | badStart {first : Char} {rest : List Char} (chars : name.toList = first :: rest)
      (wrong : startsAlias first = false) : Breaks name .badStart
  | badCharacter {first c : Char} {rest : List Char} (chars : name.toList = first :: rest)
      (starts : startsAlias first = true) (member : c ∈ rest)
      (wrong : continuesAlias c = false) : Breaks name .badCharacter

theorem fault?_eq_some_iff {name : String} {fault : AliasFault} :
    fault? name = some fault ↔ Breaks name fault := by
  unfold fault?
  constructor
  · intro found
    split at found
    next chars =>
      cases found
      exact .empty chars
    next first rest chars =>
      split at found
      next wrong =>
        cases found
        exact .badStart chars (by simpa using wrong)
      next starts =>
        split at found
        next wrong =>
          cases found
          obtain ⟨c, member, stops⟩ : ∃ c ∈ rest, continuesAlias c = false := by
            simpa using wrong
          exact .badCharacter chars (by simpa using starts) member stops
        next => cases found
  · intro breaks
    cases breaks with
    | empty chars => rw [chars]
    | badStart chars wrong =>
      rw [chars]
      simp [wrong]
    | badCharacter chars starts member wrong =>
      have stops : ¬∀ c ∈ _, continuesAlias c = true := fun all => by
        have goesOn := all _ member
        rw [wrong] at goesOn
        cases goesOn
      rw [chars]
      simp [starts, stops]

theorem validate_eq_error_iff {name : String} {error : Error} :
    validate name = .error error ↔ ∃ fault, Breaks name fault ∧ error = .invalidAlias name fault := by
  simp only [← fault?_eq_some_iff]
  unfold validate
  cases fault? name with
  | none => simp
  | some fault => simp [eq_comm]

theorem not_obeys_iff {name : String} : ¬Obeys name ↔ ∃ fault, Breaks name fault := by
  simp only [← fault?_eq_none_iff, ← fault?_eq_some_iff]
  exact Option.ne_none_iff_exists'

/-! ### The first alias at fault -/

/-- The alias at an index breaks the rule, or equals an earlier one. -/
def OffendsAt (names : List String) (i : Nat) : Prop :=
  ∃ name, names[i]? = some name ∧ (¬Obeys name ∨ ∃ j < i, names[j]? = some name)

/-- What is reported of the alias at an index. -/
inductive ReportedAt (names : List String) (i : Nat) : Error → Prop where
  | invalid {name : String} {fault : AliasFault} (here : names[i]? = some name)
      (breaks : Breaks name fault) : ReportedAt names i (.invalidAlias name fault)
  | duplicate {name : String} {j : Nat} (here : names[i]? = some name) (obeys : Obeys name)
      (earlier : j < i) (before : names[j]? = some name) :
      ReportedAt names i (.duplicateAlias name)

theorem ReportedAt.offendsAt {names : List String} {i : Nat} {error : Error}
    (reported : ReportedAt names i error) : OffendsAt names i := by
  cases reported with
  | invalid here breaks => exact ⟨_, here, Or.inl (not_obeys_iff.mpr ⟨_, breaks⟩)⟩
  | duplicate here obeys earlier before => exact ⟨_, here, Or.inr ⟨_, earlier, before⟩⟩

/-- The check goes on with what was seen, if the aliases before are accepted. -/
theorem go_append (seen before rest : List String) :
    validateAll.go seen (before ++ rest) =
      validateAll.go seen before >>= fun _ => validateAll.go (before.reverse ++ seen) rest := by
  induction before generalizing seen with
  | nil => rfl
  | cons name before ih =>
    rw [List.cons_append, validateAll.go, validateAll.go]
    cases validate name with
    | error error => rfl
    | ok _ =>
      simp only [Outcome.ok_bind]
      by_cases repeated : name ∈ seen
      · rw [if_pos repeated, if_pos repeated]
        rfl
      · rw [if_neg repeated, if_neg repeated, ih]
        simp

/-- The check stops at one of the aliases, and has accepted those before it. -/
theorem validateAll_eq_error {names : List String} {error : Error}
    (refused : validateAll names = .error error) :
    ∃ before name after, names = before ++ name :: after ∧ validateAll before = .ok () ∧
      (validate name = .error error ∨
        Obeys name ∧ name ∈ before ∧ error = .duplicateAlias name) := by
  induction names using List.reverseRecOn with
  | nil => cases refused
  | append_singleton names last ih =>
    rw [validateAll, go_append, ← validateAll] at refused
    rcases Outcome.bind_eq_error refused with earlier | ⟨_, accepted, here⟩
    · obtain ⟨before, name, after, split, accepted, fault⟩ := ih earlier
      exact ⟨before, name, after ++ [last], by simp [split], accepted, fault⟩
    · refine ⟨names, last, [], rfl, accepted, ?_⟩
      rw [validateAll.go] at here
      rcases Outcome.bind_eq_error here with invalid | ⟨_, valid, repeated⟩
      · exact Or.inl invalid
      · right
        split at repeated
        next member =>
          cases repeated
          exact ⟨validate_eq_ok_iff.mp valid, by simpa using member, rfl⟩
        next => cases repeated

theorem mem_take_iff {names : List String} {name : String} {i : Nat} :
    name ∈ names.take i ↔ ∃ j < i, names[j]? = some name := by
  constructor
  · intro member
    obtain ⟨j, found⟩ := List.mem_iff_getElem?.mp member
    rw [List.getElem?_take] at found
    split at found
    next before => exact ⟨j, before, found⟩
    next => cases found
  · rintro ⟨j, before, found⟩
    exact List.mem_of_getElem? ((List.getElem?_take_of_lt before).trans found)

/-- No alias before an index is at fault exactly if the list up to there is accepted. -/
theorem forall_not_offendsAt_iff {names : List String} {i : Nat} :
    (∀ j < i, ¬OffendsAt names j) ↔ validateAll (names.take i) = .ok () := by
  rw [validateAll_eq_ok_iff, List.nodup_iff_getElem?_ne_getElem?]
  constructor
  · intro unoffending
    constructor
    · intro name member
      obtain ⟨j, before, found⟩ := mem_take_iff.mp member
      by_contra wrong
      exact unoffending j before ⟨name, found, Or.inl wrong⟩
    · intro k j earlier inside same
      obtain ⟨name, here⟩ : ∃ name, (names.take i)[j]? = some name :=
        ⟨_, List.getElem?_eq_getElem inside⟩
      rw [List.length_take] at inside
      have before : j < i := by omega
      rw [here, List.getElem?_take_of_lt (Nat.lt_trans earlier before)] at same
      rw [List.getElem?_take_of_lt before] at here
      exact unoffending j before ⟨name, here, Or.inr ⟨k, earlier, same⟩⟩
  · rintro ⟨rule, once⟩ j before ⟨name, here, fault⟩
    rcases fault with wrong | ⟨k, earlier, same⟩
    · exact wrong (rule name (mem_take_iff.mpr ⟨j, before, here⟩))
    · have found : (names.take i)[j]? = some name := (List.getElem?_take_of_lt before).trans here
      apply once k j earlier (List.getElem?_eq_some_iff.mp found).1
      rw [found, List.getElem?_take_of_lt (Nat.lt_trans earlier before), same]

/-- The alias that is reported is the first one at fault. -/
theorem validateAll_eq_error_iff {names : List String} {error : Error} :
    validateAll names = .error error ↔
      ∃ i, OffendsAt names i ∧ (∀ j < i, ¬OffendsAt names j) ∧ ReportedAt names i error := by
  constructor
  · intro refused
    obtain ⟨before, name, after, rfl, accepted, fault⟩ := validateAll_eq_error refused
    have here : (before ++ name :: after)[before.length]? = some name := by simp
    have unoffending : ∀ j < before.length, ¬OffendsAt (before ++ name :: after) j :=
      forall_not_offendsAt_iff.mpr (by simpa using accepted)
    have reported : ReportedAt (before ++ name :: after) before.length error := by
      rcases fault with invalid | ⟨obeys, member, rfl⟩
      · obtain ⟨fault, breaks, rfl⟩ := validate_eq_error_iff.mp invalid
        exact .invalid here breaks
      · obtain ⟨j, found⟩ := List.mem_iff_getElem?.mp member
        have earlier := (List.getElem?_eq_some_iff.mp found).1
        exact .duplicate here obeys earlier (by rwa [List.getElem?_append_left earlier])
    exact ⟨_, reported.offendsAt, unoffending, reported⟩
  · rintro ⟨i, -, unoffending, reported⟩
    rw [forall_not_offendsAt_iff] at unoffending
    have split {name : String} (here : names[i]? = some name) :
        names = names.take i ++ name :: names.drop (i + 1) := by
      obtain ⟨inside, rfl⟩ := List.getElem?_eq_some_iff.mp here
      rw [← List.drop_eq_getElem_cons inside, List.take_append_drop]
    -- The aliases up to the index are accepted, and the next step of the check is about this one.
    have next {name : String} (here : names[i]? = some name) :
        validateAll names = validate name >>= fun _ =>
          if name ∈ names.take i then .error (.duplicateAlias name)
          else validateAll.go (name :: (names.take i).reverse) (names.drop (i + 1)) := by
      have steps := go_append [] (names.take i) (name :: names.drop (i + 1))
      rw [← split here, ← validateAll, ← validateAll, unoffending, Outcome.ok_bind,
        validateAll.go] at steps
      simpa using steps
    cases reported with
    | invalid here breaks =>
      rw [next here, validate_eq_error_iff.mpr ⟨_, breaks, rfl⟩]
      rfl
    | duplicate here obeys earlier before =>
      have member := mem_take_iff.mpr ⟨_, earlier, before⟩
      rw [next here, validate_eq_ok_iff.mpr obeys, Outcome.ok_bind, if_pos member]

end Alias

/-! ### Properties -/

namespace Properties

variable {kind : ImageKind} {aliases : List String} {embed : Bool} {p : Properties} {error : Error}

theorem valid_iff :
    Valid ⟨kind, aliases, embed⟩ ↔ (kind = .assembly ∨ aliases = [] ∧ embed = false) ∧
      (∀ name ∈ aliases, Alias.Obeys name) ∧ aliases.Nodup := by
  constructor
  · rintro ⟨unnamed, unembedded, rule, once⟩
    refine ⟨?_, rule, once⟩
    cases kind with
    | assembly => exact Or.inl rfl
    | module => exact Or.inr ⟨unnamed rfl, unembedded rfl⟩
  · rintro ⟨alone, rule, once⟩
    refine ⟨?_, ?_, rule, once⟩
    · rintro rfl
      exact (alone.resolve_left nofun).1
    · rintro rfl
      exact (alone.resolve_left nofun).2

theorem exists_new_iff :
    (∃ p, new kind aliases embed = .ok p) ↔ (kind = .assembly ∨ aliases = [] ∧ embed = false) ∧
      (∀ name ∈ aliases, Alias.Obeys name) ∧ aliases.Nodup := by
  simp only [new_eq_ok_iff, exists_eq_left, valid_iff]

theorem new_eq_error_iff :
    new kind aliases embed = .error error ↔
      validate ⟨kind, aliases, embed⟩ = .error error := by
  constructor
  · exact checked_eq_error
  · intro refused
    dsimp only [new]
    rw [refused]
    rfl

/-- A module is refused for its flag first, then for its aliases, whatever they are; only those of
an assembly are looked at. -/
theorem validate_eq_error_iff :
    validate ⟨kind, aliases, embed⟩ = .error error ↔
      (kind = .module ∧ embed = true ∧ error = .embedNotSupported .module) ∨
      (kind = .module ∧ embed = false ∧ aliases ≠ [] ∧ error = .moduleAliases) ∨
      (kind = .assembly ∧ Alias.validateAll aliases = .error error) := by
  cases kind with
  | assembly => simp [validate]
  | module =>
    cases embed with
    | true => simp [validate, eq_comm]
    | false =>
      by_cases named : aliases = []
      · subst named
        simp [validate, Alias.validateAll, Alias.validateAll.go]
      · simp [validate, named, eq_comm]

/-- Properties are made exactly for an assembly, or without aliases and flag, if all aliases obey
the rule and none occurs twice; so the order of the aliases does not decide it, and any of them can
be left out. They are what was asked for. Otherwise the flag of a module is reported, or else its
aliases, or else the first alias at fault: the first rule that it breaks, or that it occurred
before. -/
theorem new_accepts_or_reports_first (kind : ImageKind) (aliases : List String) (embed : Bool) :
    ((∃ p, new kind aliases embed = .ok p) ↔ (kind = .assembly ∨ aliases = [] ∧ embed = false) ∧
      (∀ name ∈ aliases, Alias.Obeys name) ∧ aliases.Nodup) ∧
    (∀ p, new kind aliases embed = .ok p →
      p.kind = kind ∧ p.aliases = aliases ∧ p.embedInteropTypes = embed) ∧
    (∀ other, aliases.Perm other →
      ((∃ p, new kind aliases embed = .ok p) ↔ ∃ p, new kind other embed = .ok p)) ∧
    (∀ some, some.Sublist aliases → (∃ p, new kind aliases embed = .ok p) →
      ∃ p, new kind some embed = .ok p) ∧
    ∀ error, new kind aliases embed = .error error ↔
      (kind = .module ∧ embed = true ∧ error = .embedNotSupported .module) ∨
      (kind = .module ∧ embed = false ∧ aliases ≠ [] ∧ error = .moduleAliases) ∨
      (kind = .assembly ∧ ∃ i, Alias.OffendsAt aliases i ∧ (∀ j < i, ¬Alias.OffendsAt aliases j) ∧
        Alias.ReportedAt aliases i error) := by
  refine ⟨exists_new_iff, ?_, ?_, ?_, ?_⟩
  · intro p given
    obtain ⟨rfl, -⟩ := new_eq_ok_iff.mp given
    exact ⟨rfl, rfl, rfl⟩
  · intro other same
    have empty : aliases = [] ↔ other = [] := by
      rw [← List.length_eq_zero_iff, same.length_eq, List.length_eq_zero_iff]
    have rule : (∀ name ∈ aliases, Alias.Obeys name) ↔ ∀ name ∈ other, Alias.Obeys name := by
      simp only [same.mem_iff]
    rw [exists_new_iff, exists_new_iff, empty, rule, same.nodup_iff]
  · intro some kept
    rw [exists_new_iff, exists_new_iff]
    rintro ⟨alone, rule, once⟩
    refine ⟨alone.imp_right fun plain => ⟨?_, plain.2⟩, ?_, once.sublist kept⟩
    · rw [plain.1] at kept
      exact List.sublist_nil.mp kept
    · exact fun name member => rule name (kept.subset member)
  · intro error
    rw [new_eq_error_iff, validate_eq_error_iff, Alias.validateAll_eq_error_iff]

/-- The third alias is a repetition, and is reported though the fourth breaks the rule. Without the
last two, the aliases are taken in either order. -/
theorem new_reports_repeated_alias :
    let names := ["Äpfel", "_2", "Äpfel", "2"]
    new .assembly names false = .error (.duplicateAlias "Äpfel") ∧
      (∃ i, Alias.OffendsAt names i ∧ (∀ j < i, ¬Alias.OffendsAt names j) ∧
        Alias.ReportedAt names i (.duplicateAlias "Äpfel")) ∧
      new .assembly ["Äpfel", "_2"] true = .ok ⟨.assembly, ["Äpfel", "_2"], true⟩ ∧
      (∃ p, new .assembly ["_2", "Äpfel"] true = .ok p) ∧
      ∃ p, new .assembly ["_2"] true = .ok p := by
  intro names
  have refused : new .assembly names false = .error (.duplicateAlias "Äpfel") := rfl
  have given : new .assembly ["Äpfel", "_2"] true = .ok ⟨.assembly, ["Äpfel", "_2"], true⟩ := rfl
  obtain ⟨-, -, -, -, reports⟩ := new_accepts_or_reports_first .assembly names false
  obtain ⟨-, -, ordered, part, -⟩ := new_accepts_or_reports_first .assembly ["Äpfel", "_2"] true
  have first := (((reports _).mp refused).resolve_left (by simp)).resolve_left (by simp)
  refine ⟨refused, first.2, given, (ordered _ ?_).mp ⟨_, given⟩, part _ ?_ ⟨_, given⟩⟩
  · exact .swap _ _ _
  · exact List.sublist_cons_self _ _

end Properties

end ImageRefs
