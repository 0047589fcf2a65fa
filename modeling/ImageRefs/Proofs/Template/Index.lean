import ImageRefs.Diagnostic.Template
import Mathlib.Data.List.TakeWhile

/-!
Indices in templates, as they are spelled and as they are read. A spelling is read as the number it
stands for, unless that number is too large for an index.
-/

set_option autoImplicit false

namespace ImageRefs.Template

/-- An optional `+` and one digit or more, which are the decimal number `index`. -/
def Spells (spelling : List Char) (index : Nat) : Prop :=
  ∃ digits, (spelling = digits ∨ spelling = '+' :: digits) ∧ digits ≠ [] ∧
    (∀ c ∈ digits, c.isDigit = true) ∧ Nat.ofDigitChars 10 digits 0 = index

theorem Spells.character {spelling : List Char} {index : Nat} (spells : Spells spelling index) :
    ∀ c ∈ spelling, c = '+' ∨ c.isDigit = true := by
  obtain ⟨digits, rfl | rfl, -, ascii, -⟩ := spells
  · exact fun c member => Or.inr (ascii c member)
  · intro c member
    rcases List.mem_cons.mp member with rfl | member
    · exact Or.inl rfl
    · exact Or.inr (ascii c member)

theorem Spells.not_mem {spelling : List Char} {index : Nat} (spells : Spells spelling index)
    {brace : Char} (isBrace : brace = '{' ∨ brace = '}') : brace ∉ spelling := by
  intro member
  rcases isBrace with rfl | rfl
  · exact absurd (spells.character _ member) (by decide)
  · exact absurd (spells.character _ member) (by decide)

theorem Spells.ne_nil {spelling : List Char} {index : Nat} (spells : Spells spelling index) :
    spelling ≠ [] := by
  obtain ⟨digits, rfl | rfl, some, -⟩ := spells
  · exact some
  · simp

/-! ### Reading digits -/

theorem digit?_eq_some_iff {c : Char} {d : Nat} :
    digit? c = some d ↔ c.isDigit = true ∧ c.toNat - '0'.toNat = d := by
  unfold digit?
  by_cases digit : c.isDigit = true
  · simp [digit]
  · simp [digit]

theorem le_ofDigitChars (digits : List Char) (n : Nat) : n ≤ Nat.ofDigitChars 10 digits n := by
  induction digits generalizing n with
  | nil => exact Nat.le_refl n
  | cons c rest ih =>
    rw [Nat.ofDigitChars_cons]
    have tail := ih (10 * n + (c.toNat - '0'.toNat))
    omega

/-- Digits are given up as soon as the number is too large; more digits would only enlarge it. -/
theorem readDigits_eq_some_iff {n m : Nat} {digits : List Char} (small : n < indexBound) :
    readDigits n digits = some m ↔
      (∀ c ∈ digits, c.isDigit = true) ∧ Nat.ofDigitChars 10 digits n = m ∧ m < indexBound := by
  induction digits generalizing n with
  | nil =>
    simp only [readDigits, Option.some.injEq, Nat.ofDigitChars_nil, List.not_mem_nil,
      false_imp_iff, implies_true, true_and]
    exact ⟨fun same => ⟨same, same ▸ small⟩, And.left⟩
  | cons c rest ih =>
    rw [readDigits, List.forall_mem_cons, Nat.ofDigitChars_cons]
    by_cases digit : c.isDigit = true
    · have value : digit? c = some (c.toNat - '0'.toNat) := digit?_eq_some_iff.mpr ⟨digit, rfl⟩
      rw [value, Option.bind_eq_bind, Option.bind_some, Nat.mul_comm n 10]
      dsimp only
      by_cases fits : 10 * n + (c.toNat - '0'.toNat) < indexBound
      · rw [if_pos fits, ih fits]
        simp [digit]
      · rw [if_neg fits]
        have enlarged := le_ofDigitChars rest (10 * n + (c.toNat - '0'.toNat))
        constructor
        · exact nofun
        · rintro ⟨-, rfl, below⟩
          omega
    · have none : digit? c = none := by simp [digit?, digit]
      simp [none, digit]

theorem readIndex?_eq_some_iff {spelling : List Char} {index : Nat} :
    readIndex? spelling = some index ↔ Spells spelling index ∧ index < indexBound := by
  have start : 0 < indexBound := by decide
  unfold readIndex?
  split
  next c rest =>
    rw [readDigits_eq_some_iff start]
    constructor
    · rintro ⟨ascii, value, below⟩
      exact ⟨⟨c :: rest, Or.inr rfl, by simp, ascii, value⟩, below⟩
    · rintro ⟨⟨digits, same | same, -, ascii, value⟩, below⟩
      · subst same
        exact absurd (ascii '+' (by simp)) (by decide)
      · obtain rfl := (List.cons.inj same).2
        exact ⟨ascii, value, below⟩
  next c rest unsigned =>
    rw [readDigits_eq_some_iff start]
    constructor
    · rintro ⟨ascii, value, below⟩
      exact ⟨⟨c :: rest, Or.inl rfl, by simp, ascii, value⟩, below⟩
    · rintro ⟨⟨digits, same | same, some, ascii, value⟩, below⟩
      · subst same
        exact ⟨ascii, value, below⟩
      · -- A sign with digits behind it was dealt with before.
        obtain ⟨rfl, rfl⟩ := List.cons.inj same
        obtain ⟨first, more, rfl⟩ := List.exists_cons_of_ne_nil some
        exact absurd rfl (unsigned first more rfl)
  next =>
    constructor
    · exact nofun
    · rintro ⟨spells, -⟩
      exact absurd rfl spells.ne_nil

end ImageRefs.Template
