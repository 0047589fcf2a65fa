import ImageRefs.Proofs.Template.Division
import Mathlib.Algebra.Group.Nat.Even

/-!
What follows a placeholder. The text behind it is always formatted as it is alone, and an argument
takes the place of the whole placeholder; but one that is left in the text keeps its closing brace
only before an even number of closing braces, since otherwise that brace is read as the first half
of a doubled one.
-/

set_option autoImplicit false

namespace ImageRefs.Template

/-! ### Closing braces -/

/-- How many closing braces a text begins with. -/
def closing : List Char → Nat
  | '}' :: text => closing text + 1
  | _ => 0

@[simp] theorem closing_close (text : List Char) : closing ('}' :: text) = closing text + 1 := rfl

theorem closing_other {c : Char} (other : c ≠ '}') (text : List Char) :
    closing (c :: text) = 0 := by
  unfold closing
  split
  next same => exact absurd (List.cons.inj same).1 other
  · rfl

theorem formatChars_close_other {arguments : List String} {c : Char} (other : c ≠ '}')
    (rest : List Char) :
    formatChars arguments ('}' :: c :: rest) = '}' :: formatChars arguments (c :: rest) := by
  rw [formatChars]
  · simp
  · exact fun _ _ same => other (List.cons.inj same).1
  · decide

/-- One closing brace more stands for itself before an even number of them, and completes a doubled
one before an odd number. -/
theorem formatChars_close (arguments : List String) (text : List Char) :
    formatChars arguments ('}' :: text) =
      if Even (closing text) then '}' :: formatChars arguments text
      else formatChars arguments text := by
  induction text with
  | nil => simp [closing, formatChars]
  | cons c text ih =>
    by_cases closes : c = '}'
    · subst closes
      -- The two braces in front are one pair, so the parity of those behind them decides.
      have pair :
          formatChars arguments ('}' :: '}' :: text) = '}' :: formatChars arguments text := by
        rw [formatChars]
      rw [pair, ih]
      by_cases even : Even (closing text)
      · rw [if_pos even, if_neg (by simpa [Nat.even_add_one] using even)]
      · rw [if_neg even, if_pos (by simpa [Nat.even_add_one] using even)]
    · rw [closing_other closes, if_pos Even.zero, formatChars_close_other closes]

/-! ### Placeholders -/

/-- A placeholder by the spelling of its index. -/
def braced (spelling : List Char) : String :=
  String.ofList ('{' :: (spelling ++ ['}']))

section Placeholder

variable {arguments : List String} {spelling : List Char} {index : Nat}

theorem format_braced_present (bounded : arguments.length ≤ indexBound)
    (spells : Spells spelling index) (present : index < arguments.length) (rest : String) :
    format (braced spelling ++ rest) arguments = arguments[index] ++ format rest arguments := by
  have found : arguments[index]? = some arguments[index] := List.getElem?_eq_getElem present
  have read := formatChars_matched spells (by omega) found rest.toList
  simp [format, braced, read, String.append_assoc]

theorem format_braced_missing (spells : Spells spelling index)
    (missing : arguments.length ≤ index) (rest : String) :
    format (braced spelling ++ rest) arguments =
      (if Even (closing rest.toList) then braced spelling else String.ofList ('{' :: spelling)) ++
        format rest arguments := by
  have read := formatChars_unmatched spells missing rest.toList
  rw [formatChars_close] at read
  split
  next even =>
    rw [if_pos even] at read
    simp [format, braced, read, String.append_assoc]
  next odd =>
    rw [if_neg odd] at read
    simp [format, braced, read, String.append_assoc]

end Placeholder

/-- A placeholder is formatted apart from the text behind it, as its argument or else as itself,
exactly if it has an argument (of which there are never more than indices) or an even number of
closing braces follow. In all other cases the text behind it is still formatted as it is alone, but
the placeholder has lost its closing brace. -/
theorem format_braced_iff {arguments : List String} (bounded : arguments.length ≤ indexBound)
    {spelling : List Char} {index : Nat} (spells : Spells spelling index) (rest : String) :
    (format (braced spelling ++ rest) arguments =
        arguments[index]?.getD (braced spelling) ++ format rest arguments ↔
      index < arguments.length ∨ Even (closing rest.toList)) ∧
    (¬(index < arguments.length ∨ Even (closing rest.toList)) →
      format (braced spelling ++ rest) arguments =
        String.ofList ('{' :: spelling) ++ format rest arguments) := by
  by_cases present : index < arguments.length
  · have argument : arguments[index]?.getD (braced spelling) = arguments[index] := by
      rw [List.getElem?_eq_getElem present, Option.getD_some]
    rw [format_braced_present bounded spells present, argument]
    exact ⟨iff_of_true rfl (Or.inl present), fun neither => absurd (Or.inl present) neither⟩
  · have missing : arguments.length ≤ index := Nat.le_of_not_lt present
    have itself : arguments[index]?.getD (braced spelling) = braced spelling := by
      rw [List.getElem?_eq_none missing, Option.getD_none]
    rw [format_braced_missing spells missing, itself]
    by_cases even : Even (closing rest.toList)
    · rw [if_pos even]
      exact ⟨iff_of_true rfl (Or.inr even), fun neither => absurd (Or.inr even) neither⟩
    · rw [if_neg even]
      refine ⟨iff_of_false (fun same => ?_) (not_or.mpr ⟨present, even⟩), fun _ => rfl⟩
      -- Without the brace the whole is shorter.
      have lengths := congrArg String.length same
      simp [braced] at lengths

/-- An index without an argument before a doubled brace, and the same one before a single brace. -/
theorem format_braced_before_braces :
    ["x"].length ≤ indexBound ∧ Spells ['+', '1'] 1 ∧
      format "\x7b+1\x7d\x7d\x7d" ["x"] = "\x7b+1\x7d" ++ format "\x7d\x7d" ["x"] ∧
      format "\x7b+1\x7d\x7d" ["x"] = "\x7b+1" ++ format "\x7d" ["x"] := by
  have bounded : ["x"].length ≤ indexBound := by decide
  have spells : Spells ['+', '1'] 1 :=
    ⟨['1'], Or.inr rfl, by simp, by simp, by simp [Nat.ofDigitChars]⟩
  have doubled := (format_braced_iff bounded spells "\x7d\x7d").1.mpr (Or.inr (by decide))
  have single := (format_braced_iff bounded spells "\x7d").2 (by decide)
  exact ⟨bounded, spells, doubled, single⟩

/-- A placeholder that has no argument loses its closing brace before another one. -/
theorem format_braced_cut :
    let arguments := ["x"]
    Spells ['1'] 1 ∧ arguments[1]? = none ∧
      braced ['1'] ++ format "\x7d" arguments = "\x7b1\x7d\x7d" ∧
      format (braced ['1'] ++ "\x7d") arguments = "\x7b1\x7d" ∧
      ¬∀ (arguments : List String) (spelling : List Char) (index : Nat) (rest : String),
        arguments.length ≤ indexBound → Spells spelling index →
          format (braced spelling ++ rest) arguments =
            arguments[index]?.getD (braced spelling) ++ format rest arguments := by
  intro arguments
  have spells : Spells ['1'] 1 :=
    ⟨['1'], Or.inl rfl, by simp, by simp, by simp [Nat.ofDigitChars]⟩
  have kept : braced ['1'] ++ format "\x7d" arguments = "\x7b1\x7d\x7d" := by decide +kernel
  have cut : format (braced ['1'] ++ "\x7d") arguments = "\x7b1\x7d" := by decide +kernel
  refine ⟨spells, rfl, kept, cut, fun all => ?_⟩
  have same := all arguments ['1'] 1 "\x7d" (by decide) spells
  rw [cut] at same
  exact absurd (same.trans kept) (by decide)

end ImageRefs.Template
