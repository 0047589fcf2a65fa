import ImageRefs.Text.Blank
import Mathlib.Data.List.DropRight

/-!
Trimming piece by piece: only the part at an end of a text loses white space, unless there is nothing
else in it. A text that was trimmed has nothing more to lose.
-/

set_option autoImplicit false

namespace ImageRefs.Text

variable {first second : List Char}

theorem trimStart_append_of_eq_nil (none : trimStart first = []) :
    trimStart (first ++ second) = trimStart second := by
  unfold trimStart at none ⊢
  simp [List.dropWhile_append, none]

theorem trimStart_append_of_ne_nil (some : trimStart first ≠ []) :
    trimStart (first ++ second) = trimStart first ++ second := by
  unfold trimStart at some ⊢
  simp [List.dropWhile_append, List.isEmpty_iff, some]

theorem trimStart_visible {c : Char} (visible : isBlank c = false) (rest : List Char) :
    trimStart (c :: rest) = c :: rest :=
  List.dropWhile_cons_of_neg (by simp [visible])

theorem trimEnd_eq (text : List Char) : trimEnd text = text.rdropWhile isBlank := rfl

theorem trimEnd_append_of_eq_nil (none : trimEnd second = []) :
    trimEnd (first ++ second) = trimEnd first := by
  have blank : trimStart second.reverse = [] := List.reverse_eq_nil_iff.mp none
  rw [trimEnd, List.reverse_append, ← trimStart, trimStart_append_of_eq_nil blank]
  rfl

theorem trimEnd_append_of_ne_nil (some : trimEnd second ≠ []) :
    trimEnd (first ++ second) = first ++ trimEnd second := by
  have visible : trimStart second.reverse ≠ [] := fun none => some (List.reverse_eq_nil_iff.mpr none)
  rw [trimEnd, List.reverse_append, ← trimStart, trimStart_append_of_ne_nil visible,
    List.reverse_append, List.reverse_reverse]
  rfl

theorem trimEnd_visible {c : Char} (visible : isBlank c = false) (front rest : List Char) :
    trimEnd (front ++ c :: rest) = front ++ c :: trimEnd rest := by
  have alone : trimEnd (front ++ [c]) = front ++ [c] :=
    List.rdropWhile_concat_neg isBlank front c (by simp [visible])
  rw [← List.singleton_append, ← List.append_assoc]
  by_cases none : trimEnd rest = []
  · rw [trimEnd_append_of_eq_nil none, alone, none]
  · rw [trimEnd_append_of_ne_nil none, List.append_assoc, List.singleton_append]

/-- Trimming its end leaves a text that begins as before, if anything is left. -/
theorem trimStart_trim (text : List Char) : trimStart (trim text) = trim text := by
  obtain ⟨missing, whole⟩ := List.rdropWhile_prefix isBlank (l := trimStart text)
  rw [← trimEnd_eq, ← trim] at whole
  cases left : trim text with
  | nil => rfl
  | cons c rest =>
    have visible := List.head?_dropWhile_not isBlank text
    rw [← trimStart, ← whole, left] at visible
    exact trimStart_visible visible rest

theorem trim_trim (text : List Char) : trim (trim text) = trim text := by
  rw [trim, trimStart_trim, trim]
  exact List.rdropWhile_idempotent ..

end ImageRefs.Text
