import ImageRefs.Markup.Attribute
import ImageRefs.Markup.Entity
import ImageRefs.Proofs.Outcome
import Mathlib.Data.List.TakeWhile

/-!
Entities, read one by one, and escaping: the characters that mean something in a tag are written as
the entities that are predefined for them.
-/

set_option autoImplicit false

namespace ImageRefs.Markup

open Text

/-! ### Reading -/

/-- What stands between an `&` and the next `;` is the name of an entity. -/
theorem unescapeFrom_reference {name : List Char} (open_name : ∀ c ∈ name, endsName c = false)
    (total offset : Nat) (rest : List Char) :
    unescapeFrom total offset ('&' :: (name ++ ';' :: rest)) = do
      let c ← entity (offset + 1) name
      let after ← unescapeFrom total (offset + Utf8.size name + 2) rest
      return c :: after := by
  have goesOn : ∀ c ∈ name, (!endsName c) = true := by
    intro c member
    simp [open_name c member]
  have before : (name ++ ';' :: rest).takeWhile (!endsName ·) = name := by
    rw [List.takeWhile_append_of_pos goesOn]
    simp [endsName]
  have behind : (name ++ ';' :: rest).dropWhile (!endsName ·) = ';' :: rest := by
    rw [List.dropWhile_append_of_pos goesOn]
    simp [endsName]
  rw [unescapeFrom]
  split
  next tail found =>
    rw [behind] at found
    cases found
    simp only [before]
  next other =>
    exact absurd behind (other rest)

theorem unescapeFrom_char {c : Char} (plain : c ≠ '&') (total offset : Nat) (rest : List Char) :
    unescapeFrom total offset (c :: rest) = do
      let after ← unescapeFrom total (offset + c.utf8Size) rest
      return c :: after := by
  rw [unescapeFrom]
  exact fun same => plain same

/-! ### Writing -/

/-- The name of the predefined entity for a character. -/
def entityName? : Char → Option (List Char)
  | '<' => some ['l', 't']
  | '>' => some ['g', 't']
  | '&' => some ['a', 'm', 'p']
  | '\'' => some ['a', 'p', 'o', 's']
  | '"' => some ['q', 'u', 'o', 't']
  | _ => none

def escapeChar (c : Char) : List Char :=
  match entityName? c with
  | some name => '&' :: (name ++ [';'])
  | none => [c]

def escape (text : List Char) : List Char :=
  text.flatMap escapeChar

/-- The names are those that the reader knows, and hold no character that ends a name or quotes. -/
theorem entity_of_entityName? {c : Char} {name : List Char} (h : entityName? c = some name)
    (offset : Nat) :
    entity offset name = .ok c ∧ ∀ d ∈ name, endsName d = false ∧ isQuote d = false := by
  unfold entityName? at h
  split at h <;> cases h <;> exact ⟨rfl, by simp [endsName, isQuote]⟩

end ImageRefs.Markup
