import ImageRefs.Proofs.Template.Continuation
import Mathlib.Algebra.Ring.Parity

/-!
Templates that are put together from texts and placeholders. A text is written with all its braces
doubled, and then no part changes how the ones beside it are read.
-/

set_option autoImplicit false

namespace ImageRefs.Template

/-! ### Texts -/

def escapeBrace (c : Char) : List Char :=
  if c = '{' ∨ c = '}' then [c, c] else [c]

/-- How a text is written in a template. -/
def escape (text : List Char) : List Char :=
  text.flatMap escapeBrace

@[simp] theorem escape_nil : escape [] = [] := rfl

@[simp] theorem escape_open (text : List Char) :
    escape ('{' :: text) = '{' :: '{' :: escape text := rfl

@[simp] theorem escape_close (text : List Char) :
    escape ('}' :: text) = '}' :: '}' :: escape text := rfl

theorem escape_plain {c : Char} (notOpen : c ≠ '{') (notClose : c ≠ '}') (text : List Char) :
    escape (c :: text) = c :: escape text := by
  simp [escape, escapeBrace, notOpen, notClose]

/-! ### Parts -/

/-- An optional sign and digits between braces. -/
structure Placeholder where
  signed : Bool := false
  digits : List Char
  ascii : ∀ c ∈ digits, c.isDigit = true

namespace Placeholder

def inside (p : Placeholder) : List Char :=
  if p.signed then '+' :: p.digits else p.digits

def spelling (p : Placeholder) : List Char :=
  '{' :: (p.inside ++ ['}'])

/-- Without a digit there is no index. -/
def index? (p : Placeholder) : Option Nat :=
  if p.digits = [] then none else some (Nat.ofDigitChars 10 p.digits 0)

/-- The argument with the index, and otherwise the placeholder itself. -/
def value (arguments : List String) (p : Placeholder) : List Char :=
  match p.index?.bind (arguments[·]?) with
  | some argument => argument.toList
  | none => p.spelling

end Placeholder

inductive Part where
  | text (chars : List Char)
  | placeholder (p : Placeholder)

namespace Part

def spelling : Part → List Char
  | .text chars => escape chars
  | .placeholder p => p.spelling

def value (arguments : List String) : Part → List Char
  | .text chars => chars
  | .placeholder p => p.value arguments

end Part

/-- The template that the parts are written as. -/
def spelled (parts : List Part) : List Char :=
  parts.flatMap Part.spelling

@[simp] theorem spelled_text (chars : List Char) (parts : List Part) :
    spelled (.text chars :: parts) = escape chars ++ spelled parts := rfl

@[simp] theorem spelled_placeholder (p : Placeholder) (parts : List Part) :
    spelled (.placeholder p :: parts) = '{' :: (p.inside ++ '}' :: spelled parts) := by
  simp [spelled, Part.spelling, Placeholder.spelling]

/-! ### Indices -/

namespace Placeholder

variable {p : Placeholder}

theorem not_mem_inside {brace : Char} (isBrace : brace = '{' ∨ brace = '}') :
    brace ∉ p.inside := by
  have sign : brace ≠ '+' := by rcases isBrace with rfl | rfl <;> decide
  have digit : brace ∉ p.digits := by
    intro member
    have ascii := p.ascii brace member
    rcases isBrace with rfl | rfl
    · exact absurd ascii (by decide)
    · exact absurd ascii (by decide)
  unfold inside
  split
  · simp [sign, digit]
  · exact digit

theorem spells_inside (some : p.digits ≠ []) :
    Spells p.inside (Nat.ofDigitChars 10 p.digits 0) := by
  refine ⟨p.digits, ?_, some, p.ascii, rfl⟩
  unfold inside
  split
  · exact Or.inr rfl
  · exact Or.inl rfl

/-- A sign alone spells nothing. -/
theorem digits_ne_nil {index : Nat} (spells : Spells p.inside index) : p.digits ≠ [] := by
  intro none
  obtain ⟨digits, written, some, ascii, -⟩ := spells
  obtain ⟨c, rest, rfl⟩ := List.exists_cons_of_ne_nil some
  simp only [inside, none] at written
  split at written
  · rcases written with same | same
    · obtain ⟨rfl, -⟩ := List.cons.inj same
      exact absurd (ascii '+' List.mem_cons_self) (by decide)
    · cases same
  · rcases written with same | same <;> cases same

theorem spells_inside_iff {index : Nat} : Spells p.inside index ↔ p.index? = some index := by
  constructor
  · intro spells
    have some := digits_ne_nil spells
    rw [index?, if_neg some, spells.index_unique (spells_inside some)]
  · intro found
    unfold index? at found
    split at found
    · cases found
    next some =>
      obtain rfl := Option.some.inj found
      exact spells_inside some

end Placeholder

/-! ### Reading them -/

/-- Doubled braces are read as the braces that they stand for. -/
theorem formatChars_escape (arguments : List String) (text rest : List Char) :
    formatChars arguments (escape text ++ rest) = text ++ formatChars arguments rest := by
  induction text with
  | nil => rfl
  | cons c text ih =>
    by_cases opens : c = '{'
    · subst opens
      rw [escape_open, List.cons_append, List.cons_append, formatChars, ih, List.cons_append]
    · by_cases closes : c = '}'
      · subst closes
        rw [escape_close, List.cons_append, List.cons_append, formatChars, ih, List.cons_append]
      · rw [escape_plain opens closes, List.cons_append, formatChars, ih, List.cons_append]
        · exact fun _ same => absurd same opens
        · exact fun _ same => absurd same closes
        · exact opens

/-- Written parts begin with an even number of closing braces: a text with its doubled ones, and
whatever else comes first is written with another character in front. -/
theorem even_closing_spelled (parts : List Part) : Even (closing (spelled parts)) := by
  induction parts with
  | nil => exact Even.zero
  | cons part parts ih =>
    cases part with
    | placeholder p =>
      rw [spelled_placeholder]
      exact Even.zero
    | text chars =>
      rw [spelled_text]
      induction chars with
      | nil => exact ih
      | cons c chars ihChars =>
        by_cases closes : c = '}'
        · subst closes
          rw [escape_close, List.cons_append, List.cons_append, closing_close, closing_close]
          exact ihChars.add even_two
        · by_cases opens : c = '{'
          · subst opens
            exact Even.zero
          · rw [escape_plain opens closes, List.cons_append, closing_other closes]
            exact Even.zero

/-- A closing brace that is left over stands for itself before written parts. -/
theorem formatChars_close_spelled (arguments : List String) (parts : List Part) :
    formatChars arguments ('}' :: spelled parts) = '}' :: formatChars arguments (spelled parts) := by
  rw [formatChars_close, if_pos (even_closing_spelled parts)]

theorem formatChars_placeholder {arguments : List String}
    (bounded : arguments.length ≤ indexBound) (p : Placeholder) (parts : List Part) :
    formatChars arguments (spelled (.placeholder p :: parts)) =
      p.value arguments ++ formatChars arguments (spelled parts) := by
  rw [spelled_placeholder]
  unfold Placeholder.value
  cases found : p.index?.bind (arguments[·]?) with
  | some argument =>
    obtain ⟨index, read, present⟩ := Option.bind_eq_some_iff.mp found
    have below := (List.getElem?_eq_some_iff.mp present).1
    exact formatChars_matched (Placeholder.spells_inside_iff.mpr read) (by omega) present _
  | none =>
    have missing : ∀ index, Spells p.inside index → arguments[index]? = none := by
      intro index spells
      rw [Placeholder.spells_inside_iff.mp spells] at found
      exact found
    rw [formatChars_unread (Placeholder.not_mem_inside (Or.inl rfl))
      (Placeholder.not_mem_inside (Or.inr rfl)) missing, formatChars_close_spelled]
    simp [Placeholder.spelling]

/-- Parts are formatted one by one: a text gives itself, a placeholder the argument with its index,
and one without an argument (of which there are never more than indices) gives itself, whatever
stands beside it. A text that is escaped is formatted as it was. -/
theorem format_spelled (arguments : List String) :
    (arguments.length ≤ indexBound → ∀ parts : List Part,
      format (String.ofList (parts.flatMap Part.spelling)) arguments =
        String.ofList (parts.flatMap (Part.value arguments))) ∧
    ∀ text : String, format (String.ofList (escape text.toList)) arguments = text := by
  constructor
  · intro bounded parts
    rw [format, String.toList_ofList, ← spelled]
    congr 1
    induction parts with
    | nil => simp [spelled, formatChars]
    | cons part parts ih =>
      rw [List.flatMap_cons, ← ih]
      cases part with
      | text chars => exact formatChars_escape arguments chars (spelled parts)
      | placeholder p => exact formatChars_placeholder bounded p parts
  · intro text
    have read := formatChars_escape arguments text.toList []
    rw [List.append_nil, formatChars, List.append_nil] at read
    rw [format, String.toList_ofList, read, String.ofList_toList]

/-- Closing braces right behind an index without an argument, and opening ones before an index that
has one. -/
theorem format_spelled_between_braces :
    let parts : List Part :=
      [.placeholder { digits := ['5'], ascii := by simp }, .text ['}', '{'],
        .placeholder { signed := true, digits := ['0', '0'], ascii := by simp }, .text ['}']]
    let arguments := ["\x7b5\x7d"]
    arguments.length ≤ indexBound ∧
      String.ofList (parts.flatMap Part.spelling) = "\x7b5\x7d\x7d\x7d\x7b\x7b\x7b+00\x7d\x7d\x7d" ∧
      format (String.ofList (parts.flatMap Part.spelling)) arguments =
        "\x7b5\x7d\x7d\x7b\x7b5\x7d\x7d" := by
  intro parts arguments
  have bounded : 1 ≤ indexBound := by decide
  have read := (format_spelled arguments).1 bounded parts
  exact ⟨bounded, by decide +kernel, read.trans (by decide +kernel)⟩

end ImageRefs.Template
