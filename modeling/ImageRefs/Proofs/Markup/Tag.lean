import ImageRefs.Proofs.Markup.Attribute
import ImageRefs.Proofs.Markup.Written

/-!
Tags as they are written: a name, and attributes with white space before each of them. The values of
attributes may hold what ends a tag elsewhere.
-/

set_option autoImplicit false

namespace ImageRefs.Markup

/-- What stands in a tag. Neither the name nor a key ends the tag or opens quotes. -/
structure WrittenTag where
  name : List Char
  attributes : List WrittenAttribute
  gap : List Char
  named : name ≠ []
  begins : BeginsTag name
  name_plain : ∀ c ∈ name, isSpace c = false ∧ c ≠ '>' ∧ isQuote c = false
  apart : ∀ a ∈ attributes, a.gap ≠ []
  key_plain : ∀ a ∈ attributes, ∀ c ∈ a.key, c ≠ '>' ∧ isQuote c = false
  gap_space : ∀ c ∈ gap, isSpace c = true

/-! ### White space and attributes -/

theorem plain_of_space {c : Char} (space : isSpace c = true) : c ≠ '>' ∧ isQuote c = false := by
  constructor
  · rintro rfl
    exact absurd space (by decide)
  · by_contra quote
    rw [isQuote_visible (by simpa using quote)] at space
    cases space

theorem guarded_space {gap : List Char} (blank : ∀ c ∈ gap, isSpace c = true) : Guarded gap :=
  .of_plain fun c member => plain_of_space (blank c member)

namespace WrittenAttribute

theorem guarded {a : WrittenAttribute} (plain : ∀ c ∈ a.key, c ≠ '>' ∧ isQuote c = false) :
    Guarded a.source := by
  have quoted : Guarded (a.quote :: (a.value ++ [a.quote])) :=
    .quoted a.quote_isQuote a.value_unquoted .nil
  have assignment : Guarded a.assignment :=
    (guarded_space a.before_space).append
      (.char (by decide) (by decide) ((guarded_space a.after_space).append quoted))
  exact (guarded_space a.gap_space).append ((Guarded.of_plain plain).append assignment)

theorem guarded_row {attributes : List WrittenAttribute}
    (plain : ∀ a ∈ attributes, ∀ c ∈ a.key, c ≠ '>' ∧ isQuote c = false) :
    Guarded (attributes.flatMap source) := by
  induction attributes with
  | nil => exact .nil
  | cons a attributes ih =>
    obtain ⟨here, later⟩ := List.forall_mem_cons.mp plain
    exact (guarded here).append (ih later)

theorem exists_source_concat (a : WrittenAttribute) :
    ∃ front, a.source = front ++ [a.quote] :=
  ⟨a.gap ++ (a.key ++ (a.before ++ '=' :: (a.after ++ a.quote :: a.value))),
    by simp [source, assignment]⟩

end WrittenAttribute

/-! ### Tags -/

namespace WrittenTag

def content (t : WrittenTag) : List Char :=
  t.name ++ (t.attributes.flatMap WrittenAttribute.source ++ t.gap)

variable (t : WrittenTag)

theorem guarded_content : Guarded t.content := by
  have name : Guarded t.name := .of_plain fun c member => (t.name_plain c member).2
  exact name.append ((WrittenAttribute.guarded_row t.key_plain).append (guarded_space t.gap_space))

theorem content_ne_nil : t.content ≠ [] :=
  List.append_ne_nil_of_left_ne_nil t.named _

theorem beginsTag_content : BeginsTag t.content := by
  obtain ⟨c, rest, same⟩ := List.exists_cons_of_ne_nil t.named
  rw [content, same]
  exact beginsTag_cons (t.begins c rest same) _

theorem space_of_behind_name {c : Char} {rest : List Char}
    (behind : t.attributes.flatMap WrittenAttribute.source ++ t.gap = c :: rest) :
    isSpace c = true := by
  cases attributes : t.attributes with
  | nil =>
    rw [attributes] at behind
    exact t.gap_space c (by simp_all)
  | cons a later =>
    have among : a ∈ t.attributes := by simp [attributes]
    obtain ⟨d, gap, split⟩ := List.exists_cons_of_ne_nil (t.apart a among)
    have same : d = c := by
      simp only [attributes, List.flatMap_cons, WrittenAttribute.source, split,
        List.cons_append] at behind
      exact (List.cons.inj behind).1
    exact a.gap_space c (by simp [split, same])

/-- White space ends the name, be it that of an attribute or that behind all of them. -/
theorem nameOf_content : nameOf t.content = t.name := by
  have visible : ∀ c ∈ t.name, (!isSpace c) = true := by
    intro c member
    simp [(t.name_plain c member).1]
  rw [nameOf, content, List.takeWhile_append_of_pos visible]
  cases behind : t.attributes.flatMap WrittenAttribute.source ++ t.gap with
  | nil => simp
  | cons c rest => simp [t.space_of_behind_name behind]

theorem drop_nameOf_content : t.content.drop (nameOf t.content).length =
    t.attributes.flatMap WrittenAttribute.source ++ t.gap := by
  rw [nameOf_content, content, List.drop_left]

theorem lexes_empty : (Token.empty t.content).Lexes :=
  Markup.lexes_empty t.guarded_content t.beginsTag_content t.content_ne_nil

/-- A tag with attributes ends with a quote or white space, so it is not taken for an empty one. -/
theorem getLast?_content (any : t.attributes ≠ []) : t.content.getLast? ≠ some '/' := by
  obtain ⟨earlier, a, attributes⟩ := (List.eq_nil_or_concat t.attributes).resolve_left any
  obtain ⟨front, source⟩ := a.exists_source_concat
  have split : t.content =
      t.name ++ (earlier.flatMap WrittenAttribute.source ++ front) ++ (a.quote :: t.gap) := by
    simp [content, attributes, source]
  rw [split, List.getLast?_append_of_ne_nil _ (List.cons_ne_nil _ _)]
  intro last
  rcases List.mem_cons.mp (List.mem_of_getLast? last) with quote | gap
  · exact absurd a.quote_isQuote (by rw [← quote]; decide)
  · exact absurd (t.gap_space _ gap) (by decide)

theorem lexes_start (any : t.attributes ≠ []) : (Token.start t.content).Lexes :=
  Markup.lexes_start t.guarded_content t.beginsTag_content (t.getLast?_content any)

end WrittenTag

end ImageRefs.Markup
