import ImageRefs.Markup.Attribute
import Mathlib.Data.List.TakeWhile

/-!
Attributes as they are written. Looking for an attribute succeeds exactly on the texts that begin
with complete attributes up to the one that is asked for, and gives the value between its quotes.
-/

set_option autoImplicit false

namespace ImageRefs.Markup

/-- An attribute with the white space before its key and around its `=`. The first character of a
key may be any but white space, also `=`. -/
structure WrittenAttribute where
  gap : List Char
  first : Char
  more : List Char
  before : List Char
  after : List Char
  quote : Char
  value : List Char
  gap_space : ∀ c ∈ gap, isSpace c = true
  first_visible : isSpace first = false
  more_key : ∀ c ∈ more, endsKey c = false
  before_space : ∀ c ∈ before, isSpace c = true
  after_space : ∀ c ∈ after, isSpace c = true
  quote_isQuote : isQuote quote = true
  value_unquoted : quote ∉ value

namespace WrittenAttribute

def key (a : WrittenAttribute) : List Char :=
  a.first :: a.more

/-- What follows the key. -/
def assignment (a : WrittenAttribute) : List Char :=
  a.before ++ '=' :: (a.after ++ a.quote :: (a.value ++ [a.quote]))

def source (a : WrittenAttribute) : List Char :=
  a.gap ++ (a.key ++ a.assignment)

end WrittenAttribute

/-- The attributes of a text lead to a value: all attributes before it have other keys. What
follows its closing quote may be anything. -/
def LeadsTo (wanted text value : List Char) : Prop :=
  ∃ (earlier : List WrittenAttribute) (found : WrittenAttribute) (rest : List Char),
    text = earlier.flatMap WrittenAttribute.source ++ (found.source ++ rest) ∧
      (∀ a ∈ earlier, a.key ≠ wanted) ∧ found.key = wanted ∧ found.value = value

/-! ### Runs of characters -/

theorem skipSpace_append {gap : List Char} (blank : ∀ c ∈ gap, isSpace c = true)
    (text : List Char) : skipSpace (gap ++ text) = skipSpace text :=
  List.dropWhile_append_of_pos blank

theorem skipSpace_visible {c : Char} (visible : isSpace c = false) (text : List Char) :
    skipSpace (c :: text) = c :: text :=
  List.dropWhile_cons_of_neg (by simp [visible])

/-- White space can be put back before what is left without it. -/
theorem exists_gap (text : List Char) :
    ∃ gap, (∀ c ∈ gap, isSpace c = true) ∧ text = gap ++ skipSpace text :=
  ⟨text.takeWhile isSpace, fun _ member => List.mem_takeWhile_imp member,
    List.takeWhile_append_dropWhile.symm⟩

theorem visible_of_skipSpace {text rest : List Char} {c : Char}
    (h : skipSpace text = c :: rest) : isSpace c = false := by
  have stops := List.head?_dropWhile_not isSpace text
  unfold skipSpace at h
  rw [h] at stops
  simpa using stops

theorem isQuote_visible {c : Char} (h : isQuote c = true) : isSpace c = false := by
  unfold isQuote at h
  simp only [Bool.or_eq_true, beq_iff_eq] at h
  rcases h with rfl | rfl <;> rfl

/-! ### One attribute -/

theorem takeWhile_assignment (a : WrittenAttribute) (rest : List Char) :
    (a.more ++ (a.assignment ++ rest)).takeWhile (!endsKey ·) = a.more ∧
      (a.more ++ (a.assignment ++ rest)).dropWhile (!endsKey ·) = a.assignment ++ rest := by
  have open_key : ∀ c ∈ a.more, (!endsKey c) = true := by
    intro c member
    simp [a.more_key c member]
  -- The key ends at the `=` or at the white space before it, whichever is there.
  obtain ⟨c, tail, starts, stops⟩ : ∃ c tail, a.assignment ++ rest = c :: tail ∧
      endsKey c = true := by
    unfold WrittenAttribute.assignment
    cases blank : a.before with
    | nil => exact ⟨'=', _, rfl, rfl⟩
    | cons c tail =>
      have space := a.before_space c (by simp [blank])
      exact ⟨c, _, rfl, by simp [endsKey, space]⟩
  rw [List.takeWhile_append_of_pos open_key, List.dropWhile_append_of_pos open_key, starts]
  simp [stops]

theorem readAttribute_source (a : WrittenAttribute) (total : Nat) (rest : List Char) :
    readAttribute total a.first (a.more ++ (a.assignment ++ rest)) =
      .ok (a.key, a.value, rest) := by
  obtain ⟨key, tail⟩ := takeWhile_assignment a rest
  have toEquals : skipSpace (a.assignment ++ rest) =
      '=' :: (a.after ++ a.quote :: (a.value ++ a.quote :: rest)) := by
    unfold WrittenAttribute.assignment
    rw [List.append_assoc, skipSpace_append a.before_space, List.cons_append,
      skipSpace_visible rfl]
    simp
  have toQuote : skipSpace (a.after ++ a.quote :: (a.value ++ a.quote :: rest)) =
      a.quote :: (a.value ++ a.quote :: rest) := by
    rw [skipSpace_append a.after_space, skipSpace_visible (isQuote_visible a.quote_isQuote)]
  have inside : ∀ c ∈ a.value, (c != a.quote) = true := by
    intro c member
    simp only [bne_iff_ne]
    rintro rfl
    exact a.value_unquoted member
  unfold readAttribute
  simp only [key, tail, toEquals, toQuote, a.quote_isQuote, Bool.not_true, Bool.false_eq_true,
    if_false, List.takeWhile_append_of_pos inside, List.dropWhile_append_of_pos inside]
  simp [WrittenAttribute.key]

/-- What reading an attribute meets on its way: the `=`, the opening quote, the closing one. -/
theorem readAttribute_eq_ok {total : Nat} {first : Char} {text key value rest : List Char}
    (h : readAttribute total first text = .ok (key, value, rest)) :
    ∃ quote afterEquals inside,
      skipSpace (text.dropWhile (!endsKey ·)) = '=' :: afterEquals ∧
      skipSpace afterEquals = quote :: inside ∧ isQuote quote = true ∧
      inside = value ++ quote :: rest ∧ quote ∉ value ∧
      key = first :: text.takeWhile (!endsKey ·) := by
  unfold readAttribute at h
  dsimp only at h
  split at h
  · simp at h
  next afterEquals equals =>
    split at h
    · simp at h
    next quote inside quoted =>
      split at h
      · simp at h
      next isQuoted =>
        split at h
        · simp at h
        next closing rest' closed =>
          simp only [Except.ok.injEq, Prod.mk.injEq] at h
          obtain ⟨rfl, rfl, rfl⟩ := h
          have same : closing = quote := by
            have stops := List.head?_dropWhile_not (· != quote) inside
            rw [closed] at stops
            simpa using stops
          subst same
          refine ⟨closing, afterEquals, inside, equals, quoted, by simpa using isQuoted, ?_, ?_,
            rfl⟩
          · rw [← closed, List.takeWhile_append_dropWhile]
          · intro member
            simpa using List.mem_takeWhile_imp member
  · simp at h

/-- Whatever is read as an attribute was written as one. -/
theorem exists_of_readAttribute {total : Nat} {first : Char}
    {gap text key value rest : List Char} (gap_space : ∀ c ∈ gap, isSpace c = true)
    (visible : isSpace first = false)
    (h : readAttribute total first text = .ok (key, value, rest)) :
    ∃ a : WrittenAttribute, a.key = key ∧ a.value = value ∧
      gap ++ first :: text = a.source ++ rest := by
  obtain ⟨quote, afterEquals, inside, equals, quoted, isQuoted, closed, unquoted, rfl⟩ :=
    readAttribute_eq_ok h
  obtain ⟨before, before_space, toEquals⟩ := exists_gap (text.dropWhile (!endsKey ·))
  obtain ⟨after, after_space, toQuote⟩ := exists_gap afterEquals
  have more_key : ∀ c ∈ text.takeWhile (!endsKey ·), endsKey c = false := by
    intro c member
    simpa using List.mem_takeWhile_imp member
  let a : WrittenAttribute := {
    gap, first, before, after, quote, value, gap_space, more_key, before_space, after_space
    more := text.takeWhile (!endsKey ·)
    first_visible := visible
    quote_isQuote := isQuoted
    value_unquoted := unquoted }
  refine ⟨a, rfl, rfl, ?_⟩
  rw [equals] at toEquals
  rw [quoted, closed] at toQuote
  calc gap ++ first :: text
      = gap ++ first :: (text.takeWhile (!endsKey ·) ++ text.dropWhile (!endsKey ·)) := by
        rw [List.takeWhile_append_dropWhile]
    _ = gap ++ first :: (text.takeWhile (!endsKey ·) ++
          (before ++ '=' :: (after ++ quote :: (value ++ quote :: rest)))) := by
        rw [← toQuote, ← toEquals]
    _ = a.source ++ rest := by
        simp [a, WrittenAttribute.source, WrittenAttribute.key, WrittenAttribute.assignment]

/-! ### The attribute that is asked for -/

theorem findAttribute_source (a : WrittenAttribute) (total : Nat) (wanted rest : List Char) :
    findAttribute total wanted (a.source ++ rest) =
      if a.key = wanted then .ok (some a.value) else findAttribute total wanted rest := by
  have skipped : skipSpace (a.source ++ rest) = a.first :: (a.more ++ (a.assignment ++ rest)) := by
    unfold WrittenAttribute.source WrittenAttribute.key
    rw [List.append_assoc, skipSpace_append a.gap_space, List.cons_append, List.cons_append,
      skipSpace_visible a.first_visible, List.append_assoc]
  rw [findAttribute]
  split
  next none => simp [none] at skipped
  next first text some =>
    rw [skipped] at some
    obtain ⟨rfl, rfl⟩ := List.cons.inj some
    split
    next fault failed => simp [readAttribute_source] at failed
    next key value after read =>
      rw [readAttribute_source] at read
      simp only [Except.ok.injEq, Prod.mk.injEq] at read
      obtain ⟨rfl, rfl, rfl⟩ := read
      rfl

theorem leadsTo_of_findAttribute {total : Nat} {wanted text value : List Char}
    (h : findAttribute total wanted text = .ok (some value)) : LeadsTo wanted text value := by
  fun_induction findAttribute total wanted text with
  | case1 => simp at h
  | case2 => simp at h
  | case3 text first rest skipped found after read =>
    simp only [Except.ok.injEq, Option.some.injEq] at h
    subst h
    obtain ⟨gap, gap_space, toFirst⟩ := exists_gap text
    rw [skipped] at toFirst
    obtain ⟨a, key, value, split⟩ :=
      exists_of_readAttribute gap_space (visible_of_skipSpace skipped) read
    exact ⟨[], a, after, by simpa [split] using toFirst, by simp, key, value⟩
  | case4 text first rest skipped key found after read other ih =>
    -- An attribute with another key is passed over, and becomes the first of the earlier ones.
    obtain ⟨gap, gap_space, toFirst⟩ := exists_gap text
    rw [skipped] at toFirst
    obtain ⟨a, same, _, split⟩ :=
      exists_of_readAttribute gap_space (visible_of_skipSpace skipped) read
    obtain ⟨earlier, last, rest, rfl, others, key, value⟩ := ih h
    refine ⟨a :: earlier, last, rest, by simpa [split] using toFirst, ?_, key, value⟩
    intro b member
    rcases List.mem_cons.mp member with rfl | member
    · rwa [same]
    · exact others b member

theorem findAttribute_of_leadsTo {total : Nat} {wanted text value : List Char}
    (h : LeadsTo wanted text value) : findAttribute total wanted text = .ok (some value) := by
  obtain ⟨earlier, found, rest, rfl, others, same, rfl⟩ := h
  induction earlier with
  | nil => simp [findAttribute_source, same]
  | cons a earlier ih =>
    have other : a.key ≠ wanted := others a (by simp)
    simp only [List.flatMap_cons, List.append_assoc] at ih ⊢
    rw [findAttribute_source, if_neg other]
    exact ih fun b member => others b (by simp [member])

/-- The tag of an element has the attribute in the sense of the reader if the attributes behind its
name lead to it. -/
theorem attributeOf?_eq_some_iff (wanted content value : List Char) :
    attributeOf? wanted content = .ok (some value) ↔
      LeadsTo wanted (content.drop (nameOf content).length) value :=
  ⟨leadsTo_of_findAttribute, findAttribute_of_leadsTo⟩

end ImageRefs.Markup
