import ImageRefs.Proofs.Markup.Entity

/-!
Spellings of a text between quotes. Each character stands there as it is, as the predefined entity
for it, or as a reference to its code point in decimal or hexadecimal; all of these are read as the
character.
-/

set_option autoImplicit false

namespace ImageRefs.Markup

open Outcome Text

/-! ### Numerals -/

/-- A digit of a radix. From ten on it is a letter of either case. -/
structure Digit (radix : Nat) (c : Char) (d : Nat) : Prop where
  below : d < radix
  digit : c = d.digitChar ∨ c = d.digitChar.toUpper

/-- A number by its digits, of which any at the start may be zeros. -/
inductive Numeral (radix : Nat) : List Char → Nat → Prop where
  | one {c : Char} {d : Nat} (last : Digit radix c d) : Numeral radix [c] d
  | more {front : List Char} {n : Nat} {c : Char} {d : Nat} (before : Numeral radix front n)
      (last : Digit radix c d) : Numeral radix (front ++ [c]) (n * radix + d)

variable {radix n : Nat} {digits : List Char}

def hexDigits : List Char :=
  ['0', '1', '2', '3', '4', '5', '6', '7', '8', '9', 'a', 'b', 'c', 'd', 'e', 'f', 'A', 'B', 'C', 'D',
    'E', 'F']

theorem Digit.read {c : Char} {d : Nat} (digit : Digit radix c d) (small : radix ≤ 16) :
    digitValue? radix c = some d ∧ c ∈ hexDigits := by
  obtain ⟨below, same⟩ := digit
  have all : ∀ d : Fin 16,
      (digitValue? 16 d.val.digitChar = some d.val ∧ d.val.digitChar ∈ hexDigits) ∧
      digitValue? 16 d.val.digitChar.toUpper = some d.val ∧
        d.val.digitChar.toUpper ∈ hexDigits := by decide
  obtain ⟨value, listed⟩ : digitValue? 16 c = some d ∧ c ∈ hexDigits := by
    rcases same with rfl | rfl
    · exact (all ⟨d, by omega⟩).1
    · exact (all ⟨d, by omega⟩).2
  refine ⟨?_, listed⟩
  -- The radix only decides which of the sixteen values are too large.
  unfold digitValue? at value ⊢
  rw [Option.filter_eq_some_iff] at value ⊢
  exact ⟨value.1, by simpa using below⟩

theorem Numeral.ne_nil (numeral : Numeral radix digits n) : digits ≠ [] := by
  cases numeral <;> simp

theorem Numeral.mem_hexDigits (numeral : Numeral radix digits n) (small : radix ≤ 16) :
    ∀ c ∈ digits, c ∈ hexDigits := by
  induction numeral with
  | one last => simpa using (last.read small).2
  | more before last ih =>
    intro c member
    rcases List.mem_append.mp member with member | member
    · exact ih c member
    · rw [List.mem_singleton.mp member]
      exact (last.read small).2

/-- What is read so far is the numeral so far. -/
theorem Numeral.readNumber_append (numeral : Numeral radix digits n) (small : radix ≤ 16)
    (bounded : n < codeBound) (rest : List Char) :
    readNumber radix 0 (digits ++ rest) = readNumber radix n rest := by
  induction numeral generalizing rest with
  | one last => simp [readNumber, (last.read small).1, bounded]
  | @more front n c d before last ih =>
    -- No numeral is larger than one it begins, so a bound of the whole is one of every part.
    have grows : n ≤ n * radix := Nat.le_mul_of_pos_right n (Nat.zero_lt_of_lt last.below)
    rw [List.append_assoc, List.singleton_append, ih (by omega), readNumber]
    simp [(last.read small).1, bounded]

theorem Numeral.number_eq (numeral : Numeral radix digits n) (small : radix ≤ 16)
    (bounded : n < codeBound) : number radix digits = .ok n := by
  have listed := numeral.mem_hexDigits small
  have read := numeral.readNumber_append small bounded []
  rw [List.append_nil, readNumber] at read
  obtain ⟨c, rest, rfl⟩ := List.exists_cons_of_ne_nil numeral.ne_nil
  have unsigned : (c == '+' || c == '-') = false := by
    have signs : ∀ c ∈ hexDigits, (c == '+' || c == '-') = false := by simp [hexDigits]
    exact signs c (listed c List.mem_cons_self)
  simp [number, unsigned, read]

/-- The usual digits of a number are one of its numerals. -/
theorem numeral_toDigits (large : 2 ≤ radix) (n : Nat) :
    Numeral radix (Nat.toDigits radix n) n := by
  induction n using Nat.strongRecOn with
  | ind n ih =>
    by_cases single : n < radix
    · rw [Nat.toDigits_of_lt_base single]
      exact .one ⟨single, Or.inl rfl⟩
    · have less : n / radix < n := Nat.div_lt_self (by omega) large
      have last : Digit radix (n % radix).digitChar (n % radix) :=
        ⟨Nat.mod_lt n (by omega), Or.inl rfl⟩
      have whole := (ih (n / radix) less).more last
      rw [Nat.mul_comm, Nat.div_add_mod] at whole
      rw [Nat.toDigits_of_base_le (by omega) (by omega)]
      exact whole

/-! ### References -/

theorem charOfCode_toNat {c : Char} (notNul : c ≠ '\x00') : charOfCode c.toNat = .ok c := by
  have positive : c.toNat ≠ 0 := by
    intro zero
    exact notNul (Char.toNat_inj.mp zero)
  have valid : c.toNat.isValidChar := c.valid
  simp [charOfCode, positive, valid]

theorem toNat_lt_codeBound (c : Char) : c.toNat < codeBound := c.val.toNat_lt

theorem charOfReference_decimal {c : Char} (notNul : c ≠ '\x00')
    (numeral : Numeral 10 digits c.toNat) : charOfReference digits = .ok c := by
  have read := numeral.number_eq (by decide) (toNat_lt_codeBound c)
  unfold charOfReference
  split
  next digits =>
    have listed := numeral.mem_hexDigits (by decide) 'x' List.mem_cons_self
    exact absurd listed (by decide)
  next => rw [read, ok_bind, charOfCode_toNat notNul]

theorem charOfReference_hexadecimal {c : Char} (notNul : c ≠ '\x00')
    (numeral : Numeral 16 digits c.toNat) : charOfReference ('x' :: digits) = .ok c := by
  have read := numeral.number_eq (by decide) (toNat_lt_codeBound c)
  rw [charOfReference, read, ok_bind, charOfCode_toNat notNul]

/-! ### Spellings -/

/-- The ways to write a character between quotes. No reference stands for NUL. -/
inductive SpellsChar (quote c : Char) : List Char → Prop where
  | raw (unquoted : c ≠ quote) (plain : c ≠ '&') : SpellsChar quote c [c]
  | predefined {name : List Char} (named : entityName? c = some name) :
      SpellsChar quote c ('&' :: (name ++ [';']))
  | decimal {digits : List Char} (notNul : c ≠ '\x00') (numeral : Numeral 10 digits c.toNat) :
      SpellsChar quote c ('&' :: ('#' :: digits ++ [';']))
  | hexadecimal {digits : List Char} (notNul : c ≠ '\x00') (numeral : Numeral 16 digits c.toNat) :
      SpellsChar quote c ('&' :: ('#' :: 'x' :: digits ++ [';']))

/-- A text between quotes, each character written in a way of its own. -/
inductive Spells (quote : Char) : List Char → List Char → Prop where
  | nil : Spells quote [] []
  | cons {c : Char} {piece text value : List Char} (first : SpellsChar quote c piece)
      (rest : Spells quote text value) : Spells quote (c :: text) (piece ++ value)

variable {quote c : Char} {piece text value : List Char}

theorem Numeral.plain (numeral : Numeral radix digits n) (small : radix ≤ 16) :
    ∀ d ∈ digits, endsName d = false ∧ isQuote d = false := by
  have all : ∀ d ∈ hexDigits, endsName d = false ∧ isQuote d = false := by
    simp [hexDigits, endsName, isQuote]
  exact fun d member => all d (numeral.mem_hexDigits small d member)

/-- All but a raw character is written as the name of an entity for it. -/
theorem SpellsChar.raw_or_entity (spells : SpellsChar quote c piece) :
    (piece = [c] ∧ c ≠ quote ∧ c ≠ '&') ∨
      ∃ name, piece = '&' :: (name ++ [';']) ∧ (∀ offset, entity offset name = .ok c) ∧
        (∀ d ∈ name, endsName d = false ∧ isQuote d = false) := by
  cases spells with
  | raw unquoted plain => exact Or.inl ⟨rfl, unquoted, plain⟩
  | @predefined name named =>
    exact Or.inr ⟨name, rfl, fun offset => (entity_of_entityName? named offset).1,
      (entity_of_entityName? named 0).2⟩
  | @decimal digits notNul numeral =>
    refine Or.inr ⟨'#' :: digits, rfl, ?_, ?_⟩
    · intro offset
      rw [entity, charOfReference_decimal notNul numeral]
      rfl
    · exact List.forall_mem_cons.mpr ⟨by decide, numeral.plain (by decide)⟩
  | @hexadecimal digits notNul numeral =>
    refine Or.inr ⟨'#' :: 'x' :: digits, rfl, ?_, ?_⟩
    · intro offset
      rw [entity, charOfReference_hexadecimal notNul numeral]
      rfl
    · simp only [List.forall_mem_cons]
      exact ⟨by decide, by decide, numeral.plain (by decide)⟩

theorem SpellsChar.unescapeFrom_append (spells : SpellsChar quote c piece) (total offset : Nat)
    (rest : List Char) :
    ∃ further, unescapeFrom total offset (piece ++ rest) = do
      let after ← unescapeFrom total further rest
      return c :: after := by
  rcases spells.raw_or_entity with ⟨rfl, -, plain⟩ | ⟨name, rfl, known, open_name⟩
  · exact ⟨_, unescapeFrom_char plain total offset rest⟩
  · refine ⟨offset + Utf8.size name + 2, ?_⟩
    have read := unescapeFrom_reference (fun d member => (open_name d member).1) total offset rest
    rw [known, ok_bind] at read
    simpa only [List.cons_append, List.append_assoc, List.nil_append] using read

/-- No spelling ends the quotes it stands in. -/
theorem SpellsChar.quote_not_mem (spells : SpellsChar quote c piece)
    (opens : isQuote quote = true) : quote ∉ piece := by
  rcases spells.raw_or_entity with ⟨rfl, unquoted, -⟩ | ⟨name, rfl, -, open_name⟩
  · simpa using Ne.symm unquoted
  · intro member
    have inside : quote ∈ name := by
      rcases List.mem_cons.mp member with rfl | member
      · exact absurd opens (by decide)
      · rcases List.mem_append.mp member with member | member
        · exact member
        · rw [List.mem_singleton] at member
          subst member
          exact absurd opens (by decide)
    rw [(open_name quote inside).2] at opens
    cases opens

namespace Spells

/-- However a text is spelled, it is read as the text. -/
theorem unescape_eq (spells : Spells quote text value) : unescape value = .ok text := by
  have from_any : ∀ total offset, unescapeFrom total offset value = .ok text := by
    intro total
    induction spells with
    | nil => simp [unescapeFrom]
    | cons first rest ih =>
      intro offset
      obtain ⟨further, read⟩ := first.unescapeFrom_append total offset _
      rw [read, ih further]
      rfl
  exact from_any _ 0

theorem quote_not_mem (spells : Spells quote text value) (opens : isQuote quote = true) :
    quote ∉ value := by
  induction spells with
  | nil => simp
  | cons first rest ih =>
    rw [List.mem_append, not_or]
    exact ⟨first.quote_not_mem opens, ih⟩

/-- A spelling is one of a single text. -/
theorem unique {quote' : Char} {other : List Char} (spells : Spells quote text value)
    (spells' : Spells quote' other value) : text = other :=
  Except.ok.inj (spells.unescape_eq.symm.trans spells'.unescape_eq)

end Spells

/-! ### Some spellings -/

/-- Every text without NUL can be written in references only. -/
theorem spells_references (quote : Char) (noNul : '\x00' ∉ text) :
    Spells quote text (text.flatMap fun c => '&' :: ('#' :: Nat.toDigits 10 c.toNat ++ [';'])) ∧
      Spells quote text
        (text.flatMap fun c => '&' :: ('#' :: 'x' :: Nat.toDigits 16 c.toNat ++ [';'])) := by
  induction text with
  | nil => exact ⟨.nil, .nil⟩
  | cons c text ih =>
    rw [List.mem_cons, not_or] at noNul
    have here : c ≠ '\x00' := Ne.symm noNul.1
    obtain ⟨decimal, hexadecimal⟩ := ih noNul.2
    exact ⟨.cons (.decimal here (numeral_toDigits (by decide) _)) decimal,
      .cons (.hexadecimal here (numeral_toDigits (by decide) _)) hexadecimal⟩

theorem spellsChar_escapeChar (c : Char) : SpellsChar '"' c (escapeChar c) := by
  unfold escapeChar
  cases named : entityName? c with
  | none =>
    -- The quote and the `&` have entities.
    refine .raw ?_ ?_
    all_goals
      rintro rfl
      cases named
  | some name => exact .predefined named

theorem spells_escape (text : List Char) : Spells '"' text (escape text) := by
  induction text with
  | nil => exact .nil
  | cons c text ih => exact .cons (spellsChar_escapeChar c) ih

/-- Whatever is escaped is read as it was. -/
theorem unescape_escape (text : List Char) : unescape (escape text) = .ok text :=
  (spells_escape text).unescape_eq

/-- No escaped text ends the quotes it stands in. -/
theorem quote_not_mem_escape (text : List Char) : '"' ∉ escape text :=
  (spells_escape text).quote_not_mem rfl

end ImageRefs.Markup
