import ImageRefs.Proofs.Template.Index

/-!
A template as a sequence of pieces, read from left to right. Which pieces there are is decided by
the template and by how many arguments there are; formatting puts the values of the pieces one
after the other.
-/

set_option autoImplicit false

namespace ImageRefs.Template

/-! ### Pieces -/

inductive Piece where
  | plain (c : Char)
  /-- A brace that is written twice. -/
  | doubled (brace : Char)
  | argument (spelling : List Char) (index : Nat)
  deriving DecidableEq, Repr

namespace Piece

def source : Piece → List Char
  | .plain c => [c]
  | .doubled brace => [brace, brace]
  | .argument spelling _ => '{' :: (spelling ++ ['}'])

/-- An argument is taken as it is. -/
def value (arguments : List String) : Piece → List Char
  | .plain c => [c]
  | .doubled brace => [brace]
  | .argument _ index => (arguments[index]?.getD "").toList

/-- The pieces that are more than a character that stands for itself. -/
inductive Special (count : Nat) : Piece → Prop where
  | openBrace : Special count (.doubled '{')
  | closeBrace : Special count (.doubled '}')
  | argument {spelling : List Char} {index : Nat} (spells : Spells spelling index)
      (present : index < count) : Special count (.argument spelling index)

end Piece

/-- The division of a template for so many arguments: at each place a special piece if the text
begins with one, and otherwise a single character. -/
inductive Divides (count : Nat) : List Char → List Piece → Prop where
  | nil : Divides count [] []
  | special {piece : Piece} {rest : List Char} {pieces : List Piece}
      (special : piece.Special count) (after : Divides count rest pieces) :
      Divides count (piece.source ++ rest) (piece :: pieces)
  | plain {c : Char} {rest : List Char} {pieces : List Piece}
      (none : ∀ piece after, Piece.Special count piece → c :: rest ≠ piece.source ++ after)
      (after : Divides count rest pieces) : Divides count (c :: rest) (.plain c :: pieces)

/-! ### There is one division only -/

theorem Spells.before_brace {spelling : List Char} {index : Nat} (spells : Spells spelling index) :
    ∀ c ∈ spelling, (c != '}') = true := by
  intro c member
  rw [bne_iff_ne]
  rintro rfl
  exact spells.not_mem (Or.inr rfl) member

/-- What a spelling and the brace behind it are is decided by the text. -/
theorem Spells.unique {spelling spelling' rest rest' : List Char} {index index' : Nat}
    (spells : Spells spelling index) (spells' : Spells spelling' index')
    (same : spelling ++ '}' :: rest = spelling' ++ '}' :: rest') :
    spelling = spelling' ∧ index = index' ∧ rest = rest' := by
  have first := congrArg (List.takeWhile (· != '}')) same
  rw [List.takeWhile_append_of_pos spells.before_brace,
    List.takeWhile_append_of_pos spells'.before_brace] at first
  obtain rfl : spelling = spelling' := by simpa using first
  refine ⟨rfl, ?_, by simpa using same⟩
  obtain ⟨digits, written, some, ascii, rfl⟩ := spells
  obtain ⟨digits', written', some', ascii', rfl⟩ := spells'
  -- A sign is no digit, so both spellings are read with it or both without it.
  have unsigned : ∀ {text : List Char}, (∀ c ∈ text, c.isDigit = true) → '+' ∉ text :=
    fun ascii member => absurd (ascii '+' member) (by decide)
  rcases written with rfl | rfl <;> rcases written' with written' | written'
  · rw [written']
  · exact absurd (by simp [written']) (unsigned ascii)
  · exact absurd (by simp [← written']) (unsigned ascii')
  · rw [(List.cons.inj written').2]

theorem Spells.index_unique {spelling : List Char} {index index' : Nat}
    (spells : Spells spelling index) (spells' : Spells spelling index') : index = index' := by
  have same : spelling ++ '}' :: [] = spelling ++ '}' :: [] := rfl
  exact (spells.unique spells' same).2.1

/-- A spelling does not begin with a brace. -/
theorem Spells.append_ne {spelling : List Char} {index : Nat} (spells : Spells spelling index)
    (tail rest : List Char) : spelling ++ tail ≠ '{' :: rest := by
  intro same
  obtain ⟨c, text, rfl⟩ := List.exists_cons_of_ne_nil spells.ne_nil
  obtain rfl := (List.cons.inj same).1
  exact spells.not_mem (Or.inl rfl) List.mem_cons_self

namespace Piece

theorem Special.unique {count : Nat} {one other : Piece} {rest rest' : List Char}
    (special : one.Special count) (special' : other.Special count)
    (same : one.source ++ rest = other.source ++ rest') : one = other ∧ rest = rest' := by
  cases special with
  | openBrace =>
    cases special' with
    | openBrace => exact ⟨rfl, by simpa [source] using same⟩
    | closeBrace => simp [source] at same
    | @argument spelling index spells present =>
      have inside : '{' :: rest = spelling ++ '}' :: rest' := by simpa [source] using same
      exact absurd inside.symm (spells.append_ne _ rest)
  | closeBrace =>
    cases special' with
    | openBrace => simp [source] at same
    | closeBrace => exact ⟨rfl, by simpa [source] using same⟩
    | argument spells present => simp [source] at same
  | @argument spelling index spells present =>
    cases special' with
    | openBrace =>
      have inside : spelling ++ '}' :: rest = '{' :: rest' := by simpa [source] using same
      exact absurd inside (spells.append_ne _ rest')
    | closeBrace => simp [source] at same
    | @argument spelling' index' spells' present' =>
      have inside : spelling ++ '}' :: rest = spelling' ++ '}' :: rest' := by
        simpa [source] using same
      obtain ⟨rfl, rfl, rfl⟩ := spells.unique spells' inside
      exact ⟨rfl, rfl⟩

end Piece

theorem Divides.unique {count : Nat} {text : List Char} {pieces other : List Piece}
    (one : Divides count text pieces) (another : Divides count text other) : other = pieces := by
  induction one generalizing other with
  | nil =>
    generalize empty : ([] : List Char) = text at another
    cases another with
    | nil => rfl
    | @special piece rest pieces special after =>
      cases special <;> simp [Piece.source] at empty
    | plain none after => cases empty
  | @special piece rest pieces special after ih =>
    generalize same : piece.source ++ rest = text at another
    cases another with
    | nil => cases special <;> simp [Piece.source] at same
    | special special' after' =>
      obtain ⟨rfl, rfl⟩ := special.unique special' same
      rw [ih after']
    | plain none after' => exact absurd same.symm (none piece rest special)
  | @plain c rest pieces none after ih =>
    generalize same : c :: rest = text at another
    cases another with
    | nil => cases same
    | special special' after' => exact absurd same (none _ _ special')
    | plain none' after' =>
      obtain ⟨rfl, rfl⟩ := List.cons.inj same
      rw [ih after']

/-! ### Formatting follows the division -/

theorem placeholder?_eq_some_iff {arguments : List String} {text rest : List Char}
    {argument : String} :
    placeholder? arguments text = some (argument, rest) ↔
      ∃ spelling index, text = spelling ++ '}' :: rest ∧ Spells spelling index ∧
        index < indexBound ∧ arguments[index]? = some argument := by
  unfold placeholder?
  constructor
  · intro found
    split at found
    · cases found
    next brace after closed =>
      simp only [Option.bind_eq_bind, Option.bind_eq_some_iff, Option.pure_def, Option.some.injEq,
        Prod.mk.injEq] at found
      obtain ⟨index, read, _, present, rfl, rfl⟩ := found
      obtain ⟨spells, below⟩ := readIndex?_eq_some_iff.mp read
      have stops := List.head?_dropWhile_not (· != '}') text
      rw [closed] at stops
      obtain rfl : brace = '}' := by simpa using stops
      refine ⟨_, index, ?_, spells, below, present⟩
      rw [← closed, List.takeWhile_append_dropWhile]
  · rintro ⟨spelling, index, rfl, spells, below, present⟩
    have read : readIndex? spelling = some index := readIndex?_eq_some_iff.mpr ⟨spells, below⟩
    rw [List.dropWhile_append_of_pos spells.before_brace,
      List.takeWhile_append_of_pos spells.before_brace]
    simp [read, present]

/-- The pieces for as many arguments as there are; their values are what formatting gives. -/
theorem exists_divides {arguments : List String} (bounded : arguments.length ≤ indexBound)
    (text : List Char) :
    ∃ pieces, Divides arguments.length text pieces ∧
      formatChars arguments text = pieces.flatMap (Piece.value arguments) := by
  fun_induction formatChars arguments text with
  | case1 => exact ⟨[], .nil, rfl⟩
  | case2 rest ih =>
    obtain ⟨pieces, divides, formatted⟩ := ih
    refine ⟨.doubled '{' :: pieces, .special .openBrace divides, ?_⟩
    rw [formatted]
    rfl
  | case3 rest ih =>
    obtain ⟨pieces, divides, formatted⟩ := ih
    refine ⟨.doubled '}' :: pieces, .special .closeBrace divides, ?_⟩
    rw [formatted]
    rfl
  | case4 rest notDoubled argument after found ih =>
    obtain ⟨pieces, divides, formatted⟩ := ih
    obtain ⟨spelling, index, rfl, spells, -, present⟩ := placeholder?_eq_some_iff.mp found
    have below : index < arguments.length := (List.getElem?_eq_some_iff.mp present).1
    refine ⟨.argument spelling index :: pieces, ?_, ?_⟩
    · simpa [Piece.source] using Divides.special (.argument spells below) divides
    · simp [formatted, Piece.value, present]
  | case5 rest notDoubled missing ih =>
    obtain ⟨pieces, divides, formatted⟩ := ih
    refine ⟨.plain '{' :: pieces, .plain ?_ divides, by rw [formatted]; rfl⟩
    intro piece after special same
    cases special with
    | openBrace => exact notDoubled after (List.cons.inj same).2
    | closeBrace => simp [Piece.source] at same
    | @argument spelling index spells below =>
      -- The index is below the number of arguments, hence a machine word, and would have been read.
      have inside : rest = spelling ++ '}' :: after := by simpa [Piece.source] using same
      have present : arguments[index]? = some arguments[index] := List.getElem?_eq_getElem below
      have found := placeholder?_eq_some_iff.mpr
        ⟨spelling, index, inside, spells, by omega, present⟩
      rw [missing] at found
      cases found
  | case6 c rest notOpen notClose notBrace ih =>
    obtain ⟨pieces, divides, formatted⟩ := ih
    refine ⟨.plain c :: pieces, .plain ?_ divides, by rw [formatted]; rfl⟩
    intro piece after special same
    cases special with
    | openBrace => exact notBrace (List.cons.inj same).1
    | closeBrace =>
      obtain ⟨rfl, rfl⟩ := List.cons.inj same
      exact notClose after rfl rfl
    | argument spells below => exact notBrace (List.cons.inj same).1

/-! ### Text and indices one by one -/

theorem formatChars_plain {arguments : List String} {text : List Char}
    (noOpen : '{' ∉ text) (noClose : '}' ∉ text) (rest : List Char) :
    formatChars arguments (text ++ rest) = text ++ formatChars arguments rest := by
  induction text with
  | nil => rfl
  | cons c text ih =>
    rw [List.mem_cons, not_or] at noOpen noClose
    have step := ih noOpen.2 noClose.2
    rw [List.cons_append, formatChars, step, List.cons_append]
    · exact fun _ same => absurd same.symm noOpen.1
    · exact fun _ same => absurd same.symm noClose.1
    · exact fun same => absurd same.symm noOpen.1

/-- The argument of an index is put in as it is, and reading goes on behind the closing brace. -/
theorem formatChars_matched {arguments : List String} {spelling : List Char} {index : Nat}
    {argument : String} (spells : Spells spelling index) (below : index < indexBound)
    (present : arguments[index]? = some argument) (rest : List Char) :
    formatChars arguments ('{' :: (spelling ++ '}' :: rest)) =
      argument.toList ++ formatChars arguments rest := by
  have found : placeholder? arguments (spelling ++ '}' :: rest) = some (argument, rest) :=
    placeholder?_eq_some_iff.mpr ⟨spelling, index, rfl, spells, below, present⟩
  rw [formatChars]
  · rw [found]
  · exact fun rest' => spells.append_ne _ rest'

/-- Braces around anything that is not the index of an argument are left as they are; reading goes on
at the closing one. -/
theorem formatChars_unread {arguments : List String} {inside : List Char}
    (noOpen : '{' ∉ inside) (noClose : '}' ∉ inside)
    (missing : ∀ index, Spells inside index → arguments[index]? = none) (rest : List Char) :
    formatChars arguments ('{' :: (inside ++ '}' :: rest)) =
      '{' :: (inside ++ formatChars arguments ('}' :: rest)) := by
  have stops : ∀ c ∈ inside, (c != '}') = true := by
    intro c member
    rw [bne_iff_ne]
    rintro rfl
    exact noClose member
  have unread : placeholder? arguments (inside ++ '}' :: rest) = none := by
    apply Option.eq_none_iff_forall_ne_some.mpr
    rintro ⟨argument, after⟩ found
    obtain ⟨spelling, index, same, spells, -, present⟩ := placeholder?_eq_some_iff.mp found
    -- Both texts end at the first closing brace, so what was read is what stands inside.
    have first := congrArg (List.takeWhile (· != '}')) same
    rw [List.takeWhile_append_of_pos stops,
      List.takeWhile_append_of_pos spells.before_brace] at first
    obtain rfl : inside = spelling := by simpa using first
    rw [missing index spells] at present
    cases present
  rw [formatChars]
  · rw [unread]
    exact congrArg _ (formatChars_plain noOpen noClose _)
  · intro rest' same
    cases inside with
    | nil => cases same
    | cons c inside =>
      obtain rfl := (List.cons.inj same).1
      exact noOpen List.mem_cons_self

/-- An index that no argument has leaves its spelling as it is, however large it is. -/
theorem formatChars_unmatched {arguments : List String} {spelling : List Char} {index : Nat}
    (spells : Spells spelling index) (beyond : arguments.length ≤ index) (rest : List Char) :
    formatChars arguments ('{' :: (spelling ++ '}' :: rest)) =
      '{' :: (spelling ++ formatChars arguments ('}' :: rest)) := by
  apply formatChars_unread (spells.not_mem (Or.inl rfl)) (spells.not_mem (Or.inr rfl))
  intro other spells'
  obtain rfl := spells.index_unique spells'
  exact List.getElem?_eq_none beyond

/-- A template has one division into pieces for every number of arguments (of which there are never
more than indices), and formatting with any arguments of that number gives the values of these
pieces. An index without an argument stays in the text as it is spelled, be it a machine word or
not. -/
theorem format_by_division (count : Nat) (bounded : count ≤ indexBound) :
    (∀ template : String, ∃ pieces, Divides count template.toList pieces ∧
      (∀ other, Divides count template.toList other → other = pieces) ∧
      ∀ arguments : List String, arguments.length = count →
        format template arguments = String.ofList (pieces.flatMap (Piece.value arguments))) ∧
    ∀ (arguments : List String) (spelling rest : List Char) (index : Nat),
      arguments.length = count → Spells spelling index → count ≤ index →
        format (String.ofList ('{' :: (spelling ++ '}' :: rest))) arguments =
          String.ofList ('{' :: (spelling ++ formatChars arguments ('}' :: rest))) := by
  constructor
  · intro template
    have length : (List.replicate count "").length = count := List.length_replicate
    obtain ⟨pieces, divides, -⟩ := exists_divides (length.symm ▸ bounded) template.toList
    rw [length] at divides
    refine ⟨pieces, divides, fun other another => divides.unique another, ?_⟩
    -- The pieces for these arguments are those for any others, since only their number matters.
    rintro arguments rfl
    obtain ⟨own, divides', formatted⟩ := exists_divides bounded template.toList
    rw [format, formatted, divides.unique divides']
  · rintro arguments spelling rest index rfl spells beyond
    rw [format, String.toList_ofList, formatChars_unmatched spells beyond]

/-- An argument that looks like a placeholder is not read again, and an index beyond all machine
words is kept like one that has no argument. -/
theorem format_keeps_huge_index :
    let template := "\x7b0\x7d \x7b\x7b1\x7d\x7d \x7b+18446744073709551616\x7d \x7b1\x7d"
    1 ≤ indexBound ∧ (∃ pieces, Divides 1 template.toList pieces ∧
      format template ["\x7b0\x7d"] = String.ofList (pieces.flatMap (Piece.value ["\x7b0\x7d"]))) ∧
    format template ["\x7b0\x7d"] =
      "\x7b0\x7d \x7b1\x7d \x7b+18446744073709551616\x7d \x7b1\x7d" := by
  intro template
  have bounded : 1 ≤ indexBound := by decide
  obtain ⟨pieces, divides, -, formatted⟩ := (format_by_division 1 bounded).1 template
  exact ⟨bounded, ⟨pieces, divides, formatted _ rfl⟩, by decide +kernel⟩

end ImageRefs.Template
