import ImageRefs.Proofs.Markup.Division
import Mathlib.Data.List.TakeWhile

/-!
Texts that go on. A piece of markup that is complete does not depend on what follows it, so a text
that is divided to its end keeps its pieces when more text is put behind it; only a text at the very
end may grow.
-/

set_option autoImplicit false

namespace ImageRefs.Markup

variable {text more content rest : List Char}

/-! ### The ends of markup -/

theorem upTo_append {ends : List Char → Bool} {seen : List Char} (more : List Char)
    (h : upTo ends seen text = some (content, rest)) :
    upTo ends seen (text ++ more) = some (content, rest ++ more) := by
  induction text generalizing seen with
  | nil => simp [upTo] at h
  | cons c text ih =>
    rw [List.cons_append]
    simp only [upTo] at h ⊢
    split at h
    next stops =>
      cases h
      rw [if_pos stops]
    next goesOn =>
      rw [if_neg goesOn]
      exact ih h

theorem upToBalanced_append {depth : Nat} {seen : List Char} (more : List Char)
    (h : upToBalanced depth seen text = some (content, rest)) :
    upToBalanced depth seen (text ++ more) = some (content, rest ++ more) := by
  fun_induction upToBalanced depth seen text with
  | case1 => cases h
  | case2 depth seen text ih => exact ih h
  | case3 seen text =>
    cases h
    rfl
  | case4 seen text depth ih => exact ih h
  | case5 depth seen c text notOpen notClose ih =>
    rw [List.cons_append, upToBalanced]
    · exact ih h
    · exact notOpen
    · exact notClose

theorem upToTagEnd_append {quote? : Option Char} {seen : List Char} (more : List Char)
    (h : upToTagEnd quote? seen text = some (content, rest)) :
    upToTagEnd quote? seen (text ++ more) = some (content, rest ++ more) := by
  induction text generalizing quote? seen with
  | nil => simp [upToTagEnd] at h
  | cons c text ih =>
    rw [List.cons_append]
    simp only [upToTagEnd] at h ⊢
    split at h
    · exact ih h
    · split at h
      next stops =>
        cases h
        rw [if_pos stops]
      next goesOn =>
        rw [if_neg goesOn]
        exact ih h

/-! ### One piece -/

theorem Lexeme.bounded_append {unended : TokenFault} {token : Token}
    {split split' : Option (List Char × List Char)} {check : List Char → Except TokenFault Token}
    (longer : ∀ content rest, split = some (content, rest) → split' = some (content, rest ++ more))
    (h : Lexeme.bounded unended text split check = .token token rest) :
    Lexeme.bounded unended (text ++ more) split' check = .token token (rest ++ more) := by
  obtain ⟨content, found, accepted⟩ := Lexeme.token_of_bounded h
  simp only [Lexeme.bounded, longer content rest found, accepted]

theorem markup_tag {c : Char} (declaration : c ≠ '!') (instruction : c ≠ '?') (text : List Char) :
    markup (c :: text) =
      .bounded .openTag (c :: text) (upToTagEnd none [] (c :: text)) checkTag := by
  unfold markup
  split <;> simp_all

/-- The first characters decide what kind of markup it is, and they are there already. -/
theorem markup_append {token : Token} (more : List Char) (h : markup text = .token token rest) :
    markup (text ++ more) = .token token (rest ++ more) := by
  unfold markup at h
  split at h
  · exact Lexeme.bounded_append (fun _ _ => upTo_append more) h
  · exact Lexeme.bounded_append (fun _ _ => upTo_append more) h
  · exact Lexeme.bounded_append (fun _ _ => upToBalanced_append more) h
  · exact Lexeme.bounded_append (fun _ _ => upToBalanced_append more) h
  · cases h
  · exact Lexeme.bounded_append (fun _ _ => upTo_append more) h
  next text' cdata comment doctype doctype' declaration instruction =>
    -- A text of no characters is no complete tag, so there is a first one that begins a tag.
    cases text with
    | nil =>
      obtain ⟨content, found, -⟩ := Lexeme.token_of_bounded h
      cases found
    | cons c text =>
      have notDeclaration : c ≠ '!' := fun same => declaration text (by rw [same])
      have notInstruction : c ≠ '?' := fun same => instruction text (by rw [same])
      rw [List.cons_append, markup_tag notDeclaration notInstruction]
      exact Lexeme.bounded_append (fun _ _ => upToTagEnd_append more) h

/-! ### Whole texts -/

/-- Where a text before it comes to its end. -/
def Stops (text : List Char) : Prop :=
  text.takeWhile (· != '<') = []

theorem scan_markup {token : Token} (h : markup text = .token token rest) :
    scan ('<' :: text) = ⟨token :: (scan rest).tokens, (scan rest).ending⟩ := by
  rw [scan]
  split
  next other rest' found =>
    rw [lexeme, if_pos rfl, h] at found
    cases found
    rfl
  next fault consumed found =>
    rw [lexeme, if_pos rfl, h] at found
    cases found

theorem scan_text {first : Char} (other : first ≠ '<') (text : List Char) :
    scan (first :: text) =
      ⟨.text (first :: text.takeWhile (· != '<')) :: (scan (text.dropWhile (· != '<'))).tokens,
        (scan (text.dropWhile (· != '<'))).ending⟩ := by
  rw [scan]
  split
  next token rest found =>
    rw [lexeme, if_neg other] at found
    cases found
    rfl
  next fault consumed found =>
    rw [lexeme, if_neg other] at found
    cases found

/-- A run of characters ends within the text, or goes on in what follows. -/
theorem run_append (p : Char → Bool) (text more : List Char) :
    text.dropWhile p = [] ∧ (text ++ more).takeWhile p = text.takeWhile p ++ more.takeWhile p ∧
        (text ++ more).dropWhile p = more.dropWhile p ∨
      (text ++ more).takeWhile p = text.takeWhile p ∧
        (text ++ more).dropWhile p = text.dropWhile p ++ more := by
  induction text with
  | nil => exact Or.inl ⟨rfl, rfl, rfl⟩
  | cons c text ih =>
    by_cases runs : p c = true
    · rcases ih with ⟨ended, first, second⟩ | ⟨first, second⟩
      · left
        simp [runs, ended, first, second]
      · right
        simp [runs, first, second]
    · right
      simp [runs]

/-- More text behind a text adds its own pieces, unless it begins with a text and stands behind
one. -/
theorem scan_append (complete : (scan text).ending = .complete) (more : List Char) :
    scan (text ++ more) = ⟨(scan text).tokens ++ (scan more).tokens, (scan more).ending⟩ ∨
      ∃ init chars, (scan text).tokens = init ++ [.text chars] ∧
        scan (text ++ more) = ⟨init ++ .text (chars ++ more.takeWhile (· != '<')) ::
            (scan (more.dropWhile (· != '<'))).tokens,
          (scan (more.dropWhile (· != '<'))).ending⟩ := by
  fun_induction scan text with
  | case1 => exact Or.inl rfl
  | case2 c rest token after found division ih =>
    have later := ih complete
    by_cases angle : c = '<'
    · subst angle
      have piece : markup rest = .token token after := by simpa [lexeme] using found
      have step := scan_markup (markup_append more piece)
      rcases later with apart | ⟨init, chars, last, grown⟩
      · left
        rw [List.cons_append, step, apart]
        rfl
      · right
        refine ⟨token :: init, chars, congrArg (token :: ·) last, ?_⟩
        rw [List.cons_append, step, grown]
        rfl
    · have piece : token = .text (c :: rest.takeWhile (· != '<')) ∧
          after = rest.dropWhile (· != '<') := by
        simpa [lexeme, angle, eq_comm] using found
      obtain ⟨rfl, rfl⟩ := piece
      have step := scan_text angle (rest ++ more)
      rcases run_append (· != '<') rest more with ⟨ended, run, remainder⟩ | ⟨run, remainder⟩
      · -- The text is the last piece, and what follows makes it longer.
        right
        refine ⟨[], c :: rest.takeWhile (· != '<'), ?_, ?_⟩
        · simp only [division, ended, scan, List.nil_append]
        · rw [List.cons_append, step, run, remainder]
          rfl
      · rw [run, remainder] at step
        rcases later with apart | ⟨init, chars, last, grown⟩
        · left
          rw [List.cons_append, step, apart]
          rfl
        · right
          refine ⟨_ :: init, chars, congrArg (_ :: ·) last, ?_⟩
          rw [List.cons_append, step, grown]
          rfl
  | case3 => cases complete

theorem scan_append_of_stops (complete : (scan text).ending = .complete) (stops : Stops more) :
    scan (text ++ more) = ⟨(scan text).tokens ++ (scan more).tokens, (scan more).ending⟩ := by
  rcases scan_append complete more with apart | ⟨init, chars, last, grown⟩
  · exact apart
  · have whole : more.dropWhile (· != '<') = more := by
      have split := List.takeWhile_append_dropWhile (p := (· != '<')) (l := more)
      rwa [stops, List.nil_append] at split
    rw [grown, last, stops, whole, List.append_nil, List.append_assoc]
    rfl

end ImageRefs.Markup
