import ImageRefs.Markup.Scan
import Mathlib.Data.List.Basic

/-!
The division of a text loses no character: the pieces of a text that is divided to its end, one
after the other, are the text.
-/

set_option autoImplicit false

namespace ImageRefs.Markup

/-! ### The ends of markup -/

theorem source_of_upTo {ends : List Char → Bool} {seen text content rest : List Char}
    (h : upTo ends seen text = some (content, rest)) :
    seen.reverse ++ text = content ++ '>' :: rest := by
  induction text generalizing seen with
  | nil => simp [upTo] at h
  | cons c text ih =>
    simp only [upTo] at h
    split at h
    next stops =>
      simp only [Bool.and_eq_true, beq_iff_eq] at stops
      simp only [Option.some.injEq, Prod.mk.injEq] at h
      obtain ⟨rfl, rfl⟩ := h
      rw [stops.1]
    · simpa using ih h

theorem source_of_upToBalanced {depth : Nat} {seen text content rest : List Char}
    (h : upToBalanced depth seen text = some (content, rest)) :
    seen.reverse ++ text = content ++ '>' :: rest := by
  fun_induction upToBalanced depth seen text with
  | case1 => simp at h
  | case2 depth seen text ih => simpa using ih h
  | case3 => simp_all
  | case4 seen text depth ih => simpa using ih h
  | case5 depth seen c text _ _ ih => simpa using ih h

theorem source_of_upToTagEnd {quote? : Option Char} {seen text content rest : List Char}
    (h : upToTagEnd quote? seen text = some (content, rest)) :
    seen.reverse ++ text = content ++ '>' :: rest := by
  induction text generalizing quote? seen with
  | nil => simp [upToTagEnd] at h
  | cons c text ih =>
    simp only [upToTagEnd] at h
    split at h
    · simpa using ih h
    · split at h
      next stops =>
        simp only [Option.some.injEq, Prod.mk.injEq] at h
        obtain ⟨rfl, rfl⟩ := h
        rw [eq_of_beq stops]
      · simpa using ih h

/-! ### One token -/

/-- What the token of a piece of markup has to do with its content. -/
def Wraps (check : List Char → Except TokenFault Token) : Prop :=
  ∀ content token, check content = .ok token → token.source = '<' :: content ++ ['>']

theorem wraps_checkCdata : Wraps checkCdata := by
  intro content token h
  unfold checkCdata at h
  split at h
  · cases h
    rfl
  · cases h

theorem wraps_checkComment : Wraps checkComment := by
  intro content token h
  unfold checkComment at h
  split at h
  · cases h
    rfl
  · cases h

theorem wraps_checkDoctype : Wraps checkDoctype := by
  intro content token h
  unfold checkDoctype at h
  split at h
  · cases h
  · split at h
    · cases h
    · cases h
      rfl

theorem wraps_checkInstruction : Wraps checkInstruction := by
  intro content token h
  unfold checkInstruction at h
  split at h
  · cases h
    rfl
  · cases h

theorem wraps_checkTag : Wraps checkTag := by
  intro content token h
  unfold checkTag at h
  split at h
  next name =>
    cases h
    rfl
  · split at h
    next slash =>
      cases h
      have restored : content.dropLast ++ ['/'] = content :=
        List.dropLast_append_getLast? '/' slash
      calc (Token.empty content.dropLast).source
          = '<' :: (content.dropLast ++ ['/']) ++ ['>'] := by simp [Token.source]
        _ = '<' :: content ++ ['>'] := by rw [restored]
    · cases h
      rfl

theorem source_of_bounded {unended : TokenFault} {text rest : List Char} {token : Token}
    {split : Option (List Char × List Char)} {check : List Char → Except TokenFault Token}
    (wraps : Wraps check)
    (covers : ∀ content rest, split = some (content, rest) → text = content ++ '>' :: rest)
    (h : Lexeme.bounded unended text split check = .token token rest) :
    token.source ++ rest = '<' :: text := by
  obtain ⟨content, found, accepted⟩ := Lexeme.token_of_bounded h
  rw [wraps content token accepted, covers content rest found]
  simp

theorem source_of_markup {text rest : List Char} {token : Token}
    (h : markup text = .token token rest) : token.source ++ rest = '<' :: text := by
  unfold markup at h
  split at h
  · exact source_of_bounded wraps_checkCdata (fun _ _ => source_of_upTo) h
  · exact source_of_bounded wraps_checkComment (fun _ _ => source_of_upTo) h
  · exact source_of_bounded wraps_checkDoctype (fun _ _ => source_of_upToBalanced) h
  · exact source_of_bounded wraps_checkDoctype (fun _ _ => source_of_upToBalanced) h
  · simp at h
  · exact source_of_bounded wraps_checkInstruction (fun _ _ => source_of_upTo) h
  · exact source_of_bounded wraps_checkTag (fun _ _ => source_of_upToTagEnd) h

theorem source_of_lexeme {first : Char} {text rest : List Char} {token : Token}
    (h : lexeme first text = .token token rest) : token.source ++ rest = first :: text := by
  unfold lexeme at h
  split at h
  next angle =>
    subst angle
    exact source_of_markup h
  · simp only [Lexeme.token.injEq] at h
    obtain ⟨rfl, rfl⟩ := h
    simp [Token.source, List.takeWhile_append_dropWhile]

/-! ### The whole text -/

/-- The text of a list of pieces. -/
def sourceOf (tokens : List Token) : List Char :=
  tokens.flatMap Token.source

theorem sourceOf_scan {text : List Char} (complete : (scan text).ending = .complete) :
    sourceOf (scan text).tokens = text := by
  fun_induction scan text with
  | case1 => rfl
  | case2 first rest token after found division ih =>
    rw [sourceOf, List.flatMap_cons]
    exact (congrArg _ (ih complete)).trans (source_of_lexeme found)
  | case3 => simp at complete

end ImageRefs.Markup
