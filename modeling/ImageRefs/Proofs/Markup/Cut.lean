import ImageRefs.Proofs.Markup.Continuation
import ImageRefs.Proofs.Markup.Forest

/-!
Texts that are cut. Where the part before the cut consists of pieces that nest, every element of the
whole text that has begun there has also ended there.
-/

set_option autoImplicit false

namespace ImageRefs.Markup

/-- The pieces of a text and of the text with more behind it: the last piece may have grown, if it
is not markup. -/
inductive Begins : List Token → List Token → Prop where
  | nil (later : List Token) : Begins [] later
  | grown {chars longer : List Char} (grows : chars <+: longer) (later : List Token) :
      Begins [.text chars] (.text longer :: later)
  | cons (token : Token) {front whole : List Token} (rest : Begins front whole) :
      Begins (token :: front) (token :: whole)

theorem Begins.append (front : List Token) {back whole : List Token} (begins : Begins back whole) :
    Begins (front ++ back) (front ++ whole) := by
  induction front with
  | nil => exact begins
  | cons token front ih => exact .cons token ih

/-- The pieces of a text that is divided to its end are those that any longer text begins with. -/
theorem begins_scan_append {text : List Char} (complete : (scan text).ending = .complete)
    (more : List Char) : Begins (scan text).tokens (scan (text ++ more)).tokens := by
  rcases scan_append complete more with apart | ⟨init, chars, last, grown⟩
  · rw [apart]
    simpa using Begins.append (scan text).tokens (.nil (scan more).tokens)
  · -- The last text takes up the beginning of what follows.
    rw [last, grown]
    exact Begins.append init (.grown (List.prefix_append chars _) _)

/-- A piece is the same in the longer text if it is not the last one, or if either is markup. -/
theorem Begins.of_cons {first first' : Token} {front whole : List Token}
    (begins : Begins (first :: front) (first' :: whole))
    (fixed : front ≠ [] ∨ (∀ chars, first ≠ .text chars) ∨ ∀ chars, first' ≠ .text chars) :
    first = first' ∧ Begins front whole := by
  cases begins with
  | grown grows later =>
    rcases fixed with more | markup | markup
    · exact absurd rfl more
    · exact absurd rfl (markup _)
    · exact absurd rfl (markup _)
  | cons token rest => exact ⟨rfl, rest⟩

/-- A text that is the last piece may go on, and otherwise it is the same. -/
theorem Begins.of_text {chars longer : List Char} {front whole : List Token}
    (begins : Begins (.text chars :: front) (.text longer :: whole)) :
    front = [] ∧ chars <+: longer ∨ chars = longer ∧ Begins front whole := by
  cases begins with
  | grown grows later => exact Or.inl ⟨rfl, grows⟩
  | cons token rest => exact Or.inr ⟨rfl, rest⟩

namespace Forest

/-- Pieces that nest up to an end tag that closes none of them are found again. -/
theorem begins_close {inner inner' : Forest} {close close' : List Char} {front whole : List Token}
    (begins : Begins (inner.tokens ++ .close close :: front)
      (inner'.tokens ++ .close close' :: whole)) :
    inner.tokens = inner'.tokens ∧ close = close' ∧ Begins front whole := by
  induction inner generalizing inner' close close' front whole with
  | nil =>
    cases inner' with
    | nil =>
      obtain ⟨same, later⟩ := begins.of_cons (by simp)
      exact ⟨rfl, Token.close.inj same, later⟩
    | _ => cases (begins.of_cons (by simp)).1
  | text chars rest ih =>
    cases inner' with
    | text chars' rest' =>
      obtain ⟨same, later⟩ := begins.of_cons (by simp)
      obtain ⟨others, closed, behind⟩ := ih later
      exact ⟨congrArg₂ _ same others, closed, behind⟩
    | _ => cases (begins.of_cons (by simp)).1
  | aside content rest ih =>
    cases inner' with
    | aside content' rest' =>
      obtain ⟨same, later⟩ := begins.of_cons (by simp)
      obtain ⟨others, closed, behind⟩ := ih later
      exact ⟨congrArg₂ _ same others, closed, behind⟩
    | _ => cases (begins.of_cons (by simp)).1
  | empty content rest ih =>
    cases inner' with
    | empty content' rest' =>
      obtain ⟨same, later⟩ := begins.of_cons (by simp)
      obtain ⟨others, closed, behind⟩ := ih later
      exact ⟨congrArg₂ _ same others, closed, behind⟩
    | _ => cases (begins.of_cons (by simp)).1
  | element content held last closed rest ihHeld ih =>
    cases inner' with
    | element content' held' last' closed' rest' =>
      simp only [tokens, List.cons_append, List.append_assoc] at begins
      obtain ⟨same, later⟩ := begins.of_cons (by simp)
      -- The end tag of the element comes first, then the one that is asked for.
      obtain ⟨inside, ended, later⟩ := ihHeld later
      obtain ⟨others, closing, behind⟩ := ih later
      exact ⟨by simp only [tokens, same, inside, ended, others], closing, behind⟩
    | _ => cases (begins.of_cons (by simp)).1

/-- Nothing but one element, with all that it holds. -/
inductive IsElement : Forest → Prop where
  | empty (content : List Char) : IsElement (.empty content .nil)
  | element (content : List Char) (inner : Forest) (close : List Char)
      (closed : endNameOf close = nameOf content) :
      IsElement (.element content inner close closed .nil)

theorem source_of_tokens {f g : Forest} (same : f.tokens = g.tokens) : f.source = g.source :=
  congrArg sourceOf same

/-- Pieces that nest, and that an element begins with, are none or hold the whole element. -/
theorem none_or_behind {front one : Forest} {later : List Token} (element : one.IsElement)
    (begins : Begins front.tokens (one.tokens ++ later)) :
    front.source = [] ∨ one.source <+: front.source := by
  cases element with
  | empty content =>
    cases front with
    | nil => exact Or.inl rfl
    | empty content' rest =>
      obtain ⟨same, -⟩ := begins.of_cons (by simp)
      cases same
      exact Or.inr ⟨rest.source, by simp⟩
    | _ => cases (begins.of_cons (by simp)).1
  | element content inner close closed =>
    cases front with
    | nil => exact Or.inl rfl
    | element content' inner' close' closed' rest =>
      simp only [tokens, List.cons_append, List.append_assoc] at begins
      obtain ⟨same, inside⟩ := begins.of_cons (by simp)
      obtain ⟨held, ended, -⟩ := begins_close inside
      cases same
      exact Or.inr ⟨rest.source, by simp [ended, source_of_tokens held]⟩
    | _ => cases (begins.of_cons (by simp)).1

/-- More text in front of two texts, of which one ends before or behind a third. -/
theorem append_before_or_behind {front before one : List Char}
    (h : front <+: before ∨ before ++ one <+: front) (text : List Char) :
    text ++ front <+: text ++ before ∨ (text ++ before) ++ one <+: text ++ front := by
  rw [List.append_assoc, List.prefix_append_right_inj, List.prefix_append_right_inj]
  exact h

/-- Pieces that nest do not end inside of an element of the pieces that they begin. -/
theorem before_or_behind {front before one : Forest} {later : List Token} (element : one.IsElement)
    (begins : Begins front.tokens (before.tokens ++ (one.tokens ++ later))) :
    front.source <+: before.source ∨ before.source ++ one.source <+: front.source := by
  induction before generalizing front with
  | nil =>
    rcases none_or_behind element begins with none | behind
    · exact Or.inl (by rw [none]; exact List.nil_prefix)
    · exact Or.inr behind
  | text chars before ih =>
    cases front with
    | nil => exact Or.inl List.nil_prefix
    | text chars' rest =>
      rcases begins.of_text with ⟨last, grows⟩ | ⟨same, behind⟩
      · -- The text goes on behind the cut, so that the cut is within it.
        left
        have ends : rest.source = [] := congrArg sourceOf last
        rw [source_text, source_text, ends, List.append_nil]
        exact grows.trans (List.prefix_append _ _)
      · cases same
        exact append_before_or_behind (ih behind) _
    | _ => cases (begins.of_cons (by simp)).1
  | aside content before ih =>
    cases front with
    | nil => exact Or.inl List.nil_prefix
    | aside content' rest =>
      obtain ⟨same, behind⟩ := begins.of_cons (by simp)
      cases same
      exact append_before_or_behind (ih behind) _
    | _ => cases (begins.of_cons (by simp)).1
  | empty content before ih =>
    cases front with
    | nil => exact Or.inl List.nil_prefix
    | empty content' rest =>
      obtain ⟨same, behind⟩ := begins.of_cons (by simp)
      cases same
      exact append_before_or_behind (ih behind) _
    | _ => cases (begins.of_cons (by simp)).1
  | element content inner close closed before ihInner ih =>
    cases front with
    | nil => exact Or.inl List.nil_prefix
    | element content' inner' close' closed' rest =>
      simp only [tokens, List.cons_append, List.append_assoc] at begins
      obtain ⟨same, inside⟩ := begins.of_cons (by simp)
      obtain ⟨held, ended, behind⟩ := begins_close inside
      cases same
      -- The element is the same in both, so the cut is behind it.
      have pieces := append_before_or_behind (ih behind)
        ((Token.start content).source ++ (inner.source ++ (Token.close close).source))
      simpa [ended, source_of_tokens held] using pieces
    | _ => cases (begins.of_cons (by simp)).1

end Forest

/-- A text whose pieces nest does not end inside of an element of a text that goes on behind it. -/
theorem cut_before_or_behind {cut more : List Char} {front before one : Forest}
    {later : List Token} (complete : (scan cut).ending = .complete)
    (nests : front.tokens = (scan cut).tokens) (element : one.IsElement)
    (divided : (scan (cut ++ more)).tokens = before.tokens ++ (one.tokens ++ later)) :
    cut <+: before.source ∨ before.source ++ one.source <+: cut := by
  have begins := begins_scan_append complete more
  rw [divided, ← nests] at begins
  have restored : front.source = cut := by
    rw [← sourceOf_scan complete, Forest.source, nests]
  rw [← restored]
  exact Forest.before_or_behind element begins

end ImageRefs.Markup
