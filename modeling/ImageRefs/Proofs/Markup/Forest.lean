import ImageRefs.Proofs.Markup.Division

/-!
Pieces that nest. A forest is the grammar of a text whose elements are closed in the order in which
they are open; that its tags fit together is part of the data.
-/

set_option autoImplicit false

namespace ImageRefs.Markup

/-- The first piece or element of a text, and what follows it. -/
inductive Forest where
  | nil
  | text (chars : List Char) (rest : Forest)
  | aside (content : List Char) (rest : Forest)
  | empty (content : List Char) (rest : Forest)
  | element (content : List Char) (inner : Forest) (close : List Char)
      (closed : endNameOf close = nameOf content) (rest : Forest)

/-- An element by its tag, and the text between its tags. -/
structure Element where
  content : List Char
  body : List Char
  deriving DecidableEq, Repr

namespace Element

/-- How an element is written: as an empty tag, or as two tags of one name around its body. -/
def WrittenAs (e : Element) (piece : List Char) : Prop :=
  e.body = [] ∧ piece = (Token.empty e.content).source ∨
    ∃ close, endNameOf close = nameOf e.content ∧
      piece = (Token.start e.content).source ++ (e.body ++ (Token.close close).source)

def StandsIn (e : Element) (text : List Char) : Prop :=
  ∃ before piece after, e.WrittenAs piece ∧ text = before ++ (piece ++ after)

variable {e : Element} {text : List Char}

theorem WrittenAs.standsIn (h : e.WrittenAs text) (after : List Char) :
    e.StandsIn (text ++ after) :=
  ⟨[], text, after, h, rfl⟩

theorem StandsIn.append_left (h : e.StandsIn text) (front : List Char) :
    e.StandsIn (front ++ text) := by
  obtain ⟨before, piece, after, written, rfl⟩ := h
  exact ⟨front ++ before, piece, after, written, by simp⟩

theorem StandsIn.append_right (h : e.StandsIn text) (back : List Char) :
    e.StandsIn (text ++ back) := by
  obtain ⟨before, piece, after, written, rfl⟩ := h
  exact ⟨before, piece, after ++ back, written, by simp⟩

end Element

namespace Forest

def tokens : Forest → List Token
  | .nil => []
  | .text chars rest => .text chars :: rest.tokens
  | .aside content rest => .aside content :: rest.tokens
  | .empty content rest => .empty content :: rest.tokens
  | .element content inner close _ rest =>
    .start content :: (inner.tokens ++ .close close :: rest.tokens)

def source (f : Forest) : List Char :=
  sourceOf f.tokens

/-- The elements of a chosen kind that lie in no other one of it, in the order of the text. An
empty tag has the empty text between its tags. -/
def outermost (chosen : List Char → Bool) : Forest → List Element
  | .nil => []
  | .text _ rest => rest.outermost chosen
  | .aside _ rest => rest.outermost chosen
  | .empty content rest =>
    if chosen (nameOf content) then ⟨content, []⟩ :: rest.outermost chosen
    else rest.outermost chosen
  | .element content inner _ _ rest =>
    if chosen (nameOf content) then ⟨content, inner.source⟩ :: rest.outermost chosen
    else inner.outermost chosen ++ rest.outermost chosen

@[simp] theorem source_nil : source .nil = [] := rfl

@[simp] theorem source_text (chars : List Char) (rest : Forest) :
    source (.text chars rest) = (Token.text chars).source ++ rest.source := rfl

@[simp] theorem source_aside (content : List Char) (rest : Forest) :
    source (.aside content rest) = (Token.aside content).source ++ rest.source := rfl

@[simp] theorem source_empty (content : List Char) (rest : Forest) :
    source (.empty content rest) = (Token.empty content).source ++ rest.source := rfl

@[simp] theorem source_element (content : List Char) (inner : Forest) (close : List Char)
    (closed : endNameOf close = nameOf content) (rest : Forest) :
    source (.element content inner close closed rest) = (Token.start content).source ++
      (inner.source ++ ((Token.close close).source ++ rest.source)) := by
  simp [source, sourceOf, tokens]

/-- Every outermost element is one of the chosen, and a piece of the text. -/
theorem standsIn_of_outermost {chosen : List Char → Bool} {f : Forest} {e : Element}
    (member : e ∈ f.outermost chosen) :
    chosen (nameOf e.content) = true ∧ e.StandsIn f.source := by
  induction f with
  | nil => simp [outermost] at member
  | text chars rest ih => exact ⟨(ih member).1, (ih member).2.append_left _⟩
  | aside content rest ih => exact ⟨(ih member).1, (ih member).2.append_left _⟩
  | empty content rest ih =>
    simp only [outermost] at member
    split at member
    next isChosen =>
      rcases List.mem_cons.mp member with rfl | member
      · have written : Element.WrittenAs ⟨content, []⟩ (Token.empty content).source :=
          Or.inl ⟨rfl, rfl⟩
        exact ⟨isChosen, written.standsIn rest.source⟩
      · exact ⟨(ih member).1, (ih member).2.append_left _⟩
    · exact ⟨(ih member).1, (ih member).2.append_left _⟩
  | element content inner close closed rest ihInner ih =>
    have whole : source (.element content inner close closed rest) =
        ((Token.start content).source ++ (inner.source ++ (Token.close close).source)) ++
          rest.source := by simp
    rw [whole]
    simp only [outermost] at member
    split at member
    next isChosen =>
      rcases List.mem_cons.mp member with rfl | member
      · have written : Element.WrittenAs ⟨content, inner.source⟩ _ :=
          Or.inr ⟨close, closed, rfl⟩
        exact ⟨isChosen, written.standsIn rest.source⟩
      · exact ⟨(ih member).1, (ih member).2.append_left _⟩
    · -- The element is not chosen, so those inside of it can be outermost.
      rcases List.mem_append.mp member with member | member
      · exact ⟨(ihInner member).1,
          (((ihInner member).2.append_right _).append_left _).append_right _⟩
      · exact ⟨(ih member).1, (ih member).2.append_left _⟩

/-- The pieces of one forest behind those of another. -/
def append : Forest → Forest → Forest
  | .nil, g => g
  | .text chars rest, g => .text chars (rest.append g)
  | .aside content rest, g => .aside content (rest.append g)
  | .empty content rest, g => .empty content (rest.append g)
  | .element content inner close closed rest, g =>
    .element content inner close closed (rest.append g)

@[simp] theorem tokens_append (f g : Forest) : (f.append g).tokens = f.tokens ++ g.tokens := by
  induction f with
  | nil => rfl
  | text chars rest ih => simp [append, tokens, ih]
  | aside content rest ih => simp [append, tokens, ih]
  | empty content rest ih => simp [append, tokens, ih]
  | element content inner close closed rest _ ih => simp [append, tokens, ih]

end Forest

/-! ### Open elements -/

/-- Pieces that close the open elements, the innermost first, and nest apart from that. -/
def Closes : List (List Char) → List Token → Prop
  | [], tokens => ∃ f : Forest, f.tokens = tokens
  | name :: outer, tokens => ∃ (f : Forest) (close : List Char) (after : List Token),
    tokens = f.tokens ++ .close close :: after ∧ endNameOf close = name ∧ Closes outer after

/-- Pieces can be put in front if every forest can take them. -/
theorem Closes.append (front : List Token) (put : Forest → Forest)
    (puts : ∀ f, (put f).tokens = front ++ f.tokens) {names : List (List Char)}
    {tokens : List Token} (h : Closes names tokens) : Closes names (front ++ tokens) := by
  cases names with
  | nil =>
    obtain ⟨f, rfl⟩ := h
    exact ⟨put f, puts f⟩
  | cons name outer =>
    obtain ⟨f, close, after, rfl, same, rest⟩ := h
    exact ⟨put f, close, after, by simp [puts], same, rest⟩

theorem Closes.start {content : List Char} {names : List (List Char)} {tokens : List Token}
    (h : Closes (nameOf content :: names) tokens) :
    Closes names (.start content :: tokens) := by
  obtain ⟨inner, close, after, rfl, closed, rest⟩ := h
  have whole := Closes.append (.start content :: (inner.tokens ++ [.close close]))
    (.element content inner close closed) (fun f => by simp [Forest.tokens]) rest
  simpa using whole

theorem Closes.close {content name : List Char} {names : List (List Char)} {tokens : List Token}
    (same : endNameOf content = name) (h : Closes names tokens) :
    Closes (name :: names) (.close content :: tokens) :=
  ⟨.nil, content, tokens, rfl, same, h⟩

/-- Pieces that leave elements open, the innermost first, and nest apart from that. -/
def Leaves : List (List Char) → List Token → Prop
  | [], tokens => ∃ f : Forest, f.tokens = tokens
  | name :: outer, tokens => ∃ (before : List Token) (content : List Char) (f : Forest),
    tokens = before ++ .start content :: f.tokens ∧ nameOf content = name ∧ Leaves outer before

theorem Leaves.append {names : List (List Char)} {tokens : List Token} (h : Leaves names tokens)
    (g : Forest) : Leaves names (tokens ++ g.tokens) := by
  cases names with
  | nil =>
    obtain ⟨f, rfl⟩ := h
    exact ⟨f.append g, Forest.tokens_append f g⟩
  | cons name outer =>
    obtain ⟨before, content, f, rfl, same, outside⟩ := h
    exact ⟨before, content, f.append g, by simp, same, outside⟩

theorem Leaves.start {names : List (List Char)} {tokens : List Token} (h : Leaves names tokens)
    (content : List Char) : Leaves (nameOf content :: names) (tokens ++ [.start content]) :=
  ⟨tokens, content, .nil, rfl, rfl, h⟩

/-- The end tag makes an element of the innermost start tag and what stands behind it. -/
theorem Leaves.close {content : List Char} {names : List (List Char)} {tokens : List Token}
    (h : Leaves (endNameOf content :: names) tokens) :
    Leaves names (tokens ++ [.close content]) := by
  obtain ⟨before, opening, f, rfl, same, outside⟩ := h
  have whole := outside.append (.element opening f content same.symm .nil)
  simpa [Forest.tokens] using whole

end ImageRefs.Markup
