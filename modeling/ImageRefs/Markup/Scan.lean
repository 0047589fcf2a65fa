import ImageRefs.Markup.Token

/-!
The division of a text into tokens. The character after `<` decides what kind of markup begins, and
each kind has its own end. `scan` divides the whole text; it stops at the first piece that is not
complete.
-/

set_option autoImplicit false

namespace ImageRefs.Markup

/-! ### The ends of markup -/

/-- Splits a text at the first `>` that ends the markup, given what was read before, backwards. -/
def upTo (ends : List Char → Bool) (seen : List Char) :
    List Char → Option (List Char × List Char)
  | [] => none
  | c :: rest =>
    if c == '>' && ends seen then some (seen.reverse, rest) else upTo ends (c :: seen) rest

/-- An instruction ends behind a `?`, be it the one that opens it. -/
def endsInstruction (seen : List Char) : Bool :=
  seen.head? == some '?'

def endsCdata (seen : List Char) : Bool :=
  seen.take 2 == [']', ']']

/-- The two hyphens at the end are not the ones at the start. -/
def endsComment (seen : List Char) : Bool :=
  seen.take 2 == ['-', '-'] && 5 ≤ seen.length

/-- Splits a text at the `>` that is not the partner of a `<` inside. -/
def upToBalanced (depth : Nat) (seen : List Char) : List Char → Option (List Char × List Char)
  | [] => none
  | '<' :: rest => upToBalanced (depth + 1) ('<' :: seen) rest
  | '>' :: rest =>
    match depth with
    | 0 => some (seen.reverse, rest)
    | depth + 1 => upToBalanced depth ('>' :: seen) rest
  | c :: rest => upToBalanced depth (c :: seen) rest

/-- Splits a text at the first `>` outside of quotes. -/
def upToTagEnd (quote? : Option Char) (seen : List Char) :
    List Char → Option (List Char × List Char)
  | [] => none
  | c :: rest =>
    match quote? with
    | some quote => upToTagEnd (if c == quote then none else some quote) (c :: seen) rest
    | none =>
      if c == '>' then some (seen.reverse, rest)
      else upToTagEnd (if c == '"' || c == '\'' then some c else none) (c :: seen) rest

/-! ### One token -/

/-- The first piece of a text. -/
inductive Lexeme where
  | token (token : Token) (rest : List Char)
  /-- A piece of markup with a fault, and how much of the text was read to find it. -/
  | fault (fault : TokenFault) (consumed : List Char)
  deriving DecidableEq, Repr

/-- Markup that has to end somewhere and to hold what its kind requires. -/
def Lexeme.bounded (unended : TokenFault) (text : List Char)
    (split : Option (List Char × List Char)) (check : List Char → Except TokenFault Token) :
    Lexeme :=
  match split with
  | none => .fault unended ('<' :: text)
  | some (content, rest) =>
    match check content with
    | .ok piece => .token piece rest
    | .error found => .fault found ('<' :: content ++ ['>'])

def cdataOpening : List Char := ['!', '[', 'C', 'D', 'A', 'T', 'A', '[']
def commentOpening : List Char := ['!', '-', '-']
def doctypeOpening : List Char := ['!', 'D', 'O', 'C', 'T', 'Y', 'P', 'E']

def checkCdata (content : List Char) : Except TokenFault Token :=
  if cdataOpening.isPrefixOf content then .ok (.aside content) else .error .openCdata

def checkComment (content : List Char) : Except TokenFault Token :=
  if commentOpening.isPrefixOf content then .ok (.aside content) else .error .openComment

/-- The word may be written in any case, and a name has to follow. -/
def checkDoctype (content : List Char) : Except TokenFault Token :=
  if !doctypeOpening.isPrefixOf (content.map Char.toUpper) then .error .openDoctype
  else if (content.drop doctypeOpening.length).all isSpace then .error .doctypeWithoutName
  else .ok (.aside content)

/-- The opening mark and the closing one are different characters. -/
def checkInstruction (content : List Char) : Except TokenFault Token :=
  if 2 ≤ content.length then .ok (.aside content) else .error .openInstruction

/-- A tag with a `/` right before its end is empty, if it does not start with it. -/
def checkTag (content : List Char) : Except TokenFault Token :=
  match content with
  | '/' :: name => .ok (.close name)
  | _ =>
    if content.getLast? = some '/' then .ok (.empty content.dropLast) else .ok (.start content)

/-- Markup from what stands behind `<`. -/
def markup (text : List Char) : Lexeme :=
  match text with
  | '!' :: '[' :: _ => .bounded .openCdata text (upTo endsCdata [] text) checkCdata
  | '!' :: '-' :: _ => .bounded .openComment text (upTo endsComment [] text) checkComment
  | '!' :: 'D' :: _ | '!' :: 'd' :: _ =>
    .bounded .openDoctype text (upToBalanced 0 [] text) checkDoctype
  | '!' :: _ => .fault .unknownMarkup ['<']
  | '?' :: _ => .bounded .openInstruction text (upTo endsInstruction [] text) checkInstruction
  | _ => .bounded .openTag text (upToTagEnd none [] text) checkTag

/-- The first piece of the text `first :: rest`. -/
def lexeme (first : Char) (rest : List Char) : Lexeme :=
  if first = '<' then markup rest
  else .token (.text (first :: rest.takeWhile (· != '<'))) (rest.dropWhile (· != '<'))

/-! ### Every piece is shorter than what it was taken from -/

theorem length_of_upTo {ends : List Char → Bool} {seen text content rest : List Char}
    (h : upTo ends seen text = some (content, rest)) : rest.length < text.length := by
  induction text generalizing seen with
  | nil => simp [upTo] at h
  | cons c text ih =>
    simp only [upTo] at h
    split at h
    · simp_all
    · exact Nat.lt_succ_of_lt (ih h)

theorem length_of_upToBalanced {depth : Nat} {seen text content rest : List Char}
    (h : upToBalanced depth seen text = some (content, rest)) : rest.length < text.length := by
  fun_induction upToBalanced depth seen text with
  | case1 => simp at h
  | case2 _ _ _ ih => exact Nat.lt_succ_of_lt (ih h)
  | case3 => simp_all
  | case4 _ _ _ ih => exact Nat.lt_succ_of_lt (ih h)
  | case5 _ _ _ _ _ _ ih => exact Nat.lt_succ_of_lt (ih h)

theorem length_of_upToTagEnd {quote? : Option Char} {seen text content rest : List Char}
    (h : upToTagEnd quote? seen text = some (content, rest)) : rest.length < text.length := by
  induction text generalizing quote? seen with
  | nil => simp [upToTagEnd] at h
  | cons c text ih =>
    simp only [upToTagEnd] at h
    split at h
    · exact Nat.lt_succ_of_lt (ih h)
    · split at h
      · simp_all
      · exact Nat.lt_succ_of_lt (ih h)

theorem Lexeme.token_of_bounded {unended : TokenFault} {text rest : List Char} {token : Token}
    {split : Option (List Char × List Char)} {check : List Char → Except TokenFault Token}
    (h : Lexeme.bounded unended text split check = .token token rest) :
    ∃ content, split = some (content, rest) ∧ check content = .ok token := by
  unfold Lexeme.bounded at h
  split at h
  · simp at h
  next content rest' =>
    split at h
    next token' accepted =>
      simp only [Lexeme.token.injEq] at h
      obtain ⟨rfl, rfl⟩ := h
      exact ⟨content, rfl, accepted⟩
    · simp at h

theorem length_of_markup {text rest : List Char} {token : Token}
    (h : markup text = .token token rest) : rest.length < text.length := by
  unfold markup at h
  split at h
  · obtain ⟨_, h, _⟩ := Lexeme.token_of_bounded h; exact length_of_upTo h
  · obtain ⟨_, h, _⟩ := Lexeme.token_of_bounded h; exact length_of_upTo h
  · obtain ⟨_, h, _⟩ := Lexeme.token_of_bounded h; exact length_of_upToBalanced h
  · obtain ⟨_, h, _⟩ := Lexeme.token_of_bounded h; exact length_of_upToBalanced h
  · simp at h
  · obtain ⟨_, h, _⟩ := Lexeme.token_of_bounded h; exact length_of_upTo h
  · obtain ⟨_, h, _⟩ := Lexeme.token_of_bounded h; exact length_of_upToTagEnd h

theorem length_of_lexeme {first : Char} {text rest : List Char} {token : Token}
    (h : lexeme first text = .token token rest) : rest.length < (first :: text).length := by
  unfold lexeme at h
  split at h
  · exact Nat.lt_succ_of_lt (length_of_markup h)
  · simp only [Lexeme.token.injEq] at h
    obtain ⟨_, rfl⟩ := h
    exact Nat.lt_succ_of_le (List.dropWhile_sublist _).length_le

/-! ### The whole text -/

/-- How the division of a text ends. -/
inductive Ending where
  | complete
  /-- At a piece with a fault, of which so much was read. -/
  | broken (fault : TokenFault) (consumed : List Char)
  deriving DecidableEq, Repr

structure Scan where
  tokens : List Token
  ending : Ending
  deriving DecidableEq, Repr

def scan : List Char → Scan
  | [] => ⟨[], .complete⟩
  | first :: rest =>
    match _h : lexeme first rest with
    | .token token rest =>
      let after := scan rest
      ⟨token :: after.tokens, after.ending⟩
    | .fault fault consumed => ⟨[], .broken fault consumed⟩
termination_by text => text.length
decreasing_by exact length_of_lexeme _h

end ImageRefs.Markup
