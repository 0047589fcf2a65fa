import ImageRefs.Markup.Token

/-!
The attributes of a tag. Attributes are read one after the other up to the one that is asked for;
what follows it is never looked at.
-/

set_option autoImplicit false

namespace ImageRefs.Markup

open Text

/-- A fault of an attribute, at so many bytes of the content of its tag. -/
inductive AttributeFault where
  | missingEquals (offset : Nat)
  | missingValue (offset : Nat)
  | unquotedValue (offset : Nat)
  | openValue (offset : Nat) (quote : Char)
  deriving DecidableEq, Repr

def AttributeFault.message : AttributeFault → String
  | .missingEquals offset => placed offset "attribute key must be directly followed by `=` or space"
  | .missingValue offset => placed offset "`=` must be followed by an attribute value"
  | .unquotedValue offset => placed offset "attribute value must be enclosed in `\"` or `'`"
  | .openValue offset quote =>
    placed offset ("missing closing quote `" ++ quote.toString ++ "` in attribute value")
where
  placed (offset : Nat) (text : String) : String := s!"position {offset}: " ++ text

/-- What ends the key of an attribute. -/
def endsKey (c : Char) : Bool :=
  c == '=' || isSpace c

def isQuote (c : Char) : Bool :=
  c == '"' || c == '\''

def skipSpace (text : List Char) : List Char :=
  text.dropWhile isSpace

/-- The key, the value and what follows the attribute that starts with `first`. The offset of a
fault is the size of the whole content less the size of what is left of it. -/
def readAttribute (total : Nat) (first : Char) (text : List Char) :
    Except AttributeFault (List Char × List Char × List Char) :=
  let key := first :: text.takeWhile (!endsKey ·)
  match skipSpace (text.dropWhile (!endsKey ·)) with
  | [] => .error (.missingEquals total)
  | '=' :: text =>
    match skipSpace text with
    | [] => .error (.missingValue total)
    | quote :: text =>
      if !isQuote quote then .error (.unquotedValue (total - Utf8.size (quote :: text)))
      else
        match text.dropWhile (· != quote) with
        | [] => .error (.openValue total quote)
        | _ :: rest => .ok (key, text.takeWhile (· != quote), rest)
  | text => .error (.missingEquals (total - Utf8.size text))

theorem length_dropWhile_le (p : Char → Bool) (text : List Char) :
    (text.dropWhile p).length ≤ text.length :=
  (List.dropWhile_sublist p).length_le

theorem length_of_readAttribute {total : Nat} {first : Char} {text key value rest : List Char}
    (h : readAttribute total first text = .ok (key, value, rest)) : rest.length < text.length := by
  have toEquals := length_dropWhile_le isSpace (text.dropWhile (!endsKey ·))
  have toKeyEnd := length_dropWhile_le (!endsKey ·) text
  unfold readAttribute at h
  dsimp only at h
  split at h
  · simp at h
  next afterEquals eq =>
    unfold skipSpace at eq
    rw [eq] at toEquals
    have toValue := length_dropWhile_le isSpace afterEquals
    split at h
    · simp at h
    next quote inside eq =>
      unfold skipSpace at eq
      rw [eq] at toValue
      have toQuote := length_dropWhile_le (· != quote) inside
      split at h
      · simp at h
      · split at h
        · simp at h
        next eq =>
          rw [eq] at toQuote
          simp only [Except.ok.injEq, Prod.mk.injEq] at h
          obtain ⟨_, _, rfl⟩ := h
          simp only [List.length_cons] at *
          omega
  · simp at h

/-- The value of the first attribute with the key, among those of the text. -/
def findAttribute (total : Nat) (wanted text : List Char) :
    Except AttributeFault (Option (List Char)) :=
  match _skipped : skipSpace text with
  | [] => .ok none
  | first :: rest =>
    match _read : readAttribute total first rest with
    | .error fault => .error fault
    | .ok (key, value, after) =>
      if key = wanted then .ok (some value) else findAttribute total wanted after
termination_by text.length
decreasing_by
  have shorter := length_dropWhile_le isSpace text
  have := length_of_readAttribute _read
  unfold skipSpace at _skipped
  rw [_skipped] at shorter
  simp only [List.length_cons] at shorter
  omega

/-- The value of an attribute of a tag, as it is written there. -/
def attributeOf? (wanted content : List Char) : Except AttributeFault (Option (List Char)) :=
  findAttribute (Utf8.size content) wanted (content.drop (nameOf content).length)

end ImageRefs.Markup
