import ImageRefs.Markup.Token

/-!
Escaped characters in attribute values: the five predefined entities, and references to a character
by its code point.
-/

set_option autoImplicit false

namespace ImageRefs.Markup

open Text

inductive NumberFault where
  | sign
  | empty
  | badDigit
  | tooLarge
  | zero
  | notACharacter (code : Nat)
  deriving DecidableEq, Repr

def NumberFault.message : NumberFault → String
  | .sign => "unexpected number sign"
  | .empty => "cannot parse integer from empty string"
  | .badDigit => "invalid digit found in string"
  | .tooLarge => "number too large to fit in target type"
  | .zero => "0x0 character is not permitted in XML"
  | .notACharacter code => s!"`{code}` is not a valid codepoint"

inductive EntityFault where
  /-- From the `&` to the end of the value. -/
  | unterminated (start stop : Nat)
  /-- Where the name of the entity starts and stops. -/
  | unknown (start stop : Nat) (name : List Char)
  | number (fault : NumberFault)
  deriving DecidableEq, Repr

def EntityFault.message : EntityFault → String
  | .unterminated start stop =>
    s!"Error while escaping character at range {start}..{stop}: " ++ "Cannot find ';' after '&'"
  | .unknown start stop name =>
    s!"at {start}..{stop}: unrecognized entity " ++ "`" ++ String.ofList name ++ "`"
  | .number fault => "invalid character reference: " ++ fault.message

/-! ### Numbers -/

def digitValue? (radix : Nat) (c : Char) : Option Nat :=
  let value? :=
    if c.isDigit then some (c.toNat - '0'.toNat)
    else if 'a' ≤ c ∧ c ≤ 'f' then some (10 + (c.toNat - 'a'.toNat))
    else if 'A' ≤ c ∧ c ≤ 'F' then some (10 + (c.toNat - 'A'.toNat))
    else none
  value?.filter (· < radix)

/-- Code points are read as words of 32 bits. -/
def codeBound : Nat := UInt32.size

/-- A digit that is none is reported before the number gets too large through it. -/
def readNumber (radix : Nat) : Nat → List Char → Except NumberFault Nat
  | n, [] => .ok n
  | n, c :: rest =>
    match digitValue? radix c with
    | none => .error .badDigit
    | some d =>
      if n * radix + d < codeBound then readNumber radix (n * radix + d) rest
      else .error .tooLarge

def number (radix : Nat) (digits : List Char) : Except NumberFault Nat :=
  match digits with
  | [] => .error .empty
  | c :: _ => if c == '+' || c == '-' then .error .sign else readNumber radix 0 digits

def charOfCode (code : Nat) : Except NumberFault Char :=
  if code = 0 then .error .zero
  else if code.isValidChar then .ok (Char.ofNat code)
  else .error (.notACharacter code)

/-- A number after `#` is decimal, after `#x` hexadecimal. -/
def charOfReference (digits : List Char) : Except NumberFault Char :=
  match digits with
  | 'x' :: digits => number 16 digits >>= charOfCode
  | _ => number 10 digits >>= charOfCode

/-! ### Entities -/

def predefined? (name : List Char) : Option Char :=
  if name = ['l', 't'] then some '<'
  else if name = ['g', 't'] then some '>'
  else if name = ['a', 'm', 'p'] then some '&'
  else if name = ['a', 'p', 'o', 's'] then some '\''
  else if name = ['q', 'u', 'o', 't'] then some '"'
  else none

/-- The character that is written as `&name;`, where the name starts after so many bytes. -/
def entity (offset : Nat) (name : List Char) : Except EntityFault Char :=
  match name with
  | '#' :: digits => (charOfReference digits).mapError .number
  | _ =>
    match predefined? name with
    | some c => .ok c
    | none => .error (.unknown offset (offset + Utf8.size name) name)

/-- What an entity's name does not reach over. -/
def endsName (c : Char) : Bool :=
  c == '&' || c == ';'

/-- The text behind `offset` bytes of a value of the size `total`. -/
def unescapeFrom (total : Nat) : Nat → List Char → Except EntityFault (List Char)
  | _, [] => .ok []
  | offset, '&' :: text =>
    match _h : text.dropWhile (!endsName ·) with
    | ';' :: rest => do
      let name := text.takeWhile (!endsName ·)
      let c ← entity (offset + 1) name
      let after ← unescapeFrom total (offset + Utf8.size name + 2) rest
      return c :: after
    | _ => .error (.unterminated offset total)
  | offset, c :: text => do
    let after ← unescapeFrom total (offset + c.utf8Size) text
    return c :: after
termination_by _ text => text.length
decreasing_by
  · have shorter := (List.dropWhile_sublist (!endsName ·) (l := text)).length_le
    rw [_h] at shorter
    simp only [List.length_cons] at *
    omega
  · simp

def unescape (value : List Char) : Except EntityFault (List Char) :=
  unescapeFrom (Utf8.size value) 0 value

end ImageRefs.Markup
