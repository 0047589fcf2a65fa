import ImageRefs.Text.Extending
import ImageRefs.Text.Ignorable
import ImageRefs.Text.Unprintable
import ImageRefs.Text.Utf8

/-!
Texts in double quotes, with everything escaped that would not be seen or would be misread.
-/

set_option autoImplicit false

namespace ImageRefs.Text

/-- The code point in lower-case hexadecimal digits, as many as it needs. -/
def escapeCode (c : Char) : List Char :=
  '\\' :: 'u' :: '{' :: Nat.toDigits 16 c.toNat ++ ['}']

/-- Characters that would not be seen as such. -/
def isUnseen (c : Char) : Bool :=
  isExtending c || isIgnorable c || isUnprintable c

def escapeChar (c : Char) : List Char :=
  match c with
  | '"' => ['\\', '"']
  | '\\' => ['\\', '\\']
  | '\n' => ['\\', 'n']
  | '\r' => ['\\', 'r']
  | '\t' => ['\\', 't']
  | '\x00' => ['\\', '0']
  | _ => if isUnseen c then escapeCode c else [c]

/-- Two upper-case hexadecimal digits. -/
def escapeByte (b : UInt8) : List Char :=
  let digit (n : Nat) := (Nat.digitChar n).toUpper
  ['\\', 'x', digit (b.toNat / 16), digit (b.toNat % 16)]

def inQuotes (escaped : List Char) : String :=
  String.ofList ('"' :: escaped ++ ['"'])

def quoted (text : String) : String :=
  inQuotes (text.toList.flatMap escapeChar)

def Utf8.Piece.escaped : Utf8.Piece → List Char
  | .scalar c => escapeChar c
  | .illFormed bytes => bytes.flatMap escapeByte
  | .cut bytes => bytes.flatMap escapeByte

/-- Bytes that are not part of a character show as such. -/
def quotedBytes (bytes : Bytes) : String :=
  inQuotes ((Utf8.pieces bytes).flatMap Utf8.Piece.escaped)

/-- The items in square brackets, separated by commas. -/
def listed (items : List String) : String :=
  "[" ++ ", ".intercalate items ++ "]"

/-- A named record of fields. -/
def record (name : String) (fields : List (String × String)) : String :=
  name ++ " \x7b " ++ ", ".intercalate (fields.map fun (field, value) => field ++ ": " ++ value) ++
    " \x7d"

def flag (value : Bool) : String :=
  if value then "true" else "false"

def optional : Option String → String
  | none => "None"
  | some value => "Some(" ++ value ++ ")"

end ImageRefs.Text
