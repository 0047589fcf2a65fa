import ImageRefs.Text.Alphabetic
import ImageRefs.Text.Numeric

/-!
The rule for aliases: a letter or `_`, then letters, digits and `_`.
-/

set_option autoImplicit false

namespace ImageRefs

open Text

inductive AliasFault where
  | empty
  | badStart
  | badCharacter
  /-- Refused by the source of a reference, for a reason of its own. -/
  | refused (reason : String)
  deriving DecidableEq, Repr

def AliasFault.message : AliasFault → String
  | .empty => "alias is empty"
  | .badStart => "alias must start with a letter or '_'"
  | .badCharacter => "alias may only contain letters, digits and '_'"
  | .refused reason => reason

namespace Alias

def startsAlias (c : Char) : Bool :=
  c == '_' || isAlphabetic c

def continuesAlias (c : Char) : Bool :=
  c == '_' || isAlphabetic c || isNumeric c

/-- The first rule that an alias breaks. -/
def fault? (name : String) : Option AliasFault :=
  match name.toList with
  | [] => some .empty
  | first :: rest =>
    if !startsAlias first then some .badStart
    else if !rest.all continuesAlias then some .badCharacter
    else none

end Alias

end ImageRefs
