/-!
Byte sequences, and the part of one that an offset and a length of machine words select.
-/

set_option autoImplicit false

namespace ImageRefs

abbrev Bytes := List UInt8

/-- The sum of two words, unless it does not fit into a word. -/
def wordSum? (a b : UInt64) : Option UInt64 :=
  if a + b < a then none else some (a + b)

/-- The bytes from `offset` on, `length` of them, if all of them exist. -/
def Bytes.slice? (bytes : Bytes) (offset length : UInt64) : Option Bytes := do
  let stop ← wordSum? offset length
  if stop.toNat ≤ bytes.length then
    some ((bytes.drop offset.toNat).take length.toNat)
  else
    none

end ImageRefs
