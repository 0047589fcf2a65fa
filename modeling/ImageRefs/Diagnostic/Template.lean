/-!
Message templates. A placeholder names an argument by its index; a brace that is text is doubled.

`format` reads a template from left to right. What is neither a doubled brace nor a placeholder
with an argument stays as it is, one character at a time, and arguments are never read again.
-/

set_option autoImplicit false

namespace ImageRefs.Template

/-- Indices are machine words. -/
def indexBound : Nat := UInt64.size

def digit? (c : Char) : Option Nat :=
  if c.isDigit then some (c.toNat - '0'.toNat) else none

/-- The number that the digits continue, as long as it stays an index. -/
def readDigits : Nat → List Char → Option Nat
  | n, [] => some n
  | n, c :: rest => do
    let d ← digit? c
    let m := n * 10 + d
    if m < indexBound then readDigits m rest else none

/-- An index is one digit or more after an optional `+`. -/
def readIndex? : List Char → Option Nat
  | '+' :: c :: rest => readDigits 0 (c :: rest)
  | c :: rest => readDigits 0 (c :: rest)
  | [] => none

/-- The argument that a placeholder stands for, and what follows the placeholder. The text given
starts right after the opening brace. -/
def placeholder? (arguments : List String) (text : List Char) : Option (String × List Char) :=
  match text.dropWhile (· != '}') with
  | [] => none
  | _ :: rest => do
    let index ← readIndex? (text.takeWhile (· != '}'))
    let argument ← arguments[index]?
    return (argument, rest)

theorem length_of_placeholder? {arguments : List String} {text rest : List Char}
    {argument : String} (h : placeholder? arguments text = some (argument, rest)) :
    rest.length < text.length := by
  have shorter := List.Sublist.length_le (List.dropWhile_sublist (· != '}') (l := text))
  unfold placeholder? at h
  split at h
  · simp at h
  next b after eq =>
    simp only [Option.bind_eq_bind, Option.bind_eq_some_iff, Option.pure_def, Option.some.injEq,
      Prod.mk.injEq] at h
    obtain ⟨_, _, _, _, _, rfl⟩ := h
    rw [eq] at shorter
    exact shorter

def formatChars (arguments : List String) : List Char → List Char
  | [] => []
  | '{' :: '{' :: rest => '{' :: formatChars arguments rest
  | '}' :: '}' :: rest => '}' :: formatChars arguments rest
  | '{' :: rest =>
    match _h : placeholder? arguments rest with
    | some (argument, after) => argument.toList ++ formatChars arguments after
    | none => '{' :: formatChars arguments rest
  | c :: rest => c :: formatChars arguments rest
termination_by text => text.length
decreasing_by
  · simp only [List.length_cons]; omega
  · simp only [List.length_cons]; omega
  · exact Nat.lt_succ_of_lt (length_of_placeholder? _h)
  · exact Nat.lt_succ_self _
  · exact Nat.lt_succ_self _

def format (template : String) (arguments : List String) : String :=
  String.ofList (formatChars arguments template.toList)

end ImageRefs.Template
