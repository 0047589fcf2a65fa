import ImageRefs.Text.Quoted

/-!
The texts that a documentation file has for its members, by documentation id.
-/

set_option autoImplicit false

namespace ImageRefs.Documentation

/-- No id occurs twice; ids stand in the order in which they were first met. -/
structure Members where
  entries : List (String × String) := []
  deriving DecidableEq, Repr

namespace Members

def text? (members : Members) (id : String) : Option String :=
  members.entries.lookup id

def size (members : Members) : Nat :=
  members.entries.length

def isEmpty (members : Members) : Bool :=
  members.entries.isEmpty

/-- An id that has a text keeps it. -/
def add (members : Members) (id text : String) : Members :=
  if (members.text? id).isSome then members else ⟨members.entries ++ [(id, text)]⟩

theorem text?_add (members : Members) (id text id' : String) :
    (members.add id text).text? id' =
      (members.text? id').or (if id' = id then some text else none) := by
  unfold add
  split
  next present =>
    split
    next same => subst same; revert present; cases members.text? id' <;> simp
    · simp
  next absent =>
    simp only [text?, List.lookup_append, List.lookup_cons, List.lookup_nil]
    by_cases same : id' = id
    · subst same; simp
    · simp [same, show (id' == id) = false from beq_false_of_ne same]

/-- The entries as a value. -/
def quoted (members : Members) : String :=
  let entries := members.entries.map fun (id, text) => Text.quoted id ++ ": " ++ Text.quoted text
  "\x7b" ++ ", ".intercalate entries ++ "\x7d"

end Members

end ImageRefs.Documentation
