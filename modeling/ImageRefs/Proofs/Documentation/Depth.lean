import ImageRefs.Proofs.Documentation.Acceptance

/-!
The depth of a reading, which counts open elements without knowing their names. Whenever a piece is
read outside of members it is the number of elements that are open in the text so far, so it never
hides an end tag without a start tag, and it is zero at the end exactly if all elements are closed.
-/

set_option autoImplicit false

namespace ImageRefs.Documentation

open Markup Outcome Text

namespace Reading

/-- What one token does to the open elements is what it does to the pieces that leave them open. -/
theorem Opens.leaves {names after : List (List Char)} {before : List Token} {token : Token}
    (opens : Opens names token after) (h : Leaves names before) :
    Leaves after (before ++ [token]) := by
  cases token with
  | text chars =>
    rw [opens]
    exact h.append (.text chars .nil)
  | aside content =>
    rw [opens]
    exact h.append (.aside content .nil)
  | start content =>
    rw [opens]
    exact h.start content
  | empty content =>
    rw [opens]
    exact h.append (.empty content .nil)
  | close content =>
    rw [opens] at h
    exact h.close

/-- A reading knows the elements that the pieces so far leave open. -/
theorem leaves_foldlM {r r' : Reading} {before tokens : List Token}
    (leaves : Leaves r.openNames before) (h : tokens.foldlM read r = .ok r') :
    Leaves r'.openNames (before ++ tokens) := by
  induction tokens generalizing r before with
  | nil =>
    cases h
    rwa [List.append_nil]
  | cons token tokens ih =>
    rw [List.foldlM_cons] at h
    obtain ⟨next, one, h⟩ := bind_eq_ok h
    have longer := (opens_read one).leaves leaves
    simpa using ih longer h

/-- An end tag outside of members closes the innermost element. -/
theorem read_close_outside {r r' : Reading} {content : List Char} (outside : r.body? = none)
    (h : r.read (.close content) = .ok r') :
    r.openNames = endNameOf content :: r'.openNames ∧ r'.depth = r.depth - 1 := by
  refine ⟨opens_read h, ?_⟩
  rw [read_outside outside] at h
  simp only [readOutside] at h
  split at h
  · cases h
    rfl
  · cases h

theorem read_close_fault {r : Reading} {content : List Char} {fault : NestingFault}
    (outside : r.body? = none) (unclosed : closeInnermost r.openNames content = .error fault) :
    r.read (.close content) = .error
      (.outside (r.position + Utf8.size (Token.close content).source) (.nesting fault)) := by
  rw [read_outside outside]
  simp [readOutside, passed, unclosed]

end Reading

/-- A point of a text at which a piece is read outside of members: the pieces before and behind
it, and what has been read. -/
structure Turn (text : List Char) where
  before : List Token
  after : List Token
  reading : Reading
  divided : (scan (dropMark text)).tokens = before ++ after
  reached : before.foldlM Reading.read {} = .ok reading
  outside : reading.body? = none

namespace Turn

variable {text : List Char}

theorem depth_eq (t : Turn text) : t.reading.depth = t.reading.openNames.length := by
  have counted := Reading.counted_foldlM Reading.counted_start t.reached
  rw [Reading.Counted, t.outside] at counted
  exact counted

theorem leaves (t : Turn text) : Leaves t.reading.openNames t.before := by
  have start : Leaves (Reading.openNames {}) [] := ⟨.nil, rfl⟩
  exact Reading.leaves_foldlM start t.reached

/-- The text is read on from every turn. -/
theorem readText_eq (t : Turn text) :
    readText text = (do
      let r ← t.after.foldlM Reading.read t.reading
      r.finish (scan (dropMark text)).ending) := by
  simp only [readText, t.divided, List.foldlM_append, t.reached, ok_bind]

/-- Behind a member that is read as a whole there is a turn again, with the same elements open. -/
theorem exists_behind_member (t : Turn text) {content close : List Char} {inner : Forest}
    {behind : List Token} {id : String}
    (next : t.after = .start content :: (inner.tokens ++ .close close :: behind))
    (isMember : isMember (nameOf content) = true) (named : memberId content = .ok id)
    (closed : endNameOf close = nameOf content) :
    ∃ later : Turn text,
      later.before = t.before ++ .start content :: (inner.tokens ++ [.close close]) ∧
      later.after = behind ∧ later.reading.depth = t.reading.depth ∧
      later.reading.openNames = t.reading.openNames := by
  have member : (Token.start content :: (inner.tokens ++ [.close close])).foldlM Reading.read
      t.reading = .ok (t.reading.finished _ _) :=
    Reading.foldlM_read_member t.outside isMember named closed []
  let later : Turn text :=
    { before := t.before ++ .start content :: (inner.tokens ++ [.close close])
      after := behind
      reading := t.reading.finished _ _
      divided := by
        rw [t.divided, next]
        simp
      reached := by rw [List.foldlM_append, t.reached, ok_bind, member]
      outside := t.outside }
  exact ⟨later, rfl, rfl, rfl, rfl⟩

end Turn

/-- At every turn the depth is the number of open elements, which are those that the pieces before
leave open. A member that was read as a whole leaves both as they were. An end tag that is read
takes one from a depth that was not zero; one that does not close the innermost element, and so
every one at depth zero, makes the text malformed with this fault. A text that was divided to its
end is a documentation file exactly if no element is open behind its last piece. -/
theorem depth_counts_open_elements (text : String) (t : Turn text.toList) :
    (t.reading.depth = t.reading.openNames.length ∧ Leaves t.reading.openNames t.before) ∧
    (∀ (content close : List Char) (inner : Forest) (behind : List Token) (id : String),
      t.after = .start content :: (inner.tokens ++ .close close :: behind) →
      isMember (nameOf content) = true → memberId content = .ok id →
      endNameOf close = nameOf content → ∃ later : Turn text.toList,
        later.before = t.before ++ .start content :: (inner.tokens ++ [.close close]) ∧
        later.after = behind ∧ later.reading.depth = t.reading.depth ∧
        later.reading.openNames = t.reading.openNames) ∧
    (∀ content after, t.after = .close content :: after →
      (∀ r, t.reading.read (.close content) = .ok r →
        t.reading.openNames = endNameOf content :: r.openNames ∧
          r.depth + 1 = t.reading.depth) ∧
      (∀ fault, closeInnermost t.reading.openNames content = .error fault →
        parse text = .error (.malformed (ReadFault.message (.outside
          (t.reading.position + Utf8.size (Token.close content).source) (.nesting fault))) none)) ∧
      (t.reading.depth = 0 → closeInnermost t.reading.openNames content =
        .error (.unmatchedEnd (endNameOf content)))) ∧
    (t.after = [] → (scan (dropMark text.toList)).ending = .complete →
      ((∃ members, parse text = .ok members) ↔ t.reading.openNames = [])) := by
  have depth := t.depth_eq
  refine ⟨⟨depth, t.leaves⟩, ?_, ?_, ?_⟩
  · intro content close inner behind id next isMember named closed
    exact t.exists_behind_member next isMember named closed
  · intro content after next
    refine ⟨fun r read => ?_, fun fault unclosed => ?_, fun zero => ?_⟩
    · -- An element is open, so one can be taken from the depth.
      obtain ⟨opened, fewer⟩ := Reading.read_close_outside t.outside read
      refine ⟨opened, ?_⟩
      rw [opened, List.length_cons] at depth
      omega
    · have refused := t.readText_eq
      rw [next, List.foldlM_cons, Reading.read_close_fault t.outside unclosed] at refused
      rw [parse, refused]
      rfl
    · rw [zero] at depth
      rw [List.eq_nil_of_length_eq_zero depth.symm]
      rfl
  · intro last complete
    have read := t.readText_eq
    rw [last, List.foldlM_nil, pure_eq, ok_bind, complete] at read
    simp only [parse_eq_ok_iff, read, Reading.finish, t.outside, depth]
    constructor
    · rintro ⟨members, finished⟩
      split at finished
      · cases finished
      · exact List.eq_nil_of_length_eq_zero (by omega)
    · intro closed
      rw [closed]
      exact ⟨_, rfl⟩

/-- A member in an element, and behind it one end tag too many. -/
def unbalanced : String :=
  "<d><x:member name='A'><member/></x:member></d></d>"

def behindMember : Turn unbalanced.toList where
  before := [.start ['d'], .start "x:member name='A'".toList, .empty "member".toList,
    .close "x:member".toList]
  after := [.close ['d'], .close ['d']]
  reading :=
    { members := ⟨[("A", "<member/>")]⟩, openNames := [['d']], depth := 1, position := 42 }
  divided := by decide +kernel
  reached := by decide +kernel
  outside := rfl

def behindRoot : Turn unbalanced.toList where
  before := behindMember.before ++ [.close ['d']]
  after := [.close ['d']]
  reading := { behindMember.reading with openNames := [], depth := 0, position := 46 }
  divided := by decide +kernel
  reached := by decide +kernel
  outside := rfl

/-- The element around the member is still open behind it, and its end tag is read; the other end
tag is reported. -/
theorem depth_before_unmatched_end :
    Leaves [['d']] behindMember.before ∧
      (∀ r, behindMember.reading.read (.close ['d']) = .ok r → r.depth = behindRoot.reading.depth) ∧
      parse unbalanced = .error
        (.malformed (ReadFault.message (.outside 50 (.nesting (.unmatchedEnd ['d'])))) none) := by
  obtain ⟨⟨-, leaves⟩, -, inner, -⟩ := depth_counts_open_elements unbalanced behindMember
  obtain ⟨-, -, outer, -⟩ := depth_counts_open_elements unbalanced behindRoot
  obtain ⟨closes, -⟩ := inner ['d'] _ rfl
  obtain ⟨-, reported, unmatched⟩ := outer ['d'] _ rfl
  exact ⟨leaves, fun r read => Nat.succ.inj (closes r read).2, reported _ (unmatched rfl)⟩

end ImageRefs.Documentation
