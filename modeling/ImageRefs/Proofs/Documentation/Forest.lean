import ImageRefs.Proofs.Documentation.Members
import ImageRefs.Proofs.Documentation.Nesting

/-!
What reading makes of pieces that nest: in a member all of them are added to its body; outside of
members the outermost members are added, one after the other, and nothing else is kept.
-/

set_option autoImplicit false

namespace ImageRefs.Documentation

open Markup Outcome Text

/-- The id and the text of an element that is a member. -/
def entryOf (e : Element) : Except ReadFault (String × String) := do
  let id ← memberId e.content
  return (id, String.ofList (trim e.body))

theorem mapM_entryOf_fault {content : List Char} {fault : ReadFault}
    (unnamed : memberId content = .error fault) (body : List Char) (rest : List Element) :
    (⟨content, body⟩ :: rest : List Element).mapM entryOf = .error fault := by
  simp [entryOf, unnamed]

theorem mapM_entryOf_cons {content : List Char} {id : String}
    (named : memberId content = .ok id) (body : List Char) (rest : List Element) :
    (⟨content, body⟩ :: rest : List Element).mapM entryOf =
      (rest.mapM entryOf).map ([(id, String.ofList (trim body))] ++ ·) := by
  simp only [List.mapM_cons, entryOf, named, ok_bind, pure_eq]
  rfl

namespace Body

@[simp] theorem append_append (body : Body) (first second : List Char) :
    (body.append first).append second = body.append (first ++ second) := by
  simp [append, List.reverseAux_eq]

@[simp] theorem append_nil (body : Body) : body.append [] = body := rfl

end Body

namespace Reading

/-- The reading after members were read to their ends. -/
def finished (r : Reading) (text : List Char) (entries : List (String × String)) : Reading :=
  { r.passed text with members := r.members.addAll entries }

theorem readInside_element_start (r : Reading) (body : Body) (content : List Char) :
    r.readInside body (.start content) = .ok { r with
      openNames := nameOf content :: r.openNames
      body? := some { body.append (Token.start content).source with
        nested := if nameOf content = body.name then body.nested + 1 else body.nested } } := rfl

/-- The end tag of an element inside of a member takes back what its start tag did. -/
theorem readInside_element_close {r : Reading} {body : Body} {content close : List Char}
    {outer : List (List Char)} (closed : endNameOf close = nameOf content)
    (opened : r.openNames = nameOf content :: outer) {nested : Nat}
    (count : body.nested = if nameOf content = body.name then nested + 1 else nested) :
    r.readInside body (.close close) = .ok { r with
      openNames := outer
      body? := some { body.append (Token.close close).source with nested } } := by
  simp only [readInside, opened, closeInnermost_self closed, closed]
  by_cases same : nameOf content = body.name
  · simp only [same, if_true] at count
    simp [same, count]
  · simp only [same, if_false] at count
    simp [same, ← count, Body.append]

/-- Pieces that nest are added to the body of the member they stand in, as they are written. -/
theorem foldlM_read_inside (f : Forest) (r : Reading) (body : Body)
    (inside : r.body? = some body) :
    f.tokens.foldlM read r =
      .ok { r.passed f.source with body? := some (body.append f.source) } := by
  induction f generalizing r body with
  | nil => simp [Forest.tokens, passed, ← inside]
  | text chars rest ih =>
    rw [Forest.tokens, List.foldlM_cons, read_inside inside]
    simp only [readInside, ok_bind]
    rw [ih _ _ rfl]
    simp [passed, Nat.add_assoc]
  | aside content rest ih =>
    rw [Forest.tokens, List.foldlM_cons, read_inside inside]
    simp only [readInside, ok_bind]
    rw [ih _ _ rfl]
    simp [passed, Nat.add_assoc]
  | empty content rest ih =>
    rw [Forest.tokens, List.foldlM_cons, read_inside inside]
    simp only [readInside, ok_bind]
    rw [ih _ _ rfl]
    simp [passed, Nat.add_assoc]
  | element content inner close closed rest ihInner ih =>
    -- An element of the member's own name counts up and down again, so the count it leaves is the
    -- one it met, and the end tag of the member is still to come.
    rw [Forest.tokens, List.foldlM_cons, read_inside inside, readInside_element_start, ok_bind,
      List.foldlM_append, ihInner _ _ rfl, ok_bind, List.foldlM_cons, read_inside rfl,
      readInside_element_close closed rfl rfl, ok_bind, ih _ _ rfl]
    simp [passed, Body.append, Nat.add_assoc]

/-! ### Outside of members -/

theorem finished_passed (r : Reading) (first second : List Char) :
    (r.passed first).finished second = r.finished (first ++ second) := by
  funext entries
  simp [finished, passed, Nat.add_assoc]

theorem finished_finished (r : Reading) (first second : List Char)
    (entries more : List (String × String)) :
    (r.finished first entries).finished second more =
      r.finished (first ++ second) (entries ++ more) := by
  simp [finished, passed, Members.addAll, Nat.add_assoc]

/-- The end tag of a member adds the member. -/
theorem readInside_member_close {r : Reading} {body : Body} {close : List Char}
    {outer : List (List Char)} (closed : endNameOf close = body.name)
    (opened : r.openNames = body.name :: outer) (count : body.nested = 0) :
    r.readInside body (.close close) =
      .ok { r.addMember body.id body.text with openNames := outer, body? := none } := by
  simp [readInside, opened, closeInnermost_self closed, closed, count, addMember]

/-- Reading on after some members, whatever becomes of the ones after them. -/
theorem map_finished_append (r : Reading) (first second : List Char)
    (entries : List (String × String)) (more : Except ReadFault (List (String × String))) :
    more.map ((r.finished first entries).finished second) =
      (more.map (entries ++ ·)).map (r.finished (first ++ second)) := by
  cases more with
  | error fault => rfl
  | ok more => exact congrArg Except.ok (finished_finished r first second entries more)

/-- A member with a name is read as a whole. -/
theorem foldlM_read_member {r : Reading} {content close : List Char} {inner : Forest}
    {id : String} (outside : r.body? = none) (isMember : isMember (nameOf content) = true)
    (named : memberId content = .ok id) (closed : endNameOf close = nameOf content)
    (after : List Token) :
    (Token.start content :: (inner.tokens ++ .close close :: after)).foldlM read r =
      after.foldlM read (r.finished ((Token.start content).source ++
        (inner.source ++ (Token.close close).source))
          [(id, String.ofList (trim inner.source))]) := by
  rw [List.foldlM_cons, read_outside outside]
  simp only [readOutside, isMember, if_true, named, ok_bind, pure_eq]
  rw [List.foldlM_append, foldlM_read_inside inner _ _ rfl, ok_bind, List.foldlM_cons,
    read_inside rfl, readInside_member_close closed rfl rfl, ok_bind]
  congr 1
  simp [addMember, finished, passed, Members.addAll, Body.text, Body.append, List.reverseAux_eq,
    outside, Nat.add_assoc]

/-- The reading behind the start tag of an element that is no member. -/
def entered (r : Reading) (content : List Char) : Reading :=
  { r.passed (Token.start content).source with
    openNames := nameOf content :: r.openNames, depth := r.depth + 1 }

theorem read_start_entered {r : Reading} {content : List Char} (outside : r.body? = none)
    (other : isMember (nameOf content) = false) :
    r.read (.start content) = .ok (r.entered content) := by
  rw [read_outside outside]
  simp [readOutside, other, entered, passed]

theorem read_close_entered {r : Reading} {content close text : List Char}
    {entries : List (String × String)} (outside : r.body? = none)
    (closed : endNameOf close = nameOf content) :
    ((r.entered content).finished text entries).read (.close close) =
      .ok (r.finished ((Token.start content).source ++ (text ++ (Token.close close).source))
        entries) := by
  have still : ((r.entered content).finished text entries).body? = none := outside
  rw [read_outside still]
  simp [readOutside, closeInnermost_self closed, finished, entered, passed, Nat.add_assoc]

/-- An element that is no member is read as what it holds. -/
theorem foldlM_read_element {r : Reading} {content close : List Char} {inner : Forest}
    {held : Except ReadFault (List (String × String))} (outside : r.body? = none)
    (other : isMember (nameOf content) = false) (closed : endNameOf close = nameOf content)
    (within : inner.tokens.foldlM read (r.entered content) =
      held.map ((r.entered content).finished inner.source)) (after : List Token) :
    (Token.start content :: (inner.tokens ++ .close close :: after)).foldlM read r =
      held >>= fun entries => after.foldlM read (r.finished ((Token.start content).source ++
        (inner.source ++ (Token.close close).source)) entries) := by
  rw [List.foldlM_cons, read_start_entered outside other, ok_bind, List.foldlM_append, within]
  cases held with
  | error fault => rfl
  | ok entries =>
    simp only [Except.map, ok_bind, List.foldlM_cons]
    rw [read_close_entered outside closed, ok_bind]

/-- Pieces that nest leave their outermost members, or the first fault in the tag of one. -/
theorem foldlM_read_outside (f : Forest) (r : Reading) (outside : r.body? = none) :
    f.tokens.foldlM read r =
      ((f.outermost isMember).mapM entryOf).map (r.finished f.source) := by
  induction f generalizing r with
  | nil => rfl
  | text chars rest ih =>
    rw [Forest.tokens, List.foldlM_cons, read_outside outside, readOutside, ok_bind,
      ih (r.passed _) outside, finished_passed]
    rfl
  | aside content rest ih =>
    rw [Forest.tokens, List.foldlM_cons, read_outside outside, readOutside, ok_bind,
      ih (r.passed _) outside, finished_passed]
    rfl
  | empty content rest ih =>
    rw [Forest.tokens, List.foldlM_cons, read_outside outside]
    simp only [readOutside, Forest.outermost]
    split
    next isMember =>
      cases named : memberId content with
      | error fault =>
        rw [mapM_entryOf_fault named]
        rfl
      | ok id =>
        have one : (r.passed (Token.empty content).source).addMember id [] =
            r.finished (Token.empty content).source [(id, String.ofList (trim []))] := rfl
        rw [ok_bind, pure_eq, ok_bind, one, ih (r.finished _ _) outside, map_finished_append,
          mapM_entryOf_cons named]
        rfl
    next other =>
      rw [ok_bind, ih (r.passed _) outside, finished_passed]
      rfl
  | element content inner close closed rest ihInner ih =>
    simp only [Forest.tokens, Forest.outermost]
    split
    next isMember =>
      cases named : memberId content with
      | error fault =>
        -- The start tag already fails: whether the body could be read does not matter.
        rw [mapM_entryOf_fault named, List.foldlM_cons, read_outside outside]
        simp [readOutside, isMember, named, Except.map]
      | ok id =>
        rw [foldlM_read_member outside isMember named closed, ih (r.finished _ _) outside,
          map_finished_append, mapM_entryOf_cons named]
        simp
    next other =>
      rw [foldlM_read_element outside (by simpa using other) closed
        (ihInner (r.entered content) outside), List.mapM_append]
      cases (inner.outermost Documentation.isMember).mapM entryOf with
      | error fault => rfl
      | ok entries =>
        rw [ok_bind, ok_bind, ih (r.finished _ _) outside, map_finished_append]
        simp only [Forest.source_element, List.append_assoc]
        rfl

end Reading

end ImageRefs.Documentation
