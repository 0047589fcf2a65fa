import ImageRefs.Documentation.Reading
import ImageRefs.Proofs.Markup.Forest
import ImageRefs.Proofs.Outcome

/-!
How reading keeps track of open elements: the names of all of them, the number of those outside of
members, and inside of a member the number of those with its name. The three agree at every token,
so a text is read to its end only if its pieces nest.
-/

set_option autoImplicit false

namespace ImageRefs.Documentation

open Markup Outcome Text

/-! ### End tags -/

theorem closeInnermost_eq_ok {openNames outer : List (List Char)} {content : List Char}
    (h : closeInnermost openNames content = .ok outer) :
    openNames = endNameOf content :: outer := by
  unfold closeInnermost at h
  split at h
  · cases h
  · split at h
    next same => cases h; rw [same]
    · cases h

@[simp] theorem closeInnermost_self {content name : List Char} (same : endNameOf content = name)
    (outer : List (List Char)) : closeInnermost (name :: outer) content = .ok outer := by
  simp [closeInnermost, same]

namespace Reading

/-- The reading with more of the text behind it. -/
def passed (r : Reading) (text : List Char) : Reading :=
  { r with position := r.position + Utf8.size text }

theorem read_outside {r : Reading} (outside : r.body? = none) (token : Token) :
    r.read token = (r.passed token.source).readOutside token := by
  simp [read, outside, passed]

theorem read_inside {r : Reading} {body : Body} (inside : r.body? = some body) (token : Token) :
    r.read token = (r.passed token.source).readInside body token := by
  simp [read, inside, passed]

/-! ### What one token does to the open elements -/

/-- The open elements after a token; an end tag has to close the innermost. -/
def Opens (before : List (List Char)) : Token → List (List Char) → Prop
  | .start content, after => after = nameOf content :: before
  | .close content, after => before = endNameOf content :: after
  | _, after => after = before

theorem opens_readOutside {r r' : Reading} {token : Token} (h : r.readOutside token = .ok r') :
    Opens r.openNames token r'.openNames := by
  cases token with
  | text chars => cases h; rfl
  | aside content => cases h; rfl
  | start content =>
    simp only [readOutside] at h
    split at h
    · obtain ⟨id, named, h⟩ := bind_eq_ok h
      cases h; rfl
    · cases h; rfl
  | empty content =>
    simp only [readOutside] at h
    split at h
    · obtain ⟨id, named, h⟩ := bind_eq_ok h
      cases h; rfl
    · cases h; rfl
  | close content =>
    simp only [readOutside] at h
    split at h
    next outer closed => cases h; exact closeInnermost_eq_ok closed
    · cases h

theorem opens_readInside {r r' : Reading} {body : Body} {token : Token}
    (h : r.readInside body token = .ok r') : Opens r.openNames token r'.openNames := by
  cases token with
  | text chars => cases h; rfl
  | aside content => cases h; rfl
  | start content => cases h; rfl
  | empty content => cases h; rfl
  | close content =>
    simp only [readInside] at h
    split at h
    · cases h
    next outer closed =>
      have opened := closeInnermost_eq_ok closed
      split at h
      · cases h; exact opened
      · split at h
        · cases h; exact opened
        · cases h; exact opened

theorem opens_read {r r' : Reading} {token : Token} (h : r.read token = .ok r') :
    Opens r.openNames token r'.openNames := by
  cases place : r.body? with
  | none =>
    rw [read_outside place] at h
    exact opens_readOutside (r := r.passed token.source) h
  | some body =>
    rw [read_inside place] at h
    exact opens_readInside (r := r.passed token.source) h

/-- A text that is read until no element is open has closed those that were open before, and its
other pieces nest. -/
theorem closes_of_foldlM {r r' : Reading} {tokens : List Token}
    (h : tokens.foldlM read r = .ok r') (none_open : r'.openNames = []) :
    Closes r.openNames tokens := by
  induction tokens generalizing r with
  | nil =>
    cases h
    rw [none_open]
    exact ⟨.nil, rfl⟩
  | cons token tokens ih =>
    rw [List.foldlM_cons] at h
    obtain ⟨next, one, h⟩ := bind_eq_ok h
    have rest := ih h
    have opens := opens_read one
    -- The rest closes what is open behind this token, and so decides what the token stands before.
    cases token with
    | text chars =>
      rw [opens] at rest
      exact rest.append [.text chars] (.text chars) fun _ => rfl
    | aside content =>
      rw [opens] at rest
      exact rest.append [.aside content] (.aside content) fun _ => rfl
    | start content =>
      rw [opens] at rest
      exact rest.start
    | empty content =>
      rw [opens] at rest
      exact rest.append [.empty content] (.empty content) fun _ => rfl
    | close content =>
      rw [opens]
      exact rest.close rfl

/-! ### The counters -/

/-- Outside of members the depth is the number of open elements. In a member the depth is that of
the elements around it, and among the elements inside those of its name are counted. -/
def Counted (r : Reading) : Prop :=
  match r.body? with
  | none => r.depth = r.openNames.length
  | some body => ∃ inner outer, r.openNames = inner ++ body.name :: outer ∧
    r.depth = outer.length ∧ body.nested = inner.count body.name

theorem counted_start : Counted {} := rfl

theorem counted_readOutside {r r' : Reading} {token : Token} (outside : r.body? = none)
    (counted : r.depth = r.openNames.length) (h : r.readOutside token = .ok r') :
    Counted r' := by
  cases token with
  | text chars => cases h; simpa [Counted, outside] using counted
  | aside content => cases h; simpa [Counted, outside] using counted
  | start content =>
    simp only [readOutside] at h
    split at h
    · obtain ⟨id, named, h⟩ := bind_eq_ok h
      cases h
      exact ⟨[], r.openNames, rfl, counted, rfl⟩
    · cases h
      simp [Counted, outside, counted]
  | empty content =>
    simp only [readOutside] at h
    split at h
    · obtain ⟨id, named, h⟩ := bind_eq_ok h
      cases h
      simpa [Counted, addMember, outside] using counted
    · cases h; simpa [Counted, outside] using counted
  | close content =>
    simp only [readOutside] at h
    split at h
    next outer closed =>
      cases h
      have opened := closeInnermost_eq_ok closed
      simp [Counted, outside, counted, opened]
    · cases h

theorem counted_readInside {r r' : Reading} {body : Body} {token : Token}
    (counted : ∃ inner outer, r.openNames = inner ++ body.name :: outer ∧
      r.depth = outer.length ∧ body.nested = inner.count body.name)
    (h : r.readInside body token = .ok r') : Counted r' := by
  obtain ⟨inner, outer, names, depth, nested⟩ := counted
  cases token with
  | text chars => cases h; exact ⟨inner, outer, names, depth, nested⟩
  | aside content => cases h; exact ⟨inner, outer, names, depth, nested⟩
  | empty content => cases h; exact ⟨inner, outer, names, depth, nested⟩
  | start content =>
    cases h
    refine ⟨nameOf content :: inner, outer, by simp [names, Body.append], depth, ?_⟩
    by_cases same : nameOf content = body.name
    · simp [Body.append, same, nested]
    · simp [Body.append, same, nested]
  | close content =>
    simp only [readInside] at h
    split at h
    · cases h
    next remaining closed =>
      have opened := closeInnermost_eq_ok closed
      rw [names] at opened
      split at h
      next other =>
        -- The member itself has another name, so the end tag is that of an element inside.
        cases h
        cases inner with
        | nil =>
          obtain ⟨same, -⟩ := List.cons.inj opened
          exact absurd same.symm other
        | cons name inner =>
          obtain ⟨rfl, rfl⟩ := List.cons.inj opened
          refine ⟨inner, outer, rfl, depth, ?_⟩
          simp only [Body.append, nested]
          exact List.count_cons_of_ne other
      next same =>
        rw [ne_eq, Decidable.not_not] at same
        split at h
        next none_nested =>
          -- No element of that name is open inside, so the end tag is that of the member.
          cases h
          cases inner with
          | nil =>
            obtain ⟨-, rfl⟩ := List.cons.inj opened
            exact depth
          | cons name inner =>
            obtain ⟨rfl, -⟩ := List.cons.inj opened
            rw [none_nested, same, List.count_cons_self] at nested
            omega
        next count more =>
          cases h
          cases inner with
          | nil =>
            rw [more, List.count_nil] at nested
            omega
          | cons name inner =>
            obtain ⟨rfl, rfl⟩ := List.cons.inj opened
            rw [more, same, List.count_cons_self] at nested
            refine ⟨inner, outer, rfl, depth, ?_⟩
            simp only [Body.append]
            omega

theorem counted_read {r r' : Reading} {token : Token} (counted : Counted r)
    (h : r.read token = .ok r') : Counted r' := by
  unfold Counted at counted
  cases place : r.body? with
  | none =>
    rw [place] at counted
    rw [read_outside place] at h
    exact counted_readOutside (r := r.passed token.source) place counted h
  | some body =>
    rw [place] at counted
    rw [read_inside place] at h
    exact counted_readInside (r := r.passed token.source) counted h

theorem counted_foldlM {r r' : Reading} {tokens : List Token} (counted : Counted r)
    (h : tokens.foldlM read r = .ok r') : Counted r' := by
  induction tokens generalizing r with
  | nil => cases h; exact counted
  | cons token tokens ih =>
    rw [List.foldlM_cons] at h
    obtain ⟨next, one, h⟩ := bind_eq_ok h
    exact ih (counted_read counted one) h

/-- A reading that starts with nothing open comes to a good end only behind pieces that nest. -/
theorem exists_forest_of_finish {r r' : Reading} {tokens : List Token} {ending : Ending}
    {members : Members} (counted : Counted r) (none_open : r.openNames = [])
    (h : tokens.foldlM read r = .ok r') (finished : r'.finish ending = .ok members) :
    ending = .complete ∧ ∃ f : Forest, f.tokens = tokens := by
  have counted' := counted_foldlM counted h
  unfold finish at finished
  split at finished
  · cases finished
  · cases finished
  · cases finished
  next outside =>
    split at finished
    · cases finished
    next level =>
      simp only [Counted, outside] at counted'
      have none_left : r'.openNames = [] := List.eq_nil_of_length_eq_zero (by omega)
      have closes := closes_of_foldlM h none_left
      rw [none_open] at closes
      exact ⟨rfl, closes⟩

end Reading

end ImageRefs.Documentation
