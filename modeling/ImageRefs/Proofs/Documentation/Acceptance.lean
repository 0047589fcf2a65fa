import ImageRefs.Proofs.Documentation.Forest
import ImageRefs.Proofs.Markup.Attribute

/-!
Which texts are documentation files, and what they document: the pieces have to be complete and to
nest, and every outermost member has to be named.
-/

set_option autoImplicit false

namespace ImageRefs.Documentation

open Markup Outcome Text

/-! ### Named members -/

/-- The attributes of a tag lead to a name, and the name stands for the id. -/
def Names (content : List Char) (id : String) : Prop :=
  ∃ value chars, LeadsTo ['n', 'a', 'm', 'e'] (content.drop (nameOf content).length) value ∧
    unescape value = .ok chars ∧ id = String.ofList chars

theorem memberId_eq_ok_iff (content : List Char) (id : String) :
    memberId content = .ok id ↔ Names content id := by
  constructor
  · intro h
    unfold memberId at h
    split at h
    · cases h
    · cases h
    next value found =>
      split at h
      · cases h
      next chars unescaped =>
        cases h
        exact ⟨value, chars, (attributeOf?_eq_some_iff _ _ _).mp found, unescaped, rfl⟩
  · rintro ⟨value, chars, leads, unescaped, rfl⟩
    have found := (attributeOf?_eq_some_iff _ _ _).mpr leads
    simp [memberId, found, unescaped]

theorem entryOf_eq_ok_iff (e : Element) (entry : String × String) :
    entryOf e = .ok entry ↔
      Names e.content entry.1 ∧ entry.2 = String.ofList (trim e.body) := by
  rw [← memberId_eq_ok_iff]
  constructor
  · intro h
    obtain ⟨id, named, h⟩ := bind_eq_ok h
    cases h
    exact ⟨named, rfl⟩
  · rintro ⟨named, text⟩
    simp only [entryOf, named, ok_bind, pure_eq, ← text]

theorem Names.unique {content : List Char} {first second : String} (one : Names content first)
    (other : Names content second) : first = second := by
  rw [← memberId_eq_ok_iff] at one other
  exact Except.ok.inj (one.symm.trans other)

theorem mapM_entryOf_iff (elements : List Element) :
    (∃ entries, elements.mapM entryOf = .ok entries) ↔
      ∀ e ∈ elements, ∃ id, Names e.content id := by
  rw [mapM_eq_ok]
  constructor
  · intro all e member
    obtain ⟨entry, found⟩ := all e member
    exact ⟨entry.1, ((entryOf_eq_ok_iff e entry).mp found).1⟩
  · intro all e member
    obtain ⟨id, named⟩ := all e member
    exact ⟨(id, String.ofList (trim e.body)), (entryOf_eq_ok_iff e _).mpr ⟨named, rfl⟩⟩

/-! ### The entries of named members -/

/-- The first member is the first entry. -/
theorem mapM_entryOf_cons_eq_ok {e : Element} {elements : List Element}
    {entries : List (String × String)} (h : (e :: elements).mapM entryOf = .ok entries) :
    ∃ id rest, Names e.content id ∧ elements.mapM entryOf = .ok rest ∧
      entries = (id, String.ofList (trim e.body)) :: rest := by
  rw [List.mapM_cons] at h
  obtain ⟨⟨id, text⟩, one, h⟩ := bind_eq_ok h
  obtain ⟨rest, others, h⟩ := bind_eq_ok h
  obtain ⟨named, rfl⟩ := (entryOf_eq_ok_iff e _).mp one
  cases h
  exact ⟨id, rest, named, others, rfl⟩

theorem mem_entries_iff {elements : List Element} {entries : List (String × String)}
    (h : elements.mapM entryOf = .ok entries) (id : String) :
    id ∈ entries.map Prod.fst ↔ ∃ e ∈ elements, Names e.content id := by
  induction elements generalizing entries with
  | nil => cases h; simp
  | cons e elements ih =>
    obtain ⟨name, rest, named, others, rfl⟩ := mapM_entryOf_cons_eq_ok h
    have same : id = name ↔ Names e.content id :=
      ⟨fun same => same ▸ named, fun other => other.unique named⟩
    simp only [List.map_cons, List.mem_cons, ih others, same, exists_eq_or_imp]

/-- The first member that is named so gives the text. -/
theorem lookup_entries {before after : List Element} {e : Element} {id : String}
    {entries : List (String × String)}
    (h : (before ++ e :: after).mapM entryOf = .ok entries) (named : Names e.content id)
    (first : ∀ other ∈ before, ¬Names other.content id) :
    entries.lookup id = some (String.ofList (trim e.body)) := by
  induction before generalizing entries with
  | nil =>
    obtain ⟨name, rest, found, _, rfl⟩ := mapM_entryOf_cons_eq_ok h
    simp [named.unique found]
  | cons other before ih =>
    obtain ⟨name, rest, found, others, rfl⟩ := mapM_entryOf_cons_eq_ok h
    have differs : id ≠ name := by
      rintro rfl
      exact first other (by simp) found
    rw [List.lookup_cons, beq_false_of_ne differs]
    exact ih others fun other member => first other (by simp [member])

/-! ### Whole texts -/

/-- A text that is read has pieces that nest. -/
theorem exists_forest_of_readText {text : List Char} {members : Members}
    (h : readText text = .ok members) :
    (scan (dropMark text)).ending = .complete ∧
      ∃ f : Forest, f.tokens = (scan (dropMark text)).tokens := by
  obtain ⟨r, read, finished⟩ := bind_eq_ok h
  exact Reading.exists_forest_of_finish Reading.counted_start rfl read finished

/-- A text whose pieces nest is read as its outermost members. -/
theorem readText_of_forest {text : List Char} {f : Forest}
    (complete : (scan (dropMark text)).ending = .complete)
    (divided : f.tokens = (scan (dropMark text)).tokens) :
    readText text = ((f.outermost isMember).mapM entryOf).map (Members.addAll {}) := by
  unfold readText
  simp only [complete, ← divided, Reading.foldlM_read_outside f {} rfl]
  cases (f.outermost isMember).mapM entryOf with
  | error fault => rfl
  | ok entries => rfl

theorem exists_entries_of_readText {text : List Char} {f : Forest} {members : Members}
    (divided : f.tokens = (scan (dropMark text)).tokens) (read : readText text = .ok members) :
    ∃ entries, (f.outermost isMember).mapM entryOf = .ok entries ∧
      members = Members.addAll {} entries := by
  obtain ⟨complete, -⟩ := exists_forest_of_readText read
  rw [readText_of_forest complete divided] at read
  exact map_eq_ok read

theorem parse_eq_ok_iff (text : String) (members : Members) :
    parse text = .ok members ↔ readText text.toList = .ok members := by
  unfold parse
  cases readText text.toList with
  | error fault => simp [Except.mapError]
  | ok found => simp [Except.mapError]

theorem parse_malformed {text : String} (h : ¬∃ members, parse text = .ok members) :
    ∃ message, parse text = .error (.malformed message none) := by
  unfold parse at h ⊢
  cases read : readText text.toList with
  | error fault => exact ⟨fault.message, rfl⟩
  | ok members =>
    rw [read] at h
    exact absurd ⟨members, rfl⟩ h

/-- A text is a documentation file exactly if it divides into complete pieces, these nest, and
every outermost member is named; any other text is malformed. The ids of a file are the names of
its outermost members, and each has the trimmed body of the first member with that name. -/
theorem parse_accepts_nested_named (text : String) :
    ((∃ members, parse text = .ok members) ↔
      (scan (dropMark text.toList)).ending = .complete ∧
      ∃ f : Forest, f.tokens = (scan (dropMark text.toList)).tokens ∧
        ∀ e ∈ f.outermost isMember, ∃ id, Names e.content id) ∧
    ((¬∃ members, parse text = .ok members) →
      ∃ message, parse text = .error (.malformed message none)) ∧
    ∀ members, parse text = .ok members →
      ∀ f : Forest, f.tokens = (scan (dropMark text.toList)).tokens →
        f.source = dropMark text.toList ∧
        (∀ e ∈ f.outermost isMember,
          isMember (nameOf e.content) = true ∧ e.StandsIn (dropMark text.toList)) ∧
        members.ids.Nodup ∧
        (∀ id, id ∈ members.ids ↔ ∃ e ∈ f.outermost isMember, Names e.content id) ∧
        ∀ before e after id, f.outermost isMember = before ++ e :: after →
          Names e.content id → (∀ other ∈ before, ¬Names other.content id) →
            members.text? id = some (String.ofList (trim e.body)) := by
  simp only [parse_eq_ok_iff]
  refine ⟨⟨?_, ?_⟩, ?_, ?_⟩
  · rintro ⟨members, read⟩
    obtain ⟨complete, f, divided⟩ := exists_forest_of_readText read
    refine ⟨complete, f, divided, ?_⟩
    rw [← mapM_entryOf_iff]
    obtain ⟨entries, named, -⟩ := exists_entries_of_readText divided read
    exact ⟨entries, named⟩
  · -- Reading the pieces fails only with the first unnamed member, and there is none.
    rintro ⟨complete, f, divided, all⟩
    obtain ⟨entries, named⟩ := (mapM_entryOf_iff _).mpr all
    rw [readText_of_forest complete divided, named]
    exact ⟨_, rfl⟩
  · intro refused
    apply parse_malformed
    simpa only [parse_eq_ok_iff] using refused
  · intro members read f divided
    obtain ⟨complete, -⟩ := exists_forest_of_readText read
    have whole : f.source = dropMark text.toList := by
      rw [← sourceOf_scan complete, Forest.source, divided]
    obtain ⟨entries, named, rfl⟩ := exists_entries_of_readText divided read
    have text_eq : ∀ id, (Members.addAll {} entries).text? id = entries.lookup id :=
      Members.text?_addAll {} entries
    refine ⟨whole, ?_, Members.nodup_ids_addAll (by simp [Members.ids]) entries, ?_, ?_⟩
    · intro e member
      rw [← whole]
      exact Forest.standsIn_of_outermost member
    · intro id
      rw [Members.mem_ids_iff, ← mem_entries_iff named, text_eq, ← Option.isSome_iff_exists,
        List.lookup_isSome_iff]
      simp
    · intro before e after id split found first
      rw [text_eq]
      exact lookup_entries (split ▸ named) found first

/-- A prefixed member with a member in it, and a second one of the same name. -/
theorem parse_first_of_two_named :
    let text := "<d><x:member name='A'> <member/> </x:member><member name='A'/></d>"
    parse text = .ok ⟨[("A", "<member/>")]⟩ ∧
      ∃ f : Forest, f.tokens = (scan (dropMark text.toList)).tokens ∧
        f.source = dropMark text.toList ∧ ∀ e ∈ f.outermost isMember, ∃ id, Names e.content id := by
  intro text
  have read : parse text = .ok ⟨[("A", "<member/>")]⟩ := by decide +kernel
  obtain ⟨accepts, -, members⟩ := parse_accepts_nested_named text
  obtain ⟨-, f, divided, named⟩ := accepts.mp ⟨_, read⟩
  obtain ⟨whole, -⟩ := members _ read f divided
  exact ⟨read, f, divided, whole, named⟩

end ImageRefs.Documentation
