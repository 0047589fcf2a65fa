import ImageRefs.Proofs.Documentation.Truncation

/-!
Documentation files one behind the other. Behind a file nothing is open, so what follows is read as
it is read alone, except that ids that have a text keep it.
-/

set_option autoImplicit false

namespace ImageRefs.Documentation

open Markup Outcome Text

namespace Reading

/-- A reading with some members and nothing open. -/
def idle (members : Members) (position : Nat) : Reading :=
  { members, position }

/-- Reads a text to its end. -/
def readAll (r : Reading) (text : List Char) : Except ReadFault Members := do
  let r ← (scan text).tokens.foldlM read r
  r.finish (scan text).ending

variable {members whole : Members} {position : Nat} {text : List Char}

/-- What an idle reading makes of a text depends on the text; the members so far come first. -/
theorem readAll_idle_eq_ok_iff :
    (idle members position).readAll text = .ok whole ↔
      ∃ (f : Forest) (entries : List (String × String)),
        scan text = ⟨f.tokens, .complete⟩ ∧ (f.outermost isMember).mapM entryOf = .ok entries ∧
          whole = members.addAll entries := by
  constructor
  · intro h
    obtain ⟨r, read, finished⟩ := bind_eq_ok h
    have counted : Counted (idle members position) := rfl
    obtain ⟨complete, f, divided⟩ := exists_forest_of_finish counted rfl read finished
    rw [← divided, foldlM_read_outside f (idle members position) rfl] at read
    obtain ⟨entries, named, rfl⟩ := map_eq_ok read
    rw [complete] at finished
    cases finished
    refine ⟨f, entries, ?_, named, rfl⟩
    rw [divided, ← complete]
  · rintro ⟨f, entries, divided, named, rfl⟩
    rw [readAll, divided, foldlM_read_outside f (idle members position) rfl, named]
    rfl

/-- A text behind which no member is open stands in none, and any other in its place is read alike. -/
theorem read_text_outside {r r' : Reading} {chars : List Char}
    (read : r.read (.text chars) = .ok r') (outside : r'.body? = none) (longer : List Char) :
    r.read (.text longer) = .ok { r' with position := r.position + Utf8.size longer } := by
  cases place : r.body? with
  | none =>
    rw [read_outside place] at read ⊢
    cases read
    rfl
  | some body =>
    rw [read_inside place] at read
    cases read
    cases outside

/-- Behind pieces that nest, what follows is read by an idle reading from its first markup on: text
before that leaves no trace, whether it is a piece of its own or goes on with the last one. -/
theorem exists_readAll_append {f : Forest} {entries : List (String × String)}
    (divided : scan text = ⟨f.tokens, .complete⟩)
    (named : (f.outermost isMember).mapM entryOf = .ok entries) (more : List Char) :
    ∃ q, (idle members position).readAll (text ++ more) =
      (idle (members.addAll entries) q).readAll (more.dropWhile (· != '<')) := by
  have read := foldlM_read_outside f (idle members position) rfl
  rw [named] at read
  have complete : (scan text).ending = .complete := by rw [divided]
  rcases scan_append complete more with apart | ⟨init, chars, last, grown⟩
  · -- The two texts are divided each on its own.
    rw [divided] at apart
    rw [readAll, apart, List.foldlM_append, read]
    cases more with
    | nil => exact ⟨_, rfl⟩
    | cons c more =>
      by_cases angle : c = '<'
      · subst angle
        exact ⟨_, rfl⟩
      · rw [List.dropWhile_cons_of_pos (by simpa using angle), scan_text angle]
        exact ⟨_, rfl⟩
  · -- The text at the end goes on. It is read outside of members, and so not looked at.
    rw [divided] at last
    have split : f.tokens = init ++ [.text chars] := last
    rw [split, List.foldlM_append] at read
    obtain ⟨before, begun, ended⟩ := bind_eq_ok read
    rw [List.foldlM_cons] at ended
    obtain ⟨r, one, done⟩ := bind_eq_ok ended
    cases done
    have longer := read_text_outside one rfl (chars ++ more.takeWhile (· != '<'))
    rw [readAll, grown, List.foldlM_append, begun, ok_bind, List.foldlM_cons, longer]
    exact ⟨_, rfl⟩

end Reading

/-! ### Files -/

theorem dropWhile_dropMark (text : List Char) :
    (dropMark text).dropWhile (· != '<') = text.dropWhile (· != '<') := by
  unfold dropMark
  split
  next rest => rfl
  · rfl

/-- A text behind a file, also if the file is empty, is read from its first markup on. -/
theorem exists_readText_append {first : List Char} {members : Members}
    (accepted : readText first = .ok members) (more : List Char) :
    ∃ q, readText (first ++ more) =
      (Reading.idle members q).readAll (more.dropWhile (· != '<')) := by
  have start (text : List Char) :
      readText text = (Reading.idle {} 0).readAll (dropMark text) := rfl
  rw [start] at accepted
  obtain ⟨f, entries, divided, named, rfl⟩ := Reading.readAll_idle_eq_ok_iff.mp accepted
  rw [start, ← dropWhile_dropMark more]
  by_cases begun : first = []
  · subst begun
    exact Reading.exists_readAll_append divided named (dropMark more)
  · rw [dropMark_append begun, dropWhile_dropMark]
    exact Reading.exists_readAll_append divided named more

/-- A text behind a file is read if it is read alone, and its members come behind those of the file. -/
theorem readText_append {first : List Char} {members : Members}
    (accepted : readText first = .ok members) (more : List Char) :
    (∀ whole, readText (first ++ more) = .ok whole → ∃ others, readText more = .ok others) ∧
    ∀ others, readText more = .ok others →
      ∃ whole, readText (first ++ more) = .ok whole ∧
        ∀ id, whole.text? id = (members.text? id).or (others.text? id) := by
  obtain ⟨behind, together⟩ := exists_readText_append accepted more
  have nothing : readText [] = .ok {} := by simp [readText, dropMark, scan, Reading.finish]
  obtain ⟨start, alone⟩ := exists_readText_append nothing more
  rw [List.nil_append] at alone
  simp only [together, alone, Reading.readAll_idle_eq_ok_iff]
  constructor
  · rintro whole ⟨f, entries, divided, named, -⟩
    exact ⟨_, f, entries, divided, named, rfl⟩
  · rintro others ⟨f, entries, divided, named, rfl⟩
    refine ⟨_, ⟨f, entries, divided, named, rfl⟩, fun id => ?_⟩
    simp only [Members.text?_addAll]
    rfl

/-- Behind a file, a text is a file exactly if it is one alone. Together they give every id of the
first its text there, and every other the text that the second has for it. So where a file goes on
as a file, no id of its first part gets another text. -/
theorem parse_append (first : String) (members : Members)
    (accepted : parse first = .ok members) :
    (∀ text : String,
      ((∃ whole, parse (first ++ text) = .ok whole) ↔ ∃ others, parse text = .ok others) ∧
      ∀ others whole, parse text = .ok others → parse (first ++ text) = .ok whole →
        ∀ id, whole.text? id = (members.text? id).or (others.text? id)) ∧
    ∀ (text : String) (whole : Members), first.toList <+: text.toList → parse text = .ok whole →
      ∀ id body, members.text? id = some body → whole.text? id = some body := by
  rw [parse_eq_ok_iff] at accepted
  simp only [parse_eq_ok_iff, String.toList_append]
  constructor
  · intro text
    obtain ⟨apart, together⟩ := readText_append accepted text.toList
    refine ⟨⟨fun ⟨whole, read⟩ => apart whole read, fun ⟨others, read⟩ => ?_⟩, ?_⟩
    · obtain ⟨whole, read, -⟩ := together others read
      exact ⟨whole, read⟩
    · intro others whole alone read
      obtain ⟨whole', read', union⟩ := together others alone
      obtain rfl := Except.ok.inj (read.symm.trans read')
      exact union
  · rintro text whole ⟨more, split⟩ read id body present
    rw [← split] at read
    obtain ⟨apart, together⟩ := readText_append accepted more
    obtain ⟨others, alone⟩ := apart whole read
    obtain ⟨whole', read', union⟩ := together others alone
    obtain rfl := Except.ok.inj (read.symm.trans read')
    rw [union, present, Option.some_or]

/-- A file that ends with text, and one that begins with a mark and text of its own. -/
theorem parse_append_marked :
    let first := "<member name='A'>1</member> and"
    let text := "\uFEFFmore<member name='A'>2</member><member name='B'/>"
    parse first = .ok ⟨[("A", "1")]⟩ ∧ parse text = .ok ⟨[("A", "2"), ("B", "")]⟩ ∧
      ∃ whole, parse (first ++ text) = .ok whole ∧ whole.text? "A" = some "1" ∧
        whole.text? "B" = some "" ∧ ∀ id, id ≠ "A" → id ≠ "B" → whole.text? id = none := by
  intro first text
  have accepted : parse first = .ok ⟨[("A", "1")]⟩ := by decide +kernel
  have alone : parse text = .ok ⟨[("A", "2"), ("B", "")]⟩ := by decide +kernel
  obtain ⟨append, -⟩ := parse_append first _ accepted
  obtain ⟨whole, read⟩ := (append text).1.mpr ⟨_, alone⟩
  have union := (append text).2 _ whole alone read
  refine ⟨accepted, alone, whole, read, union "A", union "B", fun id one other => ?_⟩
  rw [union id]
  simp [Members.text?, List.lookup_cons, beq_false_of_ne one, beq_false_of_ne other]

end ImageRefs.Documentation
