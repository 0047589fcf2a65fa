import ImageRefs.Documentation.Provider
import ImageRefs.Proofs.Documentation.Layout

/-!
Documentation files as they are written, and that they are read as what was written: a member for
each entry, with an escaped id in its tag and any well-formed markup in its body.
-/

set_option autoImplicit false

namespace ImageRefs.Documentation

open Markup Outcome Text

/-- A member of a file, with the white space before it. -/
structure Entry where
  id : String
  body : Forest
  gap : List Char
  /-- An empty body is written as an empty tag. -/
  short : Bool
  body_written : body.Written
  gap_blank : ∀ c ∈ gap, isBlank c = true

def Entry.source (e : Entry) : List Char :=
  e.gap ++
    if e.short = true ∧ e.body.source = [] then (Token.empty (memberTag e.id)).source
    else (Token.start (memberTag e.id)).source ++
      (e.body.source ++ (Token.close memberWord).source)

/-- The members of a file, and the white space behind the last one. -/
structure WrittenFile where
  entries : List Entry
  gap : List Char
  gap_blank : ∀ c ∈ gap, isBlank c = true

def WrittenFile.source (file : WrittenFile) : List Char :=
  (Token.start docWord).source ++ (Token.start membersWord).source ++
    (file.entries.flatMap Entry.source ++ file.gap) ++
    (Token.close membersWord).source ++ (Token.close docWord).source

/-! ### Reading them -/

namespace Entry

def text (e : Entry) : String :=
  String.ofList (trim e.body.source)

/-- The entry as it stands in the text. -/
def raw (e : Entry) : RawMember where
  id := e.id
  body := e.body.source
  gap := e.gap
  short := e.short
  gap_blank := e.gap_blank

theorem sound_raw (e : Entry) : e.raw.Sound :=
  ⟨e.body, e.body_written.stands, rfl⟩

end Entry

namespace WrittenFile

def raw (file : WrittenFile) : RawFile where
  members := file.entries.map Entry.raw
  gap := file.gap
  gap_blank := file.gap_blank

theorem source_raw (file : WrittenFile) : file.raw.source = file.source := by
  simp only [RawFile.source, raw, List.flatMap_map]
  rfl

/-- The entries of a file as pairs of an id and a text. -/
def pairs (file : WrittenFile) : List (String × String) :=
  file.entries.map fun e => (e.id, e.text)

theorem pairs_raw (file : WrittenFile) : file.raw.pairs = file.pairs :=
  List.map_map

theorem parse_eq (file : WrittenFile) :
    parse (String.ofList file.source) = .ok (Members.addAll {} file.pairs) := by
  have sound : ∀ m ∈ file.raw.members, m.Sound :=
    List.forall_mem_map.mpr fun e _ => e.sound_raw
  rw [← file.source_raw, ← file.pairs_raw]
  exact RawFile.parse_eq sound

theorem lookup_pairs (file : WrittenFile) (id : String) :
    file.pairs.lookup id = (file.entries.find? (·.id == id)).map Entry.text := by
  unfold pairs
  induction file.entries with
  | nil => rfl
  | cons e entries ih =>
    by_cases same : id = e.id
    · simp [same]
    · have other : (id == e.id) = false := beq_false_of_ne same
      have other' : (e.id == id) = false := beq_false_of_ne (Ne.symm same)
      simp [List.lookup_cons, other, other', ih]

/-- A written file is read. Each id that was written has the trimmed body of the first entry with
it, and no other id has a text. -/
theorem parse_gives_first_written (file : WrittenFile) :
    ∃ members, parse (String.ofList file.source) = .ok members ∧
      (∀ id, (Provider.read members).text? id =
        (file.entries.find? (·.id == id)).map fun e => String.ofList (trim e.body.source)) ∧
      members.size = (file.entries.map (·.id)).dedup.length := by
  refine ⟨Members.addAll {} file.pairs, file.parse_eq, ?_, ?_⟩
  · intro id
    have text := Members.text?_addAll {} file.pairs id
    rw [file.lookup_pairs] at text
    exact text
  · rw [Members.size_addAll, pairs, List.map_map]
    rfl

/-- The end tag of a member. Between quotes, in a comment, in a CDATA section and in an instruction
it ends nothing. -/
def endTag : List Char := (Token.close memberWord).source

/-- A member between texts, with an end tag in everything that can hold one. -/
def memberInMember : Forest :=
  .text [' '] (.element
    ('x' :: ':' :: (memberWord ++ ([' ', 'a', '='] ++ '"' :: (endTag ++ ['"']))))
    (.aside (commentOpening ++ (endTag ++ ['-', '-']))
      (.aside (cdataOpening ++ (endTag ++ [']', ']'])) (.text ['t', '\''] .nil)))
    ('x' :: ':' :: (memberWord ++ [' '])) rfl
    (.aside ('?' :: (endTag ++ ['?'])) (.text ['>', '\n'] .nil)))

theorem written_memberInMember : memberInMember.Written := by
  have opening : Guarded ('x' :: ':' :: (memberWord ++ ([' ', 'a', '='] ++
      '"' :: (endTag ++ ['"'])))) := by
    have plain : Guarded ('x' :: ':' :: (memberWord ++ [' ', 'a', '='])) :=
      .of_plain (by simp [memberWord, isQuote])
    have value : Guarded ('"' :: (endTag ++ ['"'])) := .quoted rfl (by decide) .nil
    exact plain.append value
  have close : Guarded ('x' :: ':' :: (memberWord ++ [' '])) :=
    .of_plain (by simp [memberWord, isQuote])
  refine ⟨by decide, ⟨opening, beginsTag_cons (by decide) _, by decide⟩, ?_, close,
    .instruction endTag (by decide), by decide, trivial⟩
  exact ⟨.comment endTag (by decide), .cdata endTag (by decide), by decide, trivial⟩

theorem newline_blank : ∀ c ∈ ['\n'], isBlank c = true :=
  List.forall_mem_singleton.mpr (by decide)

/-- An id that is escaped, an id with an empty body, and the first id again. -/
def remarks : WrittenFile where
  entries :=
    [⟨"M:A<\"&'>", memberInMember, ['\n'], false, written_memberInMember, newline_blank⟩,
      ⟨"T:C", .nil, [], true, trivial, by simp⟩,
      ⟨"M:A<\"&'>", .text ['u'] .nil, ['\n'], false, ⟨by decide, trivial⟩, newline_blank⟩]
  gap := ['\n']
  gap_blank := newline_blank

theorem parse_remarks :
    String.ofList remarks.source =
      "<doc><members>\n<member name=\"M:A&lt;&quot;&amp;&apos;&gt;\"> " ++
        "<x:member a=\"</member>\"><!--</member>--><![CDATA[</member>]]>t'</x:member >" ++
        "<?</member>?>>\n</member><member name=\"T:C\"/>\n" ++
        "<member name=\"M:A&lt;&quot;&amp;&apos;&gt;\">u</member>\n</members></doc>" ∧
      ∃ members, parse (String.ofList remarks.source) = .ok members ∧
        (Provider.read members).text? "M:A<\"&'>" =
          some ("<x:member a=\"</member>\"><!--</member>--><![CDATA[</member>]]>t'</x:member >" ++
            "<?</member>?>>") ∧
        (Provider.read members).text? "T:C" = some "" ∧
        (Provider.read members).text? "T:D" = none ∧ members.size = 2 := by
  obtain ⟨members, accepted, texts, size⟩ := parse_gives_first_written remarks
  refine ⟨by decide +kernel, members, accepted, ?_, ?_, ?_, ?_⟩
  · rw [texts]
    decide +kernel
  · rw [texts]
    decide +kernel
  · rw [texts]
    decide +kernel
  · rw [size]
    decide +kernel

end WrittenFile

end ImageRefs.Documentation
