import ImageRefs.Proofs.Documentation.Acceptance
import ImageRefs.Proofs.Markup.Spelling
import ImageRefs.Proofs.Markup.Written

/-!
The layout of a documentation file: a member for each id, with the escaped id in its tag and a text
between its tags as it is. If these texts are complete and nest, the file is read as its members.
-/

set_option autoImplicit false

namespace ImageRefs.Documentation

open Markup Outcome Text

/-! ### The tag of a member -/

def memberWord : List Char := ['m', 'e', 'm', 'b', 'e', 'r']

/-- What stands between `<` and `>` of the tag: the name of the element, and the id. -/
def memberTag (id : String) : List Char :=
  memberWord ++ ([' ', 'n', 'a', 'm', 'e', '='] ++ '"' :: (escape id.toList ++ ['"']))

theorem nameOf_memberTag (id : String) : nameOf (memberTag id) = memberWord := rfl

theorem closed_memberTag (id : String) : endNameOf memberWord = nameOf (memberTag id) := rfl

theorem isMember_memberTag (id : String) : isMember (nameOf (memberTag id)) = true := by
  rw [nameOf_memberTag]
  decide

def idAttribute (id : String) : WrittenAttribute where
  gap := [' ']
  first := 'n'
  more := ['a', 'm', 'e']
  before := []
  after := []
  quote := '"'
  value := escape id.toList
  gap_space := by simp [isSpace]
  first_visible := rfl
  more_key := by simp [endsKey, isSpace]
  before_space := by simp
  after_space := by simp
  quote_isQuote := rfl
  value_unquoted := quote_not_mem_escape id.toList

/-- The id is read as it was before it was escaped. -/
theorem names_memberTag (id : String) : Names (memberTag id) id := by
  refine ⟨escape id.toList, id.toList, ?_, unescape_escape id.toList, String.ofList_toList.symm⟩
  refine ⟨[], idAttribute id, [], ?_, by simp, rfl, rfl⟩
  rw [nameOf_memberTag]
  simp [memberTag, memberWord, idAttribute, WrittenAttribute.source, WrittenAttribute.key,
    WrittenAttribute.assignment]

theorem guarded_memberWord : Guarded memberWord :=
  .of_plain (by simp [memberWord, isQuote])

theorem guarded_memberTag (id : String) : Guarded (memberTag id) := by
  have key : Guarded [' ', 'n', 'a', 'm', 'e', '='] := .of_plain (by simp [isQuote])
  exact guarded_memberWord.append (key.append (.quoted rfl (quote_not_mem_escape id.toList) .nil))

theorem beginsTag_memberTag (id : String) : BeginsTag (memberTag id) :=
  beginsTag_cons (by decide) _

theorem getLast?_memberTag (id : String) : (memberTag id).getLast? = some '"' := by
  rw [memberTag, ← List.cons_append, ← List.append_assoc, ← List.append_assoc]
  exact List.getLast?_concat ..

/-! ### Files -/

def docWord : List Char := ['d', 'o', 'c']

def membersWord : List Char := ['m', 'e', 'm', 'b', 'e', 'r', 's']

/-- A member of a file by its id and the text it is given, with the white space before it. -/
structure RawMember where
  id : String
  body : List Char
  gap : List Char
  /-- An empty body is written as an empty tag. -/
  short : Bool
  gap_blank : ∀ c ∈ gap, isBlank c = true

def RawMember.source (m : RawMember) : List Char :=
  m.gap ++
    if m.short = true ∧ m.body = [] then (Token.empty (memberTag m.id)).source
    else (Token.start (memberTag m.id)).source ++ (m.body ++ (Token.close memberWord).source)

/-- The members of a file, and the white space behind the last one. -/
structure RawFile where
  members : List RawMember
  gap : List Char
  gap_blank : ∀ c ∈ gap, isBlank c = true

def RawFile.source (file : RawFile) : List Char :=
  (Token.start docWord).source ++ (Token.start membersWord).source ++
    (file.members.flatMap RawMember.source ++ file.gap) ++
    (Token.close membersWord).source ++ (Token.close docWord).source

/-! ### Members -/

/-- White space begins no markup. -/
theorem not_angle_of_blank {gap : List Char} (blank : ∀ c ∈ gap, isBlank c = true) :
    '<' ∉ gap := by
  intro member
  exact absurd (blank '<' member) (by decide)

namespace RawMember

/-- The element that is read where the member is written. -/
def element (m : RawMember) : Element :=
  ⟨memberTag m.id, m.body⟩

/-- Its text is read without the white space around it. -/
def pair (m : RawMember) : String × String :=
  (m.id, String.ofList (trim m.body))

theorem entryOf_element (m : RawMember) : entryOf m.element = .ok m.pair :=
  (entryOf_eq_ok_iff _ _).mpr ⟨names_memberTag m.id, rfl⟩

/-- Complete and nested, so that no part of the body joins the tags around it. -/
def Sound (m : RawMember) : Prop :=
  ∃ f : Forest, f.Stands ∧ f.source = m.body

/-- A member is one outermost element, whatever its body holds. -/
theorem exists_forest {m : RawMember} (sound : m.Sound) {rest : Forest} (behind : rest.Stands) :
    ∃ f : Forest, f.Stands ∧ f.source = m.source ++ rest.source ∧
      f.outermost isMember = m.element :: rest.outermost isMember := by
  obtain ⟨inner, inside, body⟩ := sound
  have blank := not_angle_of_blank m.gap_blank
  have guarded := guarded_memberTag m.id
  have begins := beginsTag_memberTag m.id
  by_cases short : m.short = true ∧ m.body = []
  · have lexes : (Token.empty (memberTag m.id)).Lexes :=
      lexes_empty guarded begins (List.cons_ne_nil _ _)
    refine ⟨.text m.gap (.empty (memberTag m.id) rest), ?_, ?_, ?_⟩
    · exact Forest.stands_text.mpr ⟨blank, Forest.stands_empty.mpr ⟨lexes, behind⟩⟩
    · simp [source, short, Token.source]
    · simp only [Forest.outermost, isMember_memberTag, if_true, element, short.2]
  · have unended : (memberTag m.id).getLast? ≠ some '/' := by
      rw [getLast?_memberTag]
      decide
    have starts : (Token.start (memberTag m.id)).Lexes := lexes_start guarded begins unended
    have ends : (Token.close memberWord).Lexes := lexes_close guarded_memberWord
    refine ⟨.text m.gap
      (.element (memberTag m.id) inner memberWord (closed_memberTag m.id) rest), ?_, ?_, ?_⟩
    · exact Forest.stands_text.mpr
        ⟨blank, Forest.stands_element.mpr ⟨starts, inside, ends, behind⟩⟩
    · simp [source, short, body, Token.source]
    · simp only [Forest.outermost, isMember_memberTag, if_true, element, body]

/-- One member after the other, and then the rest. -/
theorem exists_forest_row {members : List RawMember} (sound : ∀ m ∈ members, m.Sound)
    {rest : Forest} (behind : rest.Stands) :
    ∃ f : Forest, f.Stands ∧ f.source = members.flatMap source ++ rest.source ∧
      f.outermost isMember = members.map element ++ rest.outermost isMember := by
  induction members with
  | nil => exact ⟨rest, behind, rfl, rfl⟩
  | cons m members ih =>
    obtain ⟨here, later⟩ := List.forall_mem_cons.mp sound
    obtain ⟨row, standing, written, outermost⟩ := ih later
    obtain ⟨f, stands, source, first⟩ := exists_forest here standing
    refine ⟨f, stands, ?_, ?_⟩
    · rw [source, written, List.flatMap_cons, List.append_assoc]
    · rw [first, outermost, List.map_cons, List.cons_append]

end RawMember

/-! ### Whole files -/

namespace RawFile

theorem closed_docWord : endNameOf docWord = nameOf docWord := rfl

theorem closed_membersWord : endNameOf membersWord = nameOf membersWord := rfl

theorem exists_forest {file : RawFile} (sound : ∀ m ∈ file.members, m.Sound) :
    ∃ f : Forest, f.Stands ∧ f.source = file.source ∧
      f.outermost isMember = file.members.map RawMember.element := by
  have blank : Forest.Stands (.text file.gap .nil) :=
    Forest.stands_text.mpr ⟨not_angle_of_blank file.gap_blank, Forest.stands_nil⟩
  obtain ⟨row, standing, source, outermost⟩ := RawMember.exists_forest_row sound blank
  have doc : Guarded docWord := .of_plain (by simp [docWord, isQuote])
  have wrapper : Guarded membersWord := .of_plain (by simp [membersWord, isQuote])
  have docStarts : (Token.start docWord).Lexes :=
    lexes_start doc (beginsTag_cons (by decide) _) (by decide)
  have wrapperStarts : (Token.start membersWord).Lexes :=
    lexes_start wrapper (beginsTag_cons (by decide) _) (by decide)
  refine ⟨.element docWord (.element membersWord row membersWord closed_membersWord .nil) docWord
    closed_docWord .nil, ?_, ?_, ?_⟩
  · exact Forest.stands_element.mpr ⟨docStarts, Forest.stands_element.mpr ⟨wrapperStarts, standing,
      lexes_close wrapper, Forest.stands_nil⟩, lexes_close doc, Forest.stands_nil⟩
  · simp [RawFile.source, source, Token.source]
  · have notDoc : isMember (nameOf docWord) = false := by decide
    have notWrapper : isMember (nameOf membersWord) = false := by decide
    simp [Forest.outermost, notDoc, notWrapper, outermost]

/-- What is read of the file before ids that occur again are left out. -/
def pairs (file : RawFile) : List (String × String) :=
  file.members.map RawMember.pair

theorem mapM_entryOf (file : RawFile) :
    (file.members.map RawMember.element).mapM entryOf = .ok file.pairs := by
  rw [List.mapM_map, pairs]
  induction file.members with
  | nil => rfl
  | cons m members ih => simp [List.mapM_cons, RawMember.entryOf_element, ih]

theorem parse_eq {file : RawFile} (sound : ∀ m ∈ file.members, m.Sound) :
    parse (String.ofList file.source) = .ok (Members.addAll {} file.pairs) := by
  rw [parse_eq_ok_iff, String.toList_ofList]
  have unmarked : dropMark file.source = file.source := rfl
  -- The file may be divided otherwise than it was written, but it has the same members.
  obtain ⟨written, stands, source, outermost⟩ := exists_forest sound
  obtain ⟨f, divided, same⟩ := exists_scan_source stands
  rw [source] at divided
  rw [readText_of_forest (f := f) (by rw [unmarked, divided]) (by rw [unmarked, divided]), same,
    outermost, file.mapM_entryOf]
  rfl

end RawFile

end ImageRefs.Documentation
