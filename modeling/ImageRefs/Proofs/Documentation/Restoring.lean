import ImageRefs.Proofs.Documentation.Layout
import ImageRefs.Proofs.Markup.Excerpt

/-!
What is read of a documentation file can be written to a file again. The text of a member was cut out
between two tags and trimmed, and it is still complete and nests, so the tags around it are found
where they are put.
-/

set_option autoImplicit false

namespace ImageRefs.Documentation

open Markup Outcome Text

/-! ### The texts of members -/

variable {text : String} {members : Members}

/-- What is read of a text are the members of a forest of pieces that are found wherever they are. -/
theorem exists_entries_of_parse (accepted : parse text = .ok members) :
    ∃ (f : Forest) (entries : List (String × String)), f.Stands ∧
      (f.outermost isMember).mapM entryOf = .ok entries ∧ members = Members.addAll {} entries := by
  rw [parse_eq_ok_iff] at accepted
  obtain ⟨-, f, divided⟩ := exists_forest_of_readText accepted
  obtain ⟨entries, named, rfl⟩ := exists_entries_of_readText divided accepted
  refine ⟨f, entries, ?_, named, rfl⟩
  intro token among
  rw [divided] at among
  exact stands_of_mem_scan among

theorem nodup_ids_of_parse (accepted : parse text = .ok members) : members.ids.Nodup := by
  obtain ⟨-, entries, -, -, rfl⟩ := exists_entries_of_parse accepted
  exact Members.nodup_ids_addAll (by simp [Members.ids]) entries

/-- Every text of a member was cut out of a forest, and has no white space around it. -/
theorem exists_forest_of_entry (accepted : parse text = .ok members) {entry : String × String}
    (member : entry ∈ members.entries) :
    trim entry.2.toList = entry.2.toList ∧ ∃ f : Forest, f.Stands ∧ f.source = entry.2.toList := by
  obtain ⟨file, entries, stands, named, rfl⟩ := exists_entries_of_parse accepted
  have read : entry ∈ entries := (Members.mem_entries_addAll member).resolve_left (by simp)
  obtain ⟨e, outermost, found⟩ := exists_of_mem_results named read
  obtain ⟨-, same⟩ := (entryOf_eq_ok_iff e entry).mp found
  -- The body is a forest of pieces of the file, and trimming takes white space from texts only.
  obtain ⟨body, source, among⟩ := Forest.exists_of_outermost outermost
  obtain ⟨f, standing, trimmed⟩ := Forest.exists_trim (f := body) fun token piece =>
    stands token (among piece)
  rw [same, String.toList_ofList]
  exact ⟨trim_trim e.body, f, standing, by rw [trimmed, source]⟩

/-! ### Writing them again -/

/-- The ids of a file, each with the text between its tags. -/
def RawFile.contents (file : RawFile) : List (String × String) :=
  file.members.map fun m => (m.id, String.ofList m.body)

/-- A file of what was read, in any order and layout, has the same members, each with its text. -/
theorem parse_restored (accepted : parse text = .ok members)
    {file : RawFile} (same : file.contents.Perm members.entries) :
    parse (String.ofList file.source) = .ok ⟨file.contents⟩ := by
  have restored : ∀ m ∈ file.members, (m.id, String.ofList m.body) ∈ members.entries :=
    fun m member => same.mem_iff.mp (List.mem_map_of_mem member)
  have sound : ∀ m ∈ file.members, m.Sound := by
    intro m member
    obtain ⟨-, f, stands, source⟩ := exists_forest_of_entry accepted (restored m member)
    exact ⟨f, stands, source.trans String.toList_ofList⟩
  have trimmed : file.pairs = file.contents := by
    apply List.map_congr_left
    intro m member
    obtain ⟨kept, -⟩ := exists_forest_of_entry accepted (restored m member)
    rw [String.toList_ofList] at kept
    rw [RawMember.pair, kept]
  have nodup : (file.contents.map Prod.fst).Nodup :=
    (same.map Prod.fst).nodup_iff.mpr (nodup_ids_of_parse accepted)
  rw [RawFile.parse_eq sound, trimmed, Members.addAll_of_nodup nodup]
  rfl

/-- The texts of a file that was read are complete and nest, and a file that is made of them, in any
order and layout, is read with the same ids and the same texts. -/
theorem parse_written_back (text : String) (members : Members)
    (accepted : parse text = .ok members) :
    (∀ entry ∈ members.entries, ∃ f : Forest, scan entry.2.toList = ⟨f.tokens, .complete⟩) ∧
    ∀ file : RawFile, file.contents.Perm members.entries →
      ∃ again, parse (String.ofList file.source) = .ok again ∧
        again.ids.Perm members.ids ∧ ∀ id, again.text? id = members.text? id := by
  constructor
  · intro entry member
    obtain ⟨-, f, stands, source⟩ := exists_forest_of_entry accepted member
    obtain ⟨g, divided, -⟩ := exists_scan_source stands
    exact ⟨g, source ▸ divided⟩
  · intro file same
    have nodup := (same.map Prod.fst).nodup_iff.mpr (nodup_ids_of_parse accepted)
    exact ⟨⟨file.contents⟩, parse_restored accepted same, same.map Prod.fst,
      Members.text?_perm nodup same⟩

/-- A prefixed member with a member in it, and an empty one that is written in front of it then. -/
theorem parse_written_back_reversed :
    let text := "<d><x:member name='A'> <member/> </x:member><member name='B'/></d>"
    let file : RawFile :=
      ⟨[⟨"B", [], ['\n'], false, by simp; decide⟩,
        ⟨"A", ['<', 'm', 'e', 'm', 'b', 'e', 'r', '/', '>'], [], true, by simp⟩], [], by simp⟩
    parse text = .ok ⟨[("A", "<member/>"), ("B", "")]⟩ ∧
      String.ofList file.source = "<doc><members>\n<member name=\"B\"></member>" ++
        "<member name=\"A\"><member/></member></members></doc>" ∧
      ∃ again, parse (String.ofList file.source) = .ok again ∧
        again.text? "A" = some "<member/>" ∧ again.text? "B" = some "" := by
  intro text file
  have accepted : parse text = .ok ⟨[("A", "<member/>"), ("B", "")]⟩ := by decide +kernel
  have same : file.contents.Perm [("A", "<member/>"), ("B", "")] := by
    have contents : file.contents = [("B", ""), ("A", "<member/>")] := by decide +kernel
    rw [contents]
    exact List.Perm.swap ..
  obtain ⟨again, read, -, texts⟩ := (parse_written_back text _ accepted).2 file same
  exact ⟨accepted, by decide +kernel, again, read, texts "A", texts "B"⟩

end ImageRefs.Documentation
