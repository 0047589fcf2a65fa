import ImageRefs.Documentation.Provider
import ImageRefs.Proofs.Documentation.Composition
import ImageRefs.Proofs.Markup.Spelling
import ImageRefs.Proofs.Markup.Tag

/-!
Ids of members however they are spelled. What is read depends on the ids and the bodies of the
outermost members only: the tag of a member may quote its id in either way, write each character of
it as itself or as an entity, and have other attributes around it.
-/

set_option autoImplicit false

namespace ImageRefs.Documentation

open Markup Outcome Text

/-! ### The tags of members -/

/-- The tag of a member. Its first `name` spells the id; other keys, also with a prefix, and
whatever stands behind that attribute do not count. -/
def SpellsId (t : WrittenTag) (id : String) : Prop :=
  isMember t.name = true ∧
    ∃ (earlier : List WrittenAttribute) (a : WrittenAttribute) (later : List WrittenAttribute),
      t.attributes = earlier ++ a :: later ∧ (∀ b ∈ earlier, b.key ≠ ['n', 'a', 'm', 'e']) ∧
        a.key = ['n', 'a', 'm', 'e'] ∧ Spells a.quote id.toList a.value

namespace SpellsId

variable {t : WrittenTag} {id : String}

theorem isMember_content (spells : SpellsId t id) : isMember (nameOf t.content) = true := by
  rw [t.nameOf_content]
  exact spells.1

theorem attributes_ne_nil (spells : SpellsId t id) : t.attributes ≠ [] := by
  obtain ⟨-, earlier, a, later, split, -⟩ := spells
  simp [split]

theorem names (spells : SpellsId t id) : Names t.content id := by
  obtain ⟨-, earlier, a, later, split, others, key, value⟩ := spells
  refine ⟨a.value, id.toList, ?_, value.unescape_eq, String.ofList_toList.symm⟩
  refine ⟨earlier, a, later.flatMap WrittenAttribute.source ++ t.gap, ?_, others, key, rfl⟩
  rw [t.drop_nameOf_content, split]
  simp

end SpellsId

/-! ### Files -/

/-- Markup with the outermost members that are listed, each with its id and its text. -/
inductive Documents : Forest → List (String × String) → Prop where
  | nil : Documents .nil []
  | text {chars : List Char} {rest : Forest} {entries : List (String × String)}
      (plain : '<' ∉ chars) (after : Documents rest entries) :
      Documents (.text chars rest) entries
  | aside {content : List Char} {rest : Forest} {entries : List (String × String)}
      (lexes : (Token.aside content).Lexes) (after : Documents rest entries) :
      Documents (.aside content rest) entries
  | empty {content : List Char} {rest : Forest} {entries : List (String × String)}
      (lexes : (Token.empty content).Lexes) (other : isMember (nameOf content) = false)
      (after : Documents rest entries) : Documents (.empty content rest) entries
  | element {content close : List Char} {inner rest : Forest}
      {closed : endNameOf close = nameOf content} {held entries : List (String × String)}
      (starts : (Token.start content).Lexes) (other : isMember (nameOf content) = false)
      (within : Documents inner held) (ends : (Token.close close).Lexes)
      (after : Documents rest entries) :
      Documents (.element content inner close closed rest) (held ++ entries)
  | emptyMember {t : WrittenTag} {id : String} {rest : Forest} {entries : List (String × String)}
      (spells : SpellsId t id) (after : Documents rest entries) :
      Documents (.empty t.content rest) ((id, "") :: entries)
  /-- The body is any markup, members included. -/
  | member {t : WrittenTag} {id : String} {close : List Char} {inner rest : Forest}
      {closed : endNameOf close = nameOf t.content} {entries : List (String × String)}
      (spells : SpellsId t id) (body : inner.Stands) (ends : (Token.close close).Lexes)
      (after : Documents rest entries) :
      Documents (.element t.content inner close closed rest)
        ((id, String.ofList (trim inner.source)) :: entries)

namespace Documents

variable {f : Forest} {entries : List (String × String)}

/-- Every piece is found again, the tags of members by what stands in them. -/
theorem stands (documents : Documents f entries) : f.Stands := by
  induction documents with
  | nil => exact Forest.stands_nil
  | text plain _ ih => exact Forest.stands_text.mpr ⟨plain, ih⟩
  | aside lexes _ ih => exact Forest.stands_aside.mpr ⟨lexes, ih⟩
  | empty lexes _ _ ih => exact Forest.stands_empty.mpr ⟨lexes, ih⟩
  | element starts _ _ ends _ ihInner ih =>
    exact Forest.stands_element.mpr ⟨starts, ihInner, ends, ih⟩
  | @emptyMember t id rest entries spells _ ih =>
    exact Forest.stands_empty.mpr ⟨t.lexes_empty, ih⟩
  | @member t id close inner rest closed entries spells body ends _ ih =>
    exact Forest.stands_element.mpr ⟨t.lexes_start spells.attributes_ne_nil, body, ends, ih⟩

theorem mapM_entryOf (documents : Documents f entries) :
    (f.outermost isMember).mapM entryOf = .ok entries := by
  induction documents with
  | nil => rfl
  | text _ _ ih => exact ih
  | aside _ _ ih => exact ih
  | empty _ other _ ih => simpa [Forest.outermost, other] using ih
  | @element content close inner rest closed held entries _ other _ _ _ ihInner ih =>
    simp only [Forest.outermost, other, Bool.false_eq_true, if_false, List.mapM_append, ihInner, ih,
      ok_bind, pure_eq]
  | @emptyMember t id rest entries spells _ ih =>
    have named := (memberId_eq_ok_iff t.content id).mpr spells.names
    simp only [Forest.outermost, spells.isMember_content, if_true]
    rw [mapM_entryOf_cons named, ih]
    rfl
  | @member t id close inner rest closed entries spells body _ _ ih =>
    have named := (memberId_eq_ok_iff t.content id).mpr spells.names
    simp only [Forest.outermost, spells.isMember_content, if_true]
    rw [mapM_entryOf_cons named, ih]
    rfl

end Documents

/-- Markup that stands is read as its outermost members, also with a mark at its start. -/
theorem readText_of_stands {f : Forest} {entries : List (String × String)} (stands : f.Stands)
    (named : (f.outermost isMember).mapM entryOf = .ok entries) :
    readText f.source = .ok (Members.addAll {} entries) := by
  obtain ⟨g, divided, same⟩ := exists_scan_source stands
  obtain ⟨g', divided', same'⟩ := exists_scan_dropWhile divided
  have nothing : readText [] = .ok {} := by simp [readText, dropMark, scan, Reading.finish]
  -- What stands before the first markup leaves no trace, and a mark is part of it.
  obtain ⟨q, read⟩ := exists_readText_append nothing f.source
  rw [List.nil_append] at read
  rw [read, Reading.readAll_idle_eq_ok_iff]
  exact ⟨g', entries, divided', by rw [same', same, named], rfl⟩

/-- What is read depends on the ids and the texts of the members, and not on how the ids are
spelled: each id that is listed has the first text that is listed for it, and no other id has one.
Every spelling fits between its quotes and spells one id only, so the tag of a member names one id
only; and each id without NUL can be written in references alone. -/
theorem parse_of_spelled_ids :
    (∀ entries : List (String × String), ∃ members : Members,
      (∀ id, (Provider.read members).text? id = entries.lookup id) ∧
      ∀ f : Forest, Documents f entries → parse (String.ofList f.source) = .ok members) ∧
    (∀ (t t' : WrittenTag) (id id' : String), SpellsId t id → SpellsId t' id' →
      t.content = t'.content → id = id') ∧
    (∀ (quote : Char) (text value : List Char), isQuote quote = true → Spells quote text value →
      quote ∉ value ∧
        ∀ (quote' : Char) (other : List Char), Spells quote' other value → other = text) ∧
    ∀ (quote : Char) (text : List Char), '\x00' ∉ text →
      Spells quote text
        (text.flatMap fun c => '&' :: ('#' :: Nat.toDigits 10 c.toNat ++ [';'])) ∧
      Spells quote text
        (text.flatMap fun c => '&' :: ('#' :: 'x' :: Nat.toDigits 16 c.toNat ++ [';'])) := by
  refine ⟨?_, ?_, ?_, ?_⟩
  · intro entries
    refine ⟨Members.addAll {} entries, ?_, ?_⟩
    · intro id
      exact Members.text?_addAll {} entries id
    · intro f documents
      rw [parse_eq_ok_iff, String.toList_ofList]
      exact readText_of_stands documents.stands documents.mapM_entryOf
  · intro t t' id id' spells spells' same
    exact spells.names.unique (same ▸ spells'.names)
  · intro quote text value opens spells
    exact ⟨spells.quote_not_mem opens, fun quote' other spells' => spells'.unique spells⟩
  · intro quote text noNul
    exact spells_references quote noNul

/-- Two spellings of one id, the first between a prefixed name that holds the end of a tag and a
second name. -/
theorem parse_two_spellings :
    let text := "<x:member x:name='/>' name=\"&#65;&gt;\" name='B'>1</x:member>" ++
      "<member name = '&#x041;>'/>"
    (∃ f, Documents f [("A>", "1"), ("A>", "")] ∧ f.source = text.toList) ∧
      ∃ members, parse text = .ok members ∧ members.text? "A>" = some "1" ∧
        members.text? "B" = none := by
  intro text
  let prefixed : WrittenAttribute :=
    ⟨[' '], 'x', [':', 'n', 'a', 'm', 'e'], [], [], '\'', ['/', '>'],
      by simp [isSpace], rfl, by simp [endsKey, isSpace], by simp, by simp, rfl, by simp⟩
  let name : WrittenAttribute :=
    ⟨[' '], 'n', ['a', 'm', 'e'], [], [], '"', ['&', '#', '6', '5', ';', '&', 'g', 't', ';'],
      by simp [isSpace], rfl, by simp [endsKey, isSpace], by simp, by simp, rfl, by simp⟩
  let ignored : WrittenAttribute :=
    ⟨[' '], 'n', ['a', 'm', 'e'], [], [], '\'', ['B'],
      by simp [isSpace], rfl, by simp [endsKey, isSpace], by simp, by simp, rfl, by simp⟩
  let again : WrittenAttribute :=
    ⟨[' '], 'n', ['a', 'm', 'e'], [' '], [' '], '\'', ['&', '#', 'x', '0', '4', '1', ';', '>'],
      by simp [isSpace], rfl, by simp [endsKey, isSpace], by simp [isSpace], by simp [isSpace], rfl,
      by simp⟩
  let first : WrittenTag :=
    ⟨['x', ':', 'm', 'e', 'm', 'b', 'e', 'r'], [prefixed, name, ignored], [], by simp,
      beginsTag_cons (by decide) _, by simp [isSpace, isQuote], by simp [prefixed, name, ignored],
      by simp [prefixed, name, ignored, WrittenAttribute.key, isQuote], by simp⟩
  let second : WrittenTag :=
    ⟨['m', 'e', 'm', 'b', 'e', 'r'], [again], [], by simp, beginsTag_cons (by decide) _,
      by simp [isSpace, isQuote], by simp [again], by simp [again, WrittenAttribute.key, isQuote],
      by simp⟩
  have entity : SpellsChar '"' '>' ('&' :: (['g', 't'] ++ [';'])) := .predefined rfl
  have decimal : SpellsChar '"' 'A' ('&' :: ('#' :: ['6', '5'] ++ [';'])) :=
    .decimal (by decide) (numeral_toDigits (by decide) 65)
  have digit (d : Nat) (below : d < 16) : Digit 16 d.digitChar d := ⟨below, Or.inl rfl⟩
  have zero : Numeral 16 ['0'] 0 := .one (digit 0 (by decide))
  have hexadecimal : SpellsChar '\'' 'A' ('&' :: ('#' :: 'x' :: ['0', '4', '1'] ++ [';'])) :=
    .hexadecimal (by decide) ((zero.more (digit 4 (by decide))).more (digit 1 (by decide)))
  have spells : SpellsId first "A>" :=
    ⟨by decide, [prefixed], name, [ignored], rfl, by simp [prefixed, WrittenAttribute.key], rfl,
      .cons decimal (.cons entity .nil)⟩
  have spells' : SpellsId second "A>" :=
    ⟨by decide, [], again, [], rfl, by simp, rfl,
      .cons hexadecimal (.cons (.raw (by decide) (by decide)) .nil)⟩
  have documents : Documents (.element first.content (.text ['1'] .nil) first.name rfl
      (.empty second.content .nil)) [("A>", "1"), ("A>", "")] :=
    .member spells (Forest.stands_text.mpr ⟨by simp, Forest.stands_nil⟩)
      (lexes_close (.of_plain (by simp [first, isQuote]))) (.emptyMember spells' .nil)
  have source : Forest.source (.element first.content (.text ['1'] .nil) first.name rfl
      (.empty second.content .nil)) = text.toList := by
    simp only [text, String.toList_append]
    rfl
  obtain ⟨members, texts, read⟩ := parse_of_spelled_ids.1 [("A>", "1"), ("A>", "")]
  have parsed := read _ documents
  rw [source, String.ofList_toList] at parsed
  exact ⟨⟨_, documents, source⟩, members, parsed, texts "A>", texts "B"⟩

end ImageRefs.Documentation
