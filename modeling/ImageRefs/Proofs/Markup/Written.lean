import ImageRefs.Markup.Attribute
import ImageRefs.Proofs.Markup.Continuation
import ImageRefs.Proofs.Markup.Forest

/-!
Well-formed markup. Comments, CDATA sections and instructions hold anything but the mark that ends
them; tags hold a `>` only between quotes. Whatever is put together from such pieces, in properly
nested elements, is divided into its pieces again.
-/

set_option autoImplicit false

namespace ImageRefs.Markup

/-- A complete piece of markup on its own. -/
def Token.Lexes (token : Token) : Prop :=
  ∃ text, token.source = '<' :: text ∧ markup text = .token token []

theorem Token.Lexes.stops {token : Token} (lexes : token.Lexes) (rest : List Char) :
    Stops (token.source ++ rest) := by
  obtain ⟨text, source, -⟩ := lexes
  rw [source]
  rfl

theorem Token.Lexes.scan_append {token : Token} (lexes : token.Lexes) (rest : List Char) :
    scan (token.source ++ rest) = ⟨token :: (scan rest).tokens, (scan rest).ending⟩ := by
  obtain ⟨text, source, piece⟩ := lexes
  rw [source, List.cons_append]
  exact scan_markup (markup_append rest piece)

/-- A piece that is found again wherever it stands. -/
def Token.Stands : Token → Prop
  | .text chars => '<' ∉ chars
  | token => token.Lexes

/-! ### Comments, CDATA sections and instructions -/

/-- Content that is followed by its end, and in which none of the other `>` is an end. -/
theorem upTo_content {ends : List Char → Bool} {seen content rest : List Char}
    (stops : ends (content.reverse ++ seen) = true)
    (goesOn : ∀ before after, content = before ++ '>' :: after →
      ends (before.reverse ++ seen) = false) :
    upTo ends seen (content ++ '>' :: rest) = some (seen.reverse ++ content, rest) := by
  induction content generalizing seen with
  | nil =>
    have last : ends seen = true := stops
    simp [upTo, last]
  | cons c content ih =>
    have here : (c == '>' && ends seen) = false := by
      by_cases angle : c = '>'
      · have open_yet : ends seen = false := goesOn [] content (by rw [angle]; rfl)
        simp [open_yet]
      · simp [angle]
    have later := @ih (c :: seen) (by simpa using stops) (by
      intro before after split
      have tail := goesOn (c :: before) after (by rw [split]; rfl)
      simpa using tail)
    rw [List.cons_append, upTo, here]
    simpa using later

/-- A mark that is not begun by the end of a text lies before it. -/
theorem infix_of_infix_append {mark text tail : List Char} {last : Char} (absent : last ∉ tail)
    (found : mark ++ [last] <:+: text ++ tail) : mark ++ [last] <:+: text := by
  obtain ⟨before, after, whole⟩ := found
  rcases List.append_eq_append_iff.mp whole with ⟨more, split, -⟩ | ⟨more, split, ending⟩
  · exact ⟨before, more, split.symm⟩
  · -- What the mark has in common with the tail would contain its last character.
    rcases List.eq_nil_or_concat more with rfl | ⟨init, c, rfl⟩
    · exact ⟨before, [], by simpa using split⟩
    · have same : last = c := by
        have lasts := congrArg List.getLast? split
        simpa [← List.append_assoc] using lasts
      exact absurd (by simp [ending, same]) absent

theorem infix_of_append_infix {mark front text : List Char} {first : Char} (absent : first ∉ front)
    (found : first :: mark <:+: front ++ text) : first :: mark <:+: text := by
  obtain ⟨before, after, whole⟩ := found
  rw [List.append_assoc] at whole
  rcases List.append_eq_append_iff.mp whole with ⟨more, split, ending⟩ | ⟨more, -, ending⟩
  · cases more with
    | nil => exact ⟨[], after, by simpa using ending⟩
    | cons c more =>
      have same : first = c := (List.cons.inj ending).1
      exact absurd (by simp [split, same]) absent
  · exact ⟨more, after, by simpa using ending.symm⟩

/-- Anything that does not hold the mark that ends it. -/
inductive WrittenAside : List Char → Prop where
  | comment (text : List Char) (ended : ¬['-', '-', '>'] <:+: text) :
      WrittenAside (commentOpening ++ (text ++ ['-', '-']))
  | cdata (text : List Char) (ended : ¬[']', ']', '>'] <:+: text) :
      WrittenAside (cdataOpening ++ (text ++ [']', ']']))
  | instruction (text : List Char) (ended : ¬['?', '>'] <:+: '?' :: text) :
      WrittenAside ('?' :: (text ++ ['?']))

theorem reverse_of_take_reverse {before : List Char} {a b : Char}
    (h : before.reverse.take 2 = [a, b]) : ∃ front, before = front ++ [b, a] := by
  have split := List.take_append_drop 2 before.reverse
  rw [h] at split
  exact ⟨(before.reverse.drop 2).reverse, by simpa using congrArg List.reverse split.symm⟩

theorem upTo_comment {text : List Char} (ended : ¬['-', '-', '>'] <:+: text) :
    upTo endsComment [] (commentOpening ++ (text ++ ['-', '-']) ++ ['>']) =
      some (commentOpening ++ (text ++ ['-', '-']), []) := by
  apply upTo_content
  · simp [endsComment, commentOpening]
  · intro before after split
    rw [List.append_nil, Bool.eq_false_iff]
    intro ends
    simp only [endsComment, Bool.and_eq_true, beq_iff_eq, decide_eq_true_eq,
      List.length_reverse] at ends
    obtain ⟨front, rfl⟩ := reverse_of_take_reverse ends.1
    apply ended
    -- The two hyphens are not those of the opening, since there are five characters before the `>`.
    match front, ends.2 with
    | x :: y :: z :: inside, _ =>
      simp only [commentOpening, List.cons_append, List.cons.injEq, List.nil_append] at split
      have found : ['-', '-'] ++ ['>'] <:+: text ++ ['-', '-'] :=
        ⟨inside, after, by simp [split.2.2.2]⟩
      exact infix_of_infix_append (by simp) found

theorem upTo_cdata {text : List Char} (ended : ¬[']', ']', '>'] <:+: text) :
    upTo endsCdata [] (cdataOpening ++ (text ++ [']', ']']) ++ ['>']) =
      some (cdataOpening ++ (text ++ [']', ']']), []) := by
  apply upTo_content
  · simp [endsCdata, cdataOpening]
  · intro before after split
    rw [List.append_nil, Bool.eq_false_iff]
    intro ends
    obtain ⟨front, rfl⟩ := reverse_of_take_reverse (eq_of_beq ends)
    apply ended
    have found : [']', ']'] ++ ['>'] <:+: (cdataOpening ++ text) ++ [']', ']'] :=
      ⟨front, after, by simpa using split.symm⟩
    exact infix_of_append_infix (by decide) (infix_of_infix_append (by simp) found)

theorem upTo_instruction {text : List Char} (ended : ¬['?', '>'] <:+: '?' :: text) :
    upTo endsInstruction [] ('?' :: (text ++ ['?']) ++ ['>']) =
      some ('?' :: (text ++ ['?']), []) := by
  apply upTo_content
  · simp [endsInstruction]
  · intro before after split
    rw [List.append_nil, Bool.eq_false_iff]
    intro ends
    simp only [endsInstruction, List.head?_reverse, beq_iff_eq] at ends
    obtain ⟨front, rfl⟩ := List.getLast?_eq_some_iff.mp ends
    apply ended
    have found : ['?'] ++ ['>'] <:+: ('?' :: text) ++ ['?'] :=
      ⟨front, after, by simpa using split.symm⟩
    exact infix_of_infix_append (by simp) found

theorem WrittenAside.lexes {content : List Char} (written : WrittenAside content) :
    (Token.aside content).Lexes := by
  refine ⟨content ++ ['>'], rfl, ?_⟩
  cases written with
  | comment text ended =>
    show Lexeme.bounded .openComment _
      (upTo endsComment [] (commentOpening ++ (text ++ ['-', '-']) ++ ['>'])) checkComment = _
    rw [upTo_comment ended]
    simp [Lexeme.bounded, checkComment, commentOpening]
  | cdata text ended =>
    show Lexeme.bounded .openCdata _
      (upTo endsCdata [] (cdataOpening ++ (text ++ [']', ']']) ++ ['>'])) checkCdata = _
    rw [upTo_cdata ended]
    simp [Lexeme.bounded, checkCdata, cdataOpening]
  | instruction text ended =>
    show Lexeme.bounded .openInstruction _
      (upTo endsInstruction [] ('?' :: (text ++ ['?']) ++ ['>'])) checkInstruction = _
    rw [upTo_instruction ended]
    simp [Lexeme.bounded, checkInstruction]

/-! ### Tags -/

/-- Every `>` stands between quotes, and all quotes come in pairs. -/
inductive Guarded : List Char → Prop where
  | nil : Guarded []
  | char {c : Char} {rest : List Char} (other : c ≠ '>') (unquoted : isQuote c = false)
      (after : Guarded rest) : Guarded (c :: rest)
  | quoted {quote : Char} {value rest : List Char} (opens : isQuote quote = true)
      (unquoted : quote ∉ value) (after : Guarded rest) :
      Guarded (quote :: (value ++ quote :: rest))

theorem Guarded.append {first second : List Char} (one : Guarded first) (other : Guarded second) :
    Guarded (first ++ second) := by
  induction one with
  | nil => exact other
  | char notEnd unquoted _ ih => exact .char notEnd unquoted ih
  | quoted opens unquoted _ ih => simpa using Guarded.quoted opens unquoted ih

theorem Guarded.of_plain {text : List Char} (plain : ∀ c ∈ text, c ≠ '>' ∧ isQuote c = false) :
    Guarded text := by
  induction text with
  | nil => exact .nil
  | cons c text ih =>
    obtain ⟨here, later⟩ := List.forall_mem_cons.mp plain
    exact .char here.1 here.2 (ih later)

theorem upToTagEnd_quoted {quote : Char} {value : List Char} (unquoted : quote ∉ value)
    (seen rest : List Char) :
    upToTagEnd (some quote) seen (value ++ quote :: rest) =
      upToTagEnd none (quote :: (value.reverse ++ seen)) rest := by
  induction value generalizing seen with
  | nil => simp [upToTagEnd]
  | cons c value ih =>
    rw [List.mem_cons, not_or] at unquoted
    have other : (c == quote) = false := beq_false_of_ne (Ne.symm unquoted.1)
    have later := ih unquoted.2 (c :: seen)
    simpa [upToTagEnd, other] using later

theorem upToTagEnd_guarded {content : List Char} (guarded : Guarded content)
    (seen rest : List Char) :
    upToTagEnd none seen (content ++ '>' :: rest) = some (seen.reverse ++ content, rest) := by
  induction guarded generalizing seen with
  | nil => simp [upToTagEnd]
  | @char c content other unquoted after ih =>
    have notQuote : (c == '"' || c == '\'') = false := unquoted
    have later := ih (c :: seen)
    simpa [upToTagEnd, other, notQuote] using later
  | @quoted quote value content opens unquoted after ih =>
    have isMark : (quote == '"' || quote == '\'') = true := opens
    have notEnd : quote ≠ '>' := by
      rintro rfl
      exact absurd opens (by decide)
    -- Between the quotes nothing ends the tag, and behind them the scan goes on as before.
    have inside := upToTagEnd_quoted unquoted (quote :: seen) (content ++ '>' :: rest)
    have later := ih (quote :: (value.reverse ++ quote :: seen))
    simp only [List.cons_append, List.append_assoc, upToTagEnd, notEnd, isMark, beq_iff_eq,
      if_false, if_true, inside, later]
    simp

/-- Not taken for an end tag, an instruction or a declaration. -/
def BeginsTag (content : List Char) : Prop :=
  ∀ c rest, content = c :: rest → c ≠ '!' ∧ c ≠ '?' ∧ c ≠ '/'

theorem markup_guarded {content : List Char} (guarded : Guarded content)
    (declaration : ∀ rest, content ≠ '!' :: rest) (instruction : ∀ rest, content ≠ '?' :: rest)
    {token : Token} (accepted : checkTag content = .ok token) :
    markup (content ++ ['>']) = .token token [] := by
  have split := upToTagEnd_guarded guarded [] []
  obtain ⟨c, text, whole, here⟩ : ∃ c text, content ++ ['>'] = c :: text ∧ c ≠ '!' ∧ c ≠ '?' := by
    cases content with
    | nil => exact ⟨'>', [], rfl, by decide⟩
    | cons c rest =>
      refine ⟨c, rest ++ ['>'], rfl, ?_, ?_⟩
      · rintro rfl
        exact declaration rest rfl
      · rintro rfl
        exact instruction rest rfl
  rw [whole] at split ⊢
  rw [markup_tag here.1 here.2, split]
  simp [Lexeme.bounded, accepted]

theorem beginsTag_cons {c : Char} (other : c ≠ '!' ∧ c ≠ '?' ∧ c ≠ '/') (rest : List Char) :
    BeginsTag (c :: rest) := by
  rintro d rest' same
  obtain ⟨rfl, -⟩ := List.cons.inj same
  exact other

theorem BeginsTag.checkTag_eq {content : List Char} (begins : BeginsTag content) :
    checkTag content = if content.getLast? = some '/' then .ok (.empty content.dropLast)
      else .ok (.start content) := by
  unfold checkTag
  split
  next name => exact absurd rfl (begins '/' name rfl).2.2
  next => rfl

theorem lexes_start {content : List Char} (guarded : Guarded content) (begins : BeginsTag content)
    (unended : content.getLast? ≠ some '/') : (Token.start content).Lexes := by
  refine ⟨content ++ ['>'], rfl, markup_guarded guarded ?_ ?_ ?_⟩
  · exact fun rest same => (begins '!' rest same).1 rfl
  · exact fun rest same => (begins '?' rest same).2.1 rfl
  · rw [begins.checkTag_eq, if_neg unended]

theorem lexes_empty {content : List Char} (guarded : Guarded content) (begins : BeginsTag content)
    (named : content ≠ []) : (Token.empty content).Lexes := by
  have slash : Guarded (content ++ ['/']) :=
    guarded.append (.char (by decide) (by decide) .nil)
  have opens : BeginsTag (content ++ ['/']) := by
    obtain ⟨c, rest, rfl⟩ := List.exists_cons_of_ne_nil named
    exact beginsTag_cons (begins c rest rfl) (rest ++ ['/'])
  refine ⟨content ++ ['/'] ++ ['>'], by simp [Token.source], markup_guarded slash ?_ ?_ ?_⟩
  · exact fun rest same => (opens '!' rest same).1 rfl
  · exact fun rest same => (opens '?' rest same).2.1 rfl
  · rw [opens.checkTag_eq]
    simp

theorem lexes_close {content : List Char} (guarded : Guarded content) :
    (Token.close content).Lexes := by
  have slash : Guarded ('/' :: content) := .char (by decide) (by decide) guarded
  refine ⟨'/' :: content ++ ['>'], rfl, markup_guarded slash ?_ ?_ rfl⟩
  · simp
  · simp

/-! ### Forests -/

namespace Forest

/-- All pieces are found again, apart from texts that stand side by side. -/
def Stands (f : Forest) : Prop :=
  ∀ token ∈ f.tokens, token.Stands

theorem stands_nil : Stands .nil := by simp [Stands, tokens]

theorem stands_text {chars : List Char} {rest : Forest} :
    Stands (.text chars rest) ↔ '<' ∉ chars ∧ rest.Stands :=
  List.forall_mem_cons

theorem stands_aside {content : List Char} {rest : Forest} :
    Stands (.aside content rest) ↔ (Token.aside content).Lexes ∧ rest.Stands :=
  List.forall_mem_cons

theorem stands_empty {content : List Char} {rest : Forest} :
    Stands (.empty content rest) ↔ (Token.empty content).Lexes ∧ rest.Stands :=
  List.forall_mem_cons

theorem stands_element {content : List Char} {inner : Forest} {close : List Char}
    {closed : endNameOf close = nameOf content} {rest : Forest} :
    Stands (.element content inner close closed rest) ↔
      (Token.start content).Lexes ∧ inner.Stands ∧ (Token.close close).Lexes ∧ rest.Stands := by
  simp only [Stands, tokens, List.forall_mem_cons, List.forall_mem_append]
  rfl

/-- All pieces are well-formed, and the texts are no markup. -/
def Written : Forest → Prop
  | .nil => True
  | .text chars rest => '<' ∉ chars ∧ rest.Written
  | .aside content rest => WrittenAside content ∧ rest.Written
  | .empty content rest =>
    (Guarded content ∧ BeginsTag content ∧ content ≠ []) ∧ rest.Written
  | .element content inner close _ rest =>
    (Guarded content ∧ BeginsTag content ∧ content.getLast? ≠ some '/') ∧ inner.Written ∧
      Guarded close ∧ rest.Written

theorem Written.stands {f : Forest} (written : f.Written) : f.Stands := by
  induction f with
  | nil => exact stands_nil
  | text chars rest ih => exact stands_text.mpr ⟨written.1, ih written.2⟩
  | aside content rest ih => exact stands_aside.mpr ⟨written.1.lexes, ih written.2⟩
  | empty content rest ih =>
    obtain ⟨⟨guarded, begins, named⟩, rest⟩ := written
    exact stands_empty.mpr ⟨lexes_empty guarded begins named, ih rest⟩
  | element content inner close closed rest ihInner ih =>
    obtain ⟨⟨guarded, begins, unended⟩, inside, guardedClose, rest⟩ := written
    exact stands_element.mpr
      ⟨lexes_start guarded begins unended, ihInner inside, lexes_close guardedClose, ih rest⟩

end Forest

/-- The same pieces without the text that they begin with. -/
theorem exists_scan_dropWhile {text : List Char} {f : Forest}
    (divided : scan text = ⟨f.tokens, .complete⟩) :
    ∃ g : Forest, scan (text.dropWhile (· != '<')) = ⟨g.tokens, .complete⟩ ∧
      ∀ chosen, g.outermost chosen = f.outermost chosen := by
  cases text with
  | nil => exact ⟨f, divided, fun _ => rfl⟩
  | cons c text =>
    by_cases angle : c = '<'
    · subst angle
      exact ⟨f, divided, fun _ => rfl⟩
    · rw [scan_text angle] at divided
      obtain ⟨tokens, complete⟩ := Scan.mk.inj divided
      cases f with
      | text chars rest =>
        refine ⟨rest, ?_, fun _ => rfl⟩
        rw [List.dropWhile_cons_of_pos (by simpa using angle)]
        exact congrArg₂ Scan.mk (List.cons.inj tokens).2 complete
      | nil => cases tokens
      | aside content rest => cases tokens
      | empty content rest => cases tokens
      | element content inner close closed rest => cases tokens

/-- Pieces that nest are found again. Only texts that stand side by side become one. -/
theorem exists_scan_source {f : Forest} (stands : f.Stands) :
    ∃ g : Forest, scan f.source = ⟨g.tokens, .complete⟩ ∧
      ∀ chosen, g.outermost chosen = f.outermost chosen := by
  induction f with
  | nil => exact ⟨.nil, by simp [scan, Forest.tokens], fun _ => rfl⟩
  | text chars rest ih =>
    obtain ⟨plain, behind⟩ := Forest.stands_text.mp stands
    obtain ⟨g, divided, same⟩ := ih behind
    cases chars with
    | nil => exact ⟨g, divided, same⟩
    | cons c chars =>
      rw [List.mem_cons, not_or] at plain
      have unmarked : ∀ d ∈ chars, (d != '<') = true := by
        intro d member
        rw [bne_iff_ne]
        rintro rfl
        exact plain.2 member
      -- The text takes up the one that stands behind it, if there is one.
      obtain ⟨g', divided', same'⟩ := exists_scan_dropWhile divided
      refine ⟨.text (c :: (chars ++ rest.source).takeWhile (· != '<')) g', ?_, ?_⟩
      · rw [Forest.source_text, Token.source, List.cons_append, scan_text (Ne.symm plain.1),
          List.dropWhile_append_of_pos unmarked, divided']
        rfl
      · exact fun chosen => (same' chosen).trans (same chosen)
  | aside content rest ih =>
    obtain ⟨lexes, behind⟩ := Forest.stands_aside.mp stands
    obtain ⟨g, divided, same⟩ := ih behind
    refine ⟨.aside content g, ?_, same⟩
    rw [Forest.source_aside, lexes.scan_append, divided]
    rfl
  | empty content rest ih =>
    obtain ⟨lexes, behind⟩ := Forest.stands_empty.mp stands
    obtain ⟨g, divided, same⟩ := ih behind
    refine ⟨.empty content g, ?_, fun chosen => by simp only [Forest.outermost, same]⟩
    rw [Forest.source_empty, lexes.scan_append, divided]
    rfl
  | element content inner close closed rest ihInner ih =>
    obtain ⟨starts, inside, ends, behind⟩ := Forest.stands_element.mp stands
    obtain ⟨held, dividedInner, sameInner⟩ := ihInner inside
    obtain ⟨g, divided, same⟩ := ih behind
    -- Both tags are markup, so no text inside or behind the element joins them.
    have complete : (scan inner.source).ending = .complete := by rw [dividedInner]
    have whole : held.source = inner.source := by
      rw [← sourceOf_scan complete, dividedInner]
      rfl
    refine ⟨.element content held close closed g, ?_, ?_⟩
    · rw [Forest.source_element, starts.scan_append,
        scan_append_of_stops complete (ends.stops _), ends.scan_append, dividedInner, divided]
      rfl
    · intro chosen
      simp only [Forest.outermost, same, sameInner, whole]

end ImageRefs.Markup
