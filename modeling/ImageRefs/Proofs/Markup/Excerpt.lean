import ImageRefs.Proofs.Markup.Written
import ImageRefs.Proofs.Text.Trim

/-!
Parts of a text that was divided. Each of its pieces is complete without what stood behind it, so
the text between the tags of an element can be put elsewhere, also without white space at its ends.
-/

set_option autoImplicit false

namespace ImageRefs.Markup

open Text

variable {text content rest : List Char}

/-! ### The ends of markup -/

theorem upTo_front {ends : List Char → Bool} {seen : List Char}
    (h : upTo ends seen text = some (content, rest)) :
    ∃ front, text = front ++ rest ∧ upTo ends seen front = some (content, []) := by
  induction text generalizing seen with
  | nil => cases h
  | cons c text ih =>
    simp only [upTo] at h
    split at h
    next stops =>
      cases h
      exact ⟨[c], rfl, by rw [upTo, if_pos stops]⟩
    next goesOn =>
      obtain ⟨front, rfl, found⟩ := ih h
      exact ⟨c :: front, rfl, by rw [upTo, if_neg goesOn, found]⟩

theorem upToBalanced_front {depth : Nat} {seen : List Char}
    (h : upToBalanced depth seen text = some (content, rest)) :
    ∃ front, text = front ++ rest ∧ upToBalanced depth seen front = some (content, []) := by
  fun_induction upToBalanced depth seen text with
  | case1 => cases h
  | case2 depth seen text ih =>
    obtain ⟨front, rfl, found⟩ := ih h
    exact ⟨'<' :: front, rfl, found⟩
  | case3 seen text =>
    cases h
    exact ⟨['>'], rfl, rfl⟩
  | case4 seen text depth ih =>
    obtain ⟨front, rfl, found⟩ := ih h
    exact ⟨'>' :: front, rfl, found⟩
  | case5 depth seen c text notOpen notClose ih =>
    obtain ⟨front, rfl, found⟩ := ih h
    refine ⟨c :: front, rfl, ?_⟩
    rw [upToBalanced]
    · exact found
    · exact notOpen
    · exact notClose

theorem upToTagEnd_front {quote? : Option Char} {seen : List Char}
    (h : upToTagEnd quote? seen text = some (content, rest)) :
    ∃ front, text = front ++ rest ∧ upToTagEnd quote? seen front = some (content, []) := by
  induction text generalizing quote? seen with
  | nil => cases h
  | cons c text ih =>
    simp only [upToTagEnd] at h
    split at h
    next quote =>
      obtain ⟨front, rfl, found⟩ := ih h
      exact ⟨c :: front, rfl, found⟩
    next =>
      split at h
      next stops =>
        cases h
        exact ⟨[c], rfl, by simp only [upToTagEnd, if_pos stops]⟩
      next goesOn =>
        obtain ⟨front, rfl, found⟩ := ih h
        exact ⟨c :: front, rfl, by simp only [upToTagEnd, if_neg goesOn, found]⟩

/-! ### One piece -/

/-- Markup that ends within a text has its whole opening before that end. -/
theorem bounded_front {opening tail : List Char} (absent : '>' ∉ opening) {unended : TokenFault}
    {split : List Char → Option (List Char × List Char)}
    {check : List Char → Except TokenFault Token} {token : Token}
    (fronts : ∀ content, split (opening ++ tail) = some (content, rest) →
      ∃ front, opening ++ tail = front ++ rest ∧ split front = some (content, []))
    (covers : ∀ front content, split front = some (content, []) → front = content ++ ['>'])
    (h : Lexeme.bounded unended (opening ++ tail) (split (opening ++ tail)) check =
      .token token rest) :
    ∃ more, tail = more ++ rest ∧
      Lexeme.bounded unended (opening ++ more) (split (opening ++ more)) check =
        .token token [] := by
  obtain ⟨content, found, accepted⟩ := Lexeme.token_of_bounded h
  obtain ⟨front, same, found⟩ := fronts content found
  rcases List.append_eq_append_iff.mp same with ⟨more, rfl, behind⟩ | ⟨more, short, -⟩
  · exact ⟨more, behind, by simp only [Lexeme.bounded, found, accepted]⟩
  · have ends : '>' ∈ front := by simp [covers front content found]
    exact absurd (by simp [short, ends]) absent

/-- Markup is complete without what stands behind it. -/
theorem markup_front {token : Token} (h : markup text = .token token rest) :
    ∃ front, text = front ++ rest ∧ markup front = .token token [] := by
  unfold markup at h
  split at h
  next tail =>
    obtain ⟨more, rfl, found⟩ := bounded_front (by decide : '>' ∉ ['!', '['])
      (fun _ => upTo_front) (fun _ _ => source_of_upTo) h
    exact ⟨'!' :: '[' :: more, rfl, found⟩
  next tail =>
    obtain ⟨more, rfl, found⟩ := bounded_front (by decide : '>' ∉ ['!', '-'])
      (fun _ => upTo_front) (fun _ _ => source_of_upTo) h
    exact ⟨'!' :: '-' :: more, rfl, found⟩
  next tail =>
    obtain ⟨more, rfl, found⟩ := bounded_front (by decide : '>' ∉ ['!', 'D'])
      (fun _ => upToBalanced_front) (fun _ _ => source_of_upToBalanced) h
    exact ⟨'!' :: 'D' :: more, rfl, found⟩
  next tail =>
    obtain ⟨more, rfl, found⟩ := bounded_front (by decide : '>' ∉ ['!', 'd'])
      (fun _ => upToBalanced_front) (fun _ _ => source_of_upToBalanced) h
    exact ⟨'!' :: 'd' :: more, rfl, found⟩
  next => cases h
  next tail =>
    obtain ⟨more, rfl, found⟩ := bounded_front (by decide : '>' ∉ ['?'])
      (fun _ => upTo_front) (fun _ _ => source_of_upTo) h
    exact ⟨'?' :: more, rfl, found⟩
  next text cdata comment doctype doctype' declaration instruction =>
    obtain ⟨content, found, accepted⟩ := Lexeme.token_of_bounded h
    obtain ⟨front, rfl, alone⟩ := upToTagEnd_front found
    cases front with
    | nil => cases alone
    | cons c front =>
      have notDeclaration : c ≠ '!' := fun same => declaration (front ++ rest) (by rw [same]; rfl)
      have notInstruction : c ≠ '?' := fun same => instruction (front ++ rest) (by rw [same]; rfl)
      refine ⟨c :: front, rfl, ?_⟩
      rw [markup_tag notDeclaration notInstruction]
      simp only [Lexeme.bounded, alone, accepted]

theorem checkDoctype_ne_text (content chars : List Char) :
    checkDoctype content ≠ .ok (.text chars) := by
  unfold checkDoctype
  split
  · nofun
  · split <;> nofun

theorem checkTag_ne_text (content chars : List Char) : checkTag content ≠ .ok (.text chars) := by
  unfold checkTag
  split
  · nofun
  · split <;> nofun

theorem bounded_ne_text {unended : TokenFault} {split : Option (List Char × List Char)}
    {check : List Char → Except TokenFault Token} {chars : List Char}
    (checks : ∀ content, check content ≠ .ok (.text chars)) :
    Lexeme.bounded unended text split check ≠ .token (.text chars) rest := by
  intro h
  obtain ⟨content, -, accepted⟩ := Lexeme.token_of_bounded h
  exact checks content accepted

/-- No markup is taken for a text. -/
theorem markup_ne_text (chars : List Char) : markup text ≠ .token (.text chars) rest := by
  unfold markup
  split
  · exact bounded_ne_text fun content => by unfold checkCdata; split <;> nofun
  · exact bounded_ne_text fun content => by unfold checkComment; split <;> nofun
  · exact bounded_ne_text fun content => checkDoctype_ne_text content chars
  · exact bounded_ne_text fun content => checkDoctype_ne_text content chars
  · nofun
  · exact bounded_ne_text fun content => by unfold checkInstruction; split <;> nofun
  · exact bounded_ne_text fun content => checkTag_ne_text content chars

/-- Each piece that a text is divided into is found again wherever it stands. -/
theorem stands_of_mem_scan {token : Token} (member : token ∈ (scan text).tokens) :
    token.Stands := by
  fun_induction scan text with
  | case1 => cases member
  | case3 => cases member
  | case2 c rest first after found division ih =>
    rcases List.mem_cons.mp member with rfl | member
    · unfold lexeme at found
      split at found
      next angle =>
        obtain ⟨front, -, alone⟩ := markup_front found
        have source := source_of_markup alone
        rw [List.append_nil] at source
        have lexes : token.Lexes := ⟨front, source, alone⟩
        cases token with
        | text chars => exact absurd found (markup_ne_text chars)
        | _ => exact lexes
      next other =>
        cases found
        intro angle
        rcases List.mem_cons.mp angle with same | angle
        · exact other same.symm
        · exact absurd (List.mem_takeWhile_imp angle) (by simp)
    · exact ih member

/-! ### Elements -/

namespace Forest

variable {f : Forest}

/-- What stands between the tags of an element is made of pieces of the text. -/
theorem exists_of_outermost {chosen : List Char → Bool} {e : Element}
    (member : e ∈ f.outermost chosen) : ∃ g : Forest, g.source = e.body ∧ g.tokens ⊆ f.tokens := by
  induction f with
  | nil => cases member
  | text chars rest ih =>
    obtain ⟨g, source, among⟩ := ih member
    exact ⟨g, source, List.subset_cons_of_subset _ among⟩
  | aside content rest ih =>
    obtain ⟨g, source, among⟩ := ih member
    exact ⟨g, source, List.subset_cons_of_subset _ among⟩
  | empty content rest ih =>
    simp only [outermost] at member
    split at member
    · rcases List.mem_cons.mp member with rfl | member
      · exact ⟨.nil, rfl, List.nil_subset _⟩
      · obtain ⟨g, source, among⟩ := ih member
        exact ⟨g, source, List.subset_cons_of_subset _ among⟩
    · obtain ⟨g, source, among⟩ := ih member
      exact ⟨g, source, List.subset_cons_of_subset _ among⟩
  | element content inner close closed rest ihInner ih =>
    have inside : inner.tokens ⊆ tokens (.element content inner close closed rest) :=
      List.subset_cons_of_subset _ (List.subset_append_left _ _)
    have behind : rest.tokens ⊆ tokens (.element content inner close closed rest) :=
      List.subset_cons_of_subset _
        (List.subset_append_of_subset_right _ (List.subset_cons_self _ _))
    simp only [outermost] at member
    split at member
    · rcases List.mem_cons.mp member with rfl | member
      · exact ⟨inner, rfl, inside⟩
      · obtain ⟨g, source, among⟩ := ih member
        exact ⟨g, source, List.Subset.trans among behind⟩
    · rcases List.mem_append.mp member with member | member
      · obtain ⟨g, source, among⟩ := ihInner member
        exact ⟨g, source, List.Subset.trans among inside⟩
      · obtain ⟨g, source, among⟩ := ih member
        exact ⟨g, source, List.Subset.trans among behind⟩

/-! ### Trimming -/

theorem trimStart_lexes {token : Token} (lexes : token.Lexes) (rest : List Char) :
    trimStart (token.source ++ rest) = token.source ++ rest := by
  obtain ⟨text, source, -⟩ := lexes
  rw [source]
  exact trimStart_visible (by decide) _

/-- Trimming takes white space from texts only, since markup begins with none. -/
theorem exists_trimStart (stands : f.Stands) :
    ∃ g : Forest, g.Stands ∧ g.source = trimStart f.source := by
  induction f with
  | nil => exact ⟨.nil, stands_nil, rfl⟩
  | text chars rest ih =>
    obtain ⟨plain, behind⟩ := stands_text.mp stands
    by_cases blank : trimStart chars = []
    · obtain ⟨g, standing, source⟩ := ih behind
      exact ⟨g, standing, source.trans (trimStart_append_of_eq_nil blank).symm⟩
    · refine ⟨.text (trimStart chars) rest, stands_text.mpr ⟨?_, behind⟩, ?_⟩
      · exact fun angle => plain ((List.dropWhile_sublist _).subset angle)
      · exact (trimStart_append_of_ne_nil blank).symm
  | aside content rest ih =>
    exact ⟨_, stands, (trimStart_lexes (stands_aside.mp stands).1 _).symm⟩
  | empty content rest ih =>
    exact ⟨_, stands, (trimStart_lexes (stands_empty.mp stands).1 _).symm⟩
  | element content inner close closed rest ihInner ih =>
    refine ⟨_, stands, ?_⟩
    rw [source_element]
    exact (trimStart_lexes (stands_element.mp stands).1 _).symm

/-- Markup ends with no white space. -/
theorem trimEnd_append_markup (token : Token) (markup : ∀ chars, token ≠ .text chars)
    (front rest : List Char) :
    trimEnd (front ++ (token.source ++ rest)) = front ++ (token.source ++ trimEnd rest) := by
  have ends : ∃ piece, token.source = piece ++ ['>'] := by
    cases token with
    | text chars => exact absurd rfl (markup chars)
    | aside content => exact ⟨'<' :: content, rfl⟩
    | start content => exact ⟨'<' :: content, rfl⟩
    | empty content => exact ⟨'<' :: content ++ ['/'], by simp [Token.source]⟩
    | close content => exact ⟨'<' :: '/' :: content, rfl⟩
  obtain ⟨piece, source⟩ := ends
  rw [source]
  simpa using trimEnd_visible (c := '>') (by decide) (front ++ piece) rest

theorem exists_trimEnd (stands : f.Stands) :
    ∃ g : Forest, g.Stands ∧ g.source = trimEnd f.source := by
  induction f with
  | nil => exact ⟨.nil, stands_nil, rfl⟩
  | text chars rest ih =>
    obtain ⟨plain, behind⟩ := stands_text.mp stands
    by_cases blank : trimEnd rest.source = []
    · refine ⟨.text (trimEnd chars) .nil, stands_text.mpr ⟨?_, stands_nil⟩, ?_⟩
      · exact fun angle => plain ((List.rdropWhile_prefix isBlank (l := chars)).subset angle)
      · rw [source_text, source_text, Token.source, Token.source, trimEnd_append_of_eq_nil blank,
          source_nil, List.append_nil]
    · obtain ⟨g, standing, source⟩ := ih behind
      refine ⟨.text chars g, stands_text.mpr ⟨plain, standing⟩, ?_⟩
      rw [source_text, source_text, source, trimEnd_append_of_ne_nil blank]
  | aside content rest ih =>
    obtain ⟨lexes, behind⟩ := stands_aside.mp stands
    obtain ⟨g, standing, source⟩ := ih behind
    refine ⟨.aside content g, stands_aside.mpr ⟨lexes, standing⟩, ?_⟩
    have kept := trimEnd_append_markup (.aside content) (by simp) [] rest.source
    rw [source_aside, source_aside, source]
    exact kept.symm
  | empty content rest ih =>
    obtain ⟨lexes, behind⟩ := stands_empty.mp stands
    obtain ⟨g, standing, source⟩ := ih behind
    refine ⟨.empty content g, stands_empty.mpr ⟨lexes, standing⟩, ?_⟩
    have kept := trimEnd_append_markup (.empty content) (by simp) [] rest.source
    rw [source_empty, source_empty, source]
    exact kept.symm
  | element content inner close closed rest ihInner ih =>
    obtain ⟨starts, inside, ends, behind⟩ := stands_element.mp stands
    obtain ⟨g, standing, source⟩ := ih behind
    refine ⟨.element content inner close closed g,
      stands_element.mpr ⟨starts, inside, ends, standing⟩, ?_⟩
    -- The element ends with a tag, so only what follows it can lose something.
    have kept := trimEnd_append_markup (.close close) (by simp)
      ((Token.start content).source ++ inner.source) rest.source
    rw [List.append_assoc, List.append_assoc] at kept
    rw [source_element, source_element, source, kept]

/-- Trimmed markup is markup. -/
theorem exists_trim (stands : f.Stands) : ∃ g : Forest, g.Stands ∧ g.source = trim f.source := by
  obtain ⟨middle, standing, source⟩ := exists_trimStart stands
  obtain ⟨g, standing, trimmed⟩ := exists_trimEnd standing
  exact ⟨g, standing, by rw [trimmed, source, trim]⟩

end Forest

end ImageRefs.Markup
