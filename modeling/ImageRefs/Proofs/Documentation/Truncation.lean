import ImageRefs.Proofs.Documentation.Acceptance
import ImageRefs.Proofs.Markup.Cut
import ImageRefs.Proofs.Text.Utf8

/-!
Documentation files that were not written to their end. A file that breaks off inside of an element
is malformed, wherever it breaks off: either its bytes end within a character, or its text ends
within a piece of markup, or its pieces leave an element open.
-/

set_option autoImplicit false

namespace ImageRefs.Documentation

open Markup Outcome Text

/-! ### Marks -/

theorem exists_mark (text : List Char) : ∃ mark, text = mark ++ dropMark text := by
  unfold dropMark
  split
  next rest => exact ⟨['\uFEFF'], rfl⟩
  · exact ⟨[], rfl⟩

theorem size_dropMark_le (text : List Char) : Utf8.size (dropMark text) ≤ Utf8.size text := by
  obtain ⟨mark, split⟩ := exists_mark text
  have sizes := congrArg Utf8.size split
  rw [Utf8.size_append] at sizes
  omega

theorem dropMark_append {text : List Char} (begun : text ≠ []) (more : List Char) :
    dropMark (text ++ more) = dropMark text ++ more := by
  obtain ⟨c, rest, rfl⟩ := List.exists_cons_of_ne_nil begun
  by_cases mark : c = '\uFEFF'
  · subst mark
    rfl
  · have kept : ∀ tail, dropMark (c :: tail) = c :: tail := by
      intro tail
      unfold dropMark
      split
      next same => exact absurd (List.cons.inj same).1 mark
      · rfl
    rw [List.cons_append, kept, kept]
    rfl

/-- A text that reaches beyond its marks has lost them all, and goes on as before. -/
theorem dropMarks_append {cut more marks : List Char}
    (marked : cut ++ more = marks ++ dropMark (dropMark (cut ++ more)))
    (reaches : Utf8.size marks < Utf8.size cut) :
    dropMark (dropMark (cut ++ more)) = dropMark (dropMark cut) ++ more ∧
      cut = marks ++ dropMark (dropMark cut) := by
  have begun : cut ≠ [] := by
    rintro rfl
    simp at reaches
  have first := dropMark_append begun more
  have goesOn : dropMark cut ≠ [] := by
    -- Otherwise the part is one mark, and the marks of the whole text are no shorter.
    intro ended
    rw [ended] at first
    have sizes := congrArg Utf8.size marked
    rw [first, Utf8.size_append, Utf8.size_append, List.nil_append] at sizes
    have smaller := size_dropMark_le more
    omega
  have second : dropMark (dropMark (cut ++ more)) = dropMark (dropMark cut) ++ more := by
    rw [first, dropMark_append goesOn]
  refine ⟨second, ?_⟩
  rw [second, ← List.append_assoc] at marked
  exact List.append_cancel_right marked

/-! ### Elements of a file -/

/-- An element of a file that lies in no other one, and what stands before it. -/
structure TopLevel (bytes : Bytes) where
  text : List Char
  marks : List Char
  before : Forest
  element : Forest
  later : List Token
  decoded : Utf8.decode bytes = .ok text
  marked : text = marks ++ dropMark (dropMark text)
  divided : (scan (dropMark (dropMark text))).tokens =
    before.tokens ++ (element.tokens ++ later)
  isElement : element.IsElement

namespace TopLevel

variable {bytes : Bytes}

/-- How many bytes stand before the `<` that opens the element. -/
def start (e : TopLevel bytes) : Nat :=
  Utf8.size (e.marks ++ e.before.source)

/-- How many bytes it takes to reach behind the `>` that completes the element. -/
def stop (e : TopLevel bytes) : Nat :=
  Utf8.size (e.marks ++ (e.before.source ++ e.element.source))

/-- A part of a file that is read ends outside of the element. -/
theorem outside_of_readBytes {part : Bytes} {members : Members} (e : TopLevel bytes)
    (cut : part <+: bytes) (read : readBytes part = .ok members) :
    part.length ≤ e.start ∨ e.stop ≤ part.length := by
  obtain ⟨missing, rfl⟩ := cut
  unfold readBytes at read
  split at read
  · cases read
  next text decoded =>
    obtain ⟨more, -, whole⟩ := Utf8.exists_of_decode_append decoded e.decoded
    have length := Utf8.size_of_decode decoded
    rw [← length]
    by_cases reaches : Utf8.size e.marks < Utf8.size text
    · -- What was read nests, so no element is open where it ends.
      obtain ⟨goesOn, same⟩ := dropMarks_append (whole ▸ e.marked) reaches
      obtain ⟨complete, front, divided⟩ := exists_forest_of_readText read
      have pieces := e.divided
      rw [whole, goesOn] at pieces
      have size := congrArg Utf8.size same
      rw [Utf8.size_append] at size
      unfold start stop
      rw [Utf8.size_append, Utf8.size_append]
      rcases cut_before_or_behind complete divided e.isElement pieces with before | behind
      · have smaller := Utf8.size_le_of_prefix before
        left
        omega
      · have greater := Utf8.size_le_of_prefix behind
        right
        omega
    · left
      unfold start
      rw [Utf8.size_append]
      omega

/-- A file that breaks off inside of an element is malformed, whatever would have followed. -/
theorem parseBytes_cut_malformed {part : Bytes} (e : TopLevel bytes) (cut : part <+: bytes)
    (opened : e.start < part.length) (incomplete : part.length < e.stop) :
    ∃ message, parseBytes part = .error (.malformed message none) := by
  unfold parseBytes
  cases read : readBytes part with
  | error fault => exact ⟨fault.message, rfl⟩
  | ok members =>
    have outside := e.outside_of_readBytes cut read
    omega

def accented : TopLevel (Utf8.encode "<d>é</d>".toList) where
  text := "<d>é</d>".toList
  marks := []
  before := .nil
  element := .element ['d'] (.text ['é'] .nil) ['d'] rfl .nil
  later := []
  decoded := by decide +kernel
  marked := rfl
  divided := by decide +kernel
  isElement := .element ..

/-- The file is read as a whole, but not without the second byte of its `é`. -/
theorem accented_cut_in_character :
    let bytes := Utf8.encode "<d>é</d>".toList
    parseBytes bytes = .ok {} ∧ accented.start < (bytes.take 4).length ∧
      (bytes.take 4).length < accented.stop ∧
      ∃ message, parseBytes (bytes.take 4) = .error (.malformed message none) := by
  have whole : parseBytes (Utf8.encode "<d>é</d>".toList) = .ok {} := by decide +kernel
  intro bytes
  have opened : accented.start < (bytes.take 4).length := by decide
  have incomplete : (bytes.take 4).length < accented.stop := by decide
  refine ⟨whole, opened, incomplete, ?_⟩
  exact accented.parseBytes_cut_malformed (List.take_prefix 4 bytes) opened incomplete

end TopLevel

end ImageRefs.Documentation
