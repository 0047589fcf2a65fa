import ImageRefs.Proofs.Outcome
import ImageRefs.Text.Utf8
import Mathlib.Data.List.Basic

/-!
Decoding loses nothing and looks no further than it has to: a decoded text takes exactly the bytes
it was decoded from, and bytes that are decoded on their own are decoded to the same characters
when more bytes follow.
-/

set_option autoImplicit false

namespace ImageRefs.Text.Utf8

open Outcome

/-! ### One character -/

theorem toNat_ofValid {n : Nat} (valid : n < 0xD800 ∨ 0xDFFF < n ∧ n < 0x110000) :
    (Char.ofNat n).toNat = n := by
  have isValid : n.isValidChar := valid
  rw [Char.ofNat, dif_pos isValid]
  rfl

theorem length_encodeChar (c : Char) : (encodeChar c).length = c.utf8Size := by
  have value : c.val.toNat = c.toNat := rfl
  unfold encodeChar Char.utf8Size
  simp only [UInt32.le_iff_toNat_le, UInt32.toNat_ofNatLT, value]
  split_ifs <;> simp <;> omega

/-- A byte by its bounds, for each number of bytes that it can announce. -/
theorem bounds_of_width (lead : UInt8) :
    (width lead = 1 → lead.toNat < 0x80) ∧
    (width lead = 2 → 0xC2 ≤ lead.toNat ∧ lead.toNat < 0xE0) ∧
    (width lead = 3 → 0xE0 ≤ lead.toNat ∧ lead.toNat < 0xF0) ∧
    (width lead = 4 → 0xF0 ≤ lead.toNat ∧ lead.toNat < 0xF5) ∧ width lead ≤ 4 := by
  unfold width
  simp only [UInt8.lt_iff_toNat_lt, UInt8.toNat_ofNat]
  split_ifs <;> simp <;> omega

theorem bounds_of_isContinuation {b : UInt8} (h : isContinuation b = true) :
    0x80 ≤ b.toNat ∧ b.toNat < 0xC0 := by
  simpa [isContinuation, UInt8.le_iff_toNat_le, UInt8.lt_iff_toNat_lt] using h

theorem bounds_of_mayFollow {lead b : UInt8} (h : mayFollow lead b = true) :
    (0x80 ≤ b.toNat ∧ b.toNat < 0xC0) ∧ (lead.toNat = 0xE0 → 0xA0 ≤ b.toNat) ∧
      (lead.toNat = 0xED → b.toNat < 0xA0) ∧ (lead.toNat = 0xF0 → 0x90 ≤ b.toNat) ∧
      (lead.toNat = 0xF4 → b.toNat < 0x90) := by
  simp only [mayFollow, Bool.and_eq_true, Bool.or_eq_true, bne_iff_ne, decide_eq_true_eq,
    UInt8.le_iff_toNat_le, UInt8.lt_iff_toNat_lt, ne_eq, ← UInt8.toNat_inj, UInt8.toNat_ofNat] at h
  obtain ⟨⟨⟨⟨continues, e0⟩, ed⟩, f0⟩, f4⟩ := h
  have bounds := bounds_of_isContinuation continues
  omega

/-! ### Its bytes -/

theorem encodeChar_one {lead : UInt8} (one : width lead = 1) :
    encodeChar (Char.ofNat lead.toNat) = [lead] := by
  have bounds := (bounds_of_width lead).1 one
  have code := toNat_ofValid (n := lead.toNat) (by omega)
  simp [encodeChar, code, bounds]

theorem encodeChar_two {lead b : UInt8} (two : width lead = 2) (follows : mayFollow lead b = true) :
    encodeChar (Char.ofNat (lead.toNat % 0x20 * 0x40 + payload b)) = [lead, b] := by
  have bounds := (bounds_of_width lead).2.1 two
  obtain ⟨continues, -⟩ := bounds_of_mayFollow follows
  unfold payload
  have code := toNat_ofValid (n := lead.toNat % 0x20 * 0x40 + b.toNat % 0x40) (by omega)
  unfold encodeChar
  dsimp only
  rw [code, if_neg (by omega), if_pos (by omega)]
  simp only [List.cons.injEq, ← UInt8.toNat_inj, UInt8.toNat_ofNat', and_true]
  omega

theorem encodeChar_three {lead b c : UInt8} (three : width lead = 3)
    (follows : mayFollow lead b = true) (continues : isContinuation c = true) :
    encodeChar (Char.ofNat (lead.toNat % 0x10 * 0x1000 + payload b * 0x40 + payload c)) =
      [lead, b, c] := by
  have bounds := (bounds_of_width lead).2.2.1 three
  have second := bounds_of_mayFollow follows
  have third := bounds_of_isContinuation continues
  unfold payload
  -- The code is no surrogate, since a lead of 0xED keeps the second byte below 0xA0.
  have code := toNat_ofValid
    (n := lead.toNat % 0x10 * 0x1000 + b.toNat % 0x40 * 0x40 + c.toNat % 0x40) (by omega)
  unfold encodeChar
  dsimp only
  rw [code, if_neg (by omega), if_neg (by omega), if_pos (by omega)]
  simp only [List.cons.injEq, ← UInt8.toNat_inj, UInt8.toNat_ofNat', and_true]
  omega

theorem encodeChar_four {lead b c d : UInt8} (four : width lead = 4)
    (follows : mayFollow lead b = true) (third : isContinuation c = true)
    (fourth : isContinuation d = true) :
    encodeChar (Char.ofNat (lead.toNat % 0x08 * 0x40000 + payload b * 0x1000 + payload c * 0x40 +
      payload d)) = [lead, b, c, d] := by
  have bounds := (bounds_of_width lead).2.2.2.1 four
  have second := bounds_of_mayFollow follows
  have third := bounds_of_isContinuation third
  have fourth := bounds_of_isContinuation fourth
  unfold payload
  -- The code is below 0x110000, since a lead of 0xF4 keeps the second byte below 0x90.
  have code := toNat_ofValid (n := lead.toNat % 0x08 * 0x40000 + b.toNat % 0x40 * 0x1000 +
    c.toNat % 0x40 * 0x40 + d.toNat % 0x40) (by omega)
  unfold encodeChar
  dsimp only
  rw [code, if_neg (by omega), if_neg (by omega), if_neg (by omega)]
  simp only [List.cons.injEq, ← UInt8.toNat_inj, UInt8.toNat_ofNat', and_true]
  omega

/-- A character was read from its own bytes, and what stands behind them was not looked at. -/
theorem next_eq_scalar {lead : UInt8} {rest behind : Bytes} {c : Char}
    (h : next lead rest = (.scalar c, behind)) :
    lead :: rest = encodeChar c ++ behind ∧
      ∀ more, next lead (rest ++ more) = (.scalar c, behind ++ more) := by
  unfold next at h
  split at h
  · cases h
  next one =>
    cases h
    exact ⟨by rw [encodeChar_one one]; rfl, fun more => by simp only [next, one]⟩
  next n wide =>
    split at h
    · cases h
    next b rest =>
      split at h
      · cases h
      next follows =>
        rw [Bool.not_eq_true, Bool.not_eq_false'] at follows
        split at h
        next two =>
          cases h
          subst two
          exact ⟨by rw [encodeChar_two wide follows]; rfl,
            fun more => by simp [next, wide, follows]⟩
        next long =>
          split at h
          · cases h
          next c rest =>
            split at h
            · cases h
            next third =>
              rw [Bool.not_eq_true, Bool.not_eq_false'] at third
              split at h
              next three =>
                cases h
                subst three
                exact ⟨by rw [encodeChar_three wide follows third]; rfl,
                  fun more => by simp [next, wide, follows, third]⟩
              next longest =>
                split at h
                · cases h
                next d rest =>
                  split at h
                  · cases h
                  next fourth =>
                    rw [Bool.not_eq_true, Bool.not_eq_false'] at fourth
                    cases h
                    -- No lead announces more than four bytes.
                    have bound := (bounds_of_width lead).2.2.2.2
                    obtain rfl : n = 2 := by omega
                    exact ⟨by rw [encodeChar_four wide follows third fourth]; rfl,
                      fun more => by simp [next, wide, follows, third, fourth]⟩

/-! ### Whole texts -/

theorem collect_eq_ok_iff (offset : Nat) (division : List Piece) (text : List Char) :
    collect offset division = .ok text ↔ division = text.map .scalar := by
  induction division generalizing offset text with
  | nil => cases text <;> simp [collect]
  | cons piece division ih =>
    cases piece with
    | scalar c =>
      constructor
      · intro h
        obtain ⟨later, collected, h⟩ := bind_eq_ok h
        cases h
        rw [(ih _ _).mp collected]
        rfl
      · intro h
        cases text with
        | nil => cases h
        | cons d text =>
          obtain ⟨same, later⟩ := List.cons.inj h
          cases same
          rw [collect, (ih _ _).mpr later]
          rfl
    | illFormed bytes => cases text <;> simp [collect]
    | cut bytes => cases text <;> simp [collect]

theorem decode_eq_ok_iff (bytes : Bytes) (text : List Char) :
    decode bytes = .ok text ↔ pieces bytes = text.map .scalar :=
  collect_eq_ok_iff 0 (pieces bytes) text

/-- A character at a time: its bytes, and the division of what follows. -/
theorem pieces_eq_cons {bytes : Bytes} {c : Char} {division : List Piece}
    (h : pieces bytes = .scalar c :: division) :
    ∃ behind, bytes = encodeChar c ++ behind ∧ pieces behind = division ∧
      ∀ more, pieces (bytes ++ more) = .scalar c :: pieces (behind ++ more) := by
  cases bytes with
  | nil => simp [pieces] at h
  | cons lead rest =>
    rw [pieces] at h
    obtain ⟨first, later⟩ := List.cons.inj h
    have split : next lead rest = (.scalar c, (next lead rest).2) := Prod.ext first rfl
    obtain ⟨whole, onward⟩ := next_eq_scalar split
    refine ⟨(next lead rest).2, whole, later, fun more => ?_⟩
    rw [List.cons_append, pieces, onward more]

/-- A text is encoded as the bytes that it was decoded from. -/
theorem encode_of_decode {bytes : Bytes} {text : List Char} (h : decode bytes = .ok text) :
    encode text = bytes := by
  rw [decode_eq_ok_iff] at h
  induction text generalizing bytes with
  | nil =>
    cases bytes with
    | nil => rfl
    | cons lead rest => simp [pieces] at h
  | cons c text ih =>
    obtain ⟨behind, rfl, later, -⟩ := pieces_eq_cons h
    rw [← ih later]
    rfl

theorem length_encode (text : List Char) : (encode text).length = size text := by
  induction text with
  | nil => rfl
  | cons c text ih =>
    rw [size_cons, ← length_encodeChar, ← ih]
    exact List.length_append

theorem size_of_decode {bytes : Bytes} {text : List Char} (h : decode bytes = .ok text) :
    size text = bytes.length := by
  rw [← length_encode, encode_of_decode h]

theorem size_le_of_prefix {first second : List Char} (h : first <+: second) :
    size first ≤ size second := by
  obtain ⟨rest, rfl⟩ := h
  rw [size_append]
  omega

/-- What is decoded before more bytes follow is the start of what is decoded with them. -/
theorem exists_of_decode_append {front more : Bytes} {text whole : List Char}
    (h : decode front = .ok text) (h' : decode (front ++ more) = .ok whole) :
    ∃ later, decode more = .ok later ∧ whole = text ++ later := by
  rw [decode_eq_ok_iff] at h h'
  -- The characters of the front are read one by one, and each stays the same with more behind it.
  induction text generalizing front whole with
  | nil =>
    cases front with
    | nil => exact ⟨whole, (decode_eq_ok_iff _ _).mpr h', rfl⟩
    | cons lead rest => simp [pieces] at h
  | cons c text ih =>
    obtain ⟨behind, rfl, rest, goesOn⟩ := pieces_eq_cons h
    rw [goesOn more] at h'
    cases whole with
    | nil => cases h'
    | cons d whole =>
      obtain ⟨same, later⟩ := List.cons.inj h'
      cases same
      obtain ⟨last, decoded, rfl⟩ := ih rest later
      exact ⟨last, decoded, rfl⟩

end ImageRefs.Text.Utf8
