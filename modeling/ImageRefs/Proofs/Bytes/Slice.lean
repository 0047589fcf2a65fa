import ImageRefs.Metadata
import Mathlib.Data.List.Basic

/-!
Which slices of a byte sequence there are, and that slices of slices are slices. The sums behind a
slice are exact: where machine words would wrap there is no slice. Bytes in memory and bytes that a
file is mapped to are sliced alike.
-/

set_option autoImplicit false

namespace ImageRefs

/-- A sum of words is the exact sum, which has to be a word. -/
theorem wordSum?_eq_some_iff {a b sum : UInt64} :
    wordSum? a b = some sum ↔ a.toNat + b.toNat = sum.toNat := by
  have total : (a + b).toNat = (a.toNat + b.toNat) % 2 ^ 64 := UInt64.toNat_add a b
  have word := sum.toNat_lt
  unfold wordSum?
  split
  next wraps =>
    -- The sum of two words passes the last word once at most, and is then smaller than either.
    rw [UInt64.lt_iff_toNat_lt] at wraps
    constructor
    · exact nofun
    · intro exactly
      omega
  next fits =>
    rw [UInt64.lt_iff_toNat_lt] at fits
    have left := a.toNat_lt
    have right := b.toNat_lt
    rw [Option.some.injEq, ← UInt64.toNat_inj]
    omega

namespace Bytes

/-! ### Parts of a sequence -/

/-- The bytes are found in `whole` behind the first `offset` of it. -/
def StandsAt (part whole : Bytes) (offset : Nat) : Prop :=
  ∃ before after, whole = before ++ (part ++ after) ∧ before.length = offset

variable {part inner whole bytes : Bytes} {offset i : Nat}

theorem StandsAt.length_le (stands : part.StandsAt whole offset) :
    offset + part.length ≤ whole.length := by
  obtain ⟨before, after, rfl, rfl⟩ := stands
  simp only [List.length_append]
  omega

theorem StandsAt.trans (within : inner.StandsAt part i) (stands : part.StandsAt whole offset) :
    inner.StandsAt whole (offset + i) := by
  obtain ⟨front, back, rfl, rfl⟩ := within
  obtain ⟨before, after, rfl, rfl⟩ := stands
  exact ⟨before ++ front, back ++ after, by simp, List.length_append⟩

theorem standsAt_drop_take {length : Nat} (fits : offset + length ≤ whole.length) :
    StandsAt ((whole.drop offset).take length) whole offset := by
  refine ⟨whole.take offset, (whole.drop offset).drop length, ?_, ?_⟩
  · rw [List.take_append_drop, List.take_append_drop]
  · rw [List.length_take]
    omega

/-- Where a part stands and how long it is decide what it is. -/
theorem StandsAt.eq_drop_take (stands : part.StandsAt whole offset) :
    (whole.drop offset).take part.length = part := by
  obtain ⟨before, after, rfl, rfl⟩ := stands
  rw [List.drop_left, List.take_left]

/-! ### Slices -/

variable {start length : UInt64}

/-- No bytes stand beyond the last word, so a sum that is no word selects none. -/
theorem slice?_eq_none_of_size_le (beyond : UInt64.size ≤ start.toNat + length.toNat) :
    bytes.slice? start length = none := by
  have wraps : wordSum? start length = none := by
    apply Option.eq_none_iff_forall_ne_some.mpr
    intro sum found
    have exactly := wordSum?_eq_some_iff.mp found
    have word := sum.toNat_lt_size
    omega
  rw [slice?, wraps]
  rfl

/-- A place within a part, counted from the start of the whole, is a word. -/
theorem StandsAt.toNat_add (stands : part.StandsAt bytes start.toNat)
    (bounded : bytes.length < UInt64.size) {i : UInt64} (within : i.toNat ≤ part.length) :
    (start + i).toNat = start.toNat + i.toNat := by
  have reaches := stands.length_le
  have size : UInt64.size = 2 ^ 64 := rfl
  rw [UInt64.toNat_add]
  exact Nat.mod_eq_of_lt (by omega)

section Bounded

variable (bounded : bytes.length < UInt64.size)
include bounded

/-- A slice is decided by the sum of its offset and its length as numbers without bound. -/
theorem slice?_eq :
    bytes.slice? start length =
      if start.toNat + length.toNat ≤ bytes.length then
        some ((bytes.drop start.toNat).take length.toNat)
      else none := by
  by_cases word : start.toNat + length.toNat < UInt64.size
  · have sum : start.toNat + length.toNat = (start + length).toNat := by
      rw [UInt64.toNat_add, Nat.mod_eq_of_lt word]
    rw [slice?, wordSum?_eq_some_iff.mpr sum, sum]
    rfl
  · rw [slice?_eq_none_of_size_le (Nat.le_of_not_lt word), if_neg (by omega)]

theorem exists_slice?_iff :
    (∃ part, bytes.slice? start length = some part) ↔
      start.toNat + length.toNat ≤ bytes.length := by
  rw [slice?_eq bounded]
  split
  next fits => exact iff_of_true ⟨_, rfl⟩ fits
  next short => exact iff_of_false (fun ⟨_, found⟩ => nomatch found) short

theorem slice?_eq_some_iff :
    bytes.slice? start length = some part ↔
      part.length = length.toNat ∧ part.StandsAt bytes start.toNat := by
  rw [slice?_eq bounded]
  split
  next fits =>
    constructor
    · intro same
      obtain rfl := Option.some.inj same
      refine ⟨?_, standsAt_drop_take fits⟩
      rw [List.length_take, List.length_drop]
      omega
    · rintro ⟨long, stands⟩
      rw [← long, stands.eq_drop_take]
  next short =>
    constructor
    · exact nofun
    · rintro ⟨long, stands⟩
      have reaches := stands.length_le
      omega

/-- A slice of a slice that lies within it is a slice. -/
theorem slice?_slice? (sliced : bytes.slice? start length = some part) {i n : UInt64}
    (within : i.toNat + n.toNat ≤ length.toNat) :
    part.slice? i n = bytes.slice? (start + i) n := by
  obtain ⟨long, stands⟩ := (slice?_eq_some_iff bounded).mp sliced
  have shorter : part.length < UInt64.size := by rw [long]; exact length.toNat_lt_size
  obtain ⟨inner, found⟩ := (exists_slice?_iff shorter).mpr (by rwa [long])
  obtain ⟨size, inside⟩ := (slice?_eq_some_iff shorter).mp found
  have place := stands.toNat_add bounded (i := i) (by omega)
  -- What stands within the slice stands in the whole, and place and length decide what it is.
  have same : bytes.slice? (start + i) n = some inner :=
    (slice?_eq_some_iff bounded).mpr ⟨size, place ▸ inside.trans stands⟩
  rw [found, same]

/-- A slice is cut in two at any place within it. -/
theorem slice?_split (sliced : bytes.slice? start length = some part) {front back : UInt64}
    (whole : front.toNat + back.toNat = length.toNat) :
    ∃ first second, bytes.slice? start front = some first ∧
      bytes.slice? (start + front) back = some second ∧ part = first ++ second := by
  obtain ⟨long, stands⟩ := (slice?_eq_some_iff bounded).mp sliced
  have place := stands.toNat_add bounded (i := front) (by omega)
  have shorter : (part.take front.toNat).length = front.toNat := by
    rw [List.length_take]
    omega
  have first : StandsAt (part.take front.toNat) part 0 := ⟨[], part.drop front.toNat, by simp, rfl⟩
  have second : StandsAt (part.drop front.toNat) part front.toNat :=
    ⟨part.take front.toNat, [], by simp, shorter⟩
  refine ⟨part.take front.toNat, part.drop front.toNat, ?_, ?_, (List.take_append_drop _ _).symm⟩
  · exact (slice?_eq_some_iff bounded).mpr ⟨shorter, first.trans stands⟩
  · refine (slice?_eq_some_iff bounded).mpr ⟨?_, place ▸ second.trans stands⟩
    rw [List.length_drop]
    omega

end Bounded

/-- In a sequence whose length is a word, there is a slice exactly if the unbounded sum of offset
and length stays within the sequence; it then is that many bytes behind the offset, and sums beyond
the words select nothing. A range lies within a slice exactly if its sum stays within the length of the
slice, and then it is the slice of the whole at the sum of the offsets; a slice is its front part
followed by its back part, wherever it is cut. None of these sums wraps. -/
theorem slices_exact_and_compose (bytes : Bytes) (bounded : bytes.length < UInt64.size) :
    (∀ offset length : UInt64,
      ((∃ part, bytes.slice? offset length = some part) ↔
        offset.toNat + length.toNat ≤ bytes.length) ∧
      (∀ part, bytes.slice? offset length = some part ↔
        part.length = length.toNat ∧ part.StandsAt bytes offset.toNat) ∧
      (UInt64.size ≤ offset.toNat + length.toNat → bytes.slice? offset length = none)) ∧
    ∀ (offset length : UInt64) (part : Bytes), bytes.slice? offset length = some part →
      (∀ i n : UInt64,
        ((∃ inner, part.slice? i n = some inner) ↔ i.toNat + n.toNat ≤ length.toNat) ∧
        (i.toNat + n.toNat ≤ length.toNat → (offset + i).toNat = offset.toNat + i.toNat ∧
          part.slice? i n = bytes.slice? (offset + i) n)) ∧
      ∀ front back : UInt64, front.toNat + back.toNat = length.toNat →
        (offset + front).toNat = offset.toNat + front.toNat ∧
        ∃ first second, bytes.slice? offset front = some first ∧
          bytes.slice? (offset + front) back = some second ∧ part = first ++ second := by
  constructor
  · intro offset length
    exact ⟨exists_slice?_iff bounded, fun part => slice?_eq_some_iff bounded,
      slice?_eq_none_of_size_le⟩
  · intro offset length part sliced
    obtain ⟨long, stands⟩ := (slice?_eq_some_iff bounded).mp sliced
    have shorter : part.length < UInt64.size := by rw [long]; exact length.toNat_lt_size
    constructor
    · intro i n
      refine ⟨?_, fun within => ⟨?_, slice?_slice? bounded sliced within⟩⟩
      · rw [exists_slice?_iff shorter, long]
      · exact stands.toNat_add bounded (by omega)
    · intro front back whole
      exact ⟨stands.toNat_add bounded (by omega), slice?_split bounded sliced whole⟩

/-- Three bytes of a mapped file of five: an inner range, the empty range at their end, a cut, the
empty range at the end of the file, and one whose end would wrap to lie before its start. -/
theorem slices_of_mapped_file :
    let bytes : Bytes := [0x4D, 0x5A, 0x90, 0x00, 0xFF]
    let part : Bytes := [0x5A, 0x90, 0x00]
    mapFile ((Disk.empty []).put [[0x61]] (.file bytes)) ⟨[0x61]⟩ = .ok bytes ∧
      bytes.length < UInt64.size ∧ bytes.slice? 1 3 = some part ∧
      part.slice? 1 2 = bytes.slice? 2 2 ∧ part.slice? 3 0 = some [] ∧
      (∃ first second, bytes.slice? 1 1 = some first ∧ bytes.slice? 2 2 = some second ∧
        part = first ++ second) ∧
      bytes.slice? 5 0 = some [] ∧ bytes.slice? 0xFFFFFFFFFFFFFFFF 3 = none := by
  intro bytes part
  have bounded : bytes.length < UInt64.size := by decide
  have sliced : bytes.slice? 1 3 = some part := by decide
  obtain ⟨slices, compose⟩ := slices_exact_and_compose bytes bounded
  obtain ⟨inner, cuts⟩ := compose 1 3 part sliced
  refine ⟨rfl, bounded, sliced, ((inner 1 2).2 (by decide)).2, ?_, (cuts 1 2 (by decide)).2, ?_, ?_⟩
  · rw [((inner 3 0).2 (by decide)).2, (slices _ _).2.1]
    exact ⟨rfl, [0x4D, 0x5A, 0x90, 0x00], [0xFF], rfl, rfl⟩
  · exact ((slices 5 0).2.1 []).mpr ⟨rfl, bytes, [], rfl, rfl⟩
  · exact (slices _ 3).2.2 (by decide)

end Bytes

end ImageRefs
