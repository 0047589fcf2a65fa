import ImageRefs.Bytes

/-!
UTF-8. `pieces` divides any byte sequence into encoded characters and maximal ill-formed parts
without losing a byte; strict and lossy decoding read off that division.
-/

set_option autoImplicit false

namespace ImageRefs.Text.Utf8

def encodeChar (c : Char) : Bytes :=
  let n := c.toNat
  if n < 0x80 then
    [UInt8.ofNat n]
  else if n < 0x800 then
    [UInt8.ofNat (0xC0 + n / 0x40), UInt8.ofNat (0x80 + n % 0x40)]
  else if n < 0x10000 then
    [UInt8.ofNat (0xE0 + n / 0x1000), UInt8.ofNat (0x80 + n / 0x40 % 0x40),
      UInt8.ofNat (0x80 + n % 0x40)]
  else
    [UInt8.ofNat (0xF0 + n / 0x40000), UInt8.ofNat (0x80 + n / 0x1000 % 0x40),
      UInt8.ofNat (0x80 + n / 0x40 % 0x40), UInt8.ofNat (0x80 + n % 0x40)]

def encode (text : List Char) : Bytes :=
  text.flatMap encodeChar

/-- How many bytes a text takes. -/
def size : List Char → Nat
  | [] => 0
  | c :: rest => c.utf8Size + size rest

@[simp] theorem size_nil : size [] = 0 := rfl

@[simp] theorem size_cons (c : Char) (rest : List Char) :
    size (c :: rest) = c.utf8Size + size rest := rfl

@[simp] theorem size_append (first second : List Char) :
    size (first ++ second) = size first + size second := by
  induction first with
  | nil => simp
  | cons c first ih =>
    rw [List.cons_append, size_cons, size_cons, ih, Nat.add_assoc]

/-- How many bytes an encoded character takes that starts with this one; 0 if none does. -/
def width (lead : UInt8) : Nat :=
  if lead < 0x80 then 1
  else if lead < 0xC2 then 0
  else if lead < 0xE0 then 2
  else if lead < 0xF0 then 3
  else if lead < 0xF5 then 4
  else 0

def isContinuation (b : UInt8) : Bool :=
  0x80 ≤ b && b < 0xC0

/-- Some lead bytes narrow the range of the byte after them: otherwise a character would have a
longer form than needed, be a surrogate or lie above the last code point. -/
def mayFollow (lead b : UInt8) : Bool :=
  isContinuation b &&
    (lead != 0xE0 || 0xA0 ≤ b) && (lead != 0xED || b < 0xA0) &&
    (lead != 0xF0 || 0x90 ≤ b) && (lead != 0xF4 || b < 0x90)

inductive Piece where
  | scalar (c : Char)
  /-- A maximal ill-formed part, one to three bytes. -/
  | illFormed (bytes : Bytes)
  /-- The start of a character that the end of the input cuts off. -/
  | cut (bytes : Bytes)
  deriving DecidableEq, Repr

def Piece.bytes : Piece → Bytes
  | .scalar c => encodeChar c
  | .illFormed bytes => bytes
  | .cut bytes => bytes

/-- The low six bits. -/
def payload (b : UInt8) : Nat :=
  b.toNat % 0x40

/-- The piece that starts with `lead`, and the bytes after it. -/
def next (lead : UInt8) (rest : Bytes) : Piece × Bytes :=
  match width lead with
  | 0 => (.illFormed [lead], rest)
  | 1 => (.scalar (Char.ofNat lead.toNat), rest)
  | more + 2 =>
    match rest with
    | [] => (.cut [lead], [])
    | b :: rest =>
      if !mayFollow lead b then
        (.illFormed [lead], b :: rest)
      else if more = 0 then
        (.scalar (Char.ofNat (lead.toNat % 0x20 * 0x40 + payload b)), rest)
      else
        match rest with
        | [] => (.cut [lead, b], [])
        | c :: rest =>
          if !isContinuation c then
            (.illFormed [lead, b], c :: rest)
          else if more = 1 then
            (.scalar (Char.ofNat (lead.toNat % 0x10 * 0x1000 + payload b * 0x40 + payload c)),
              rest)
          else
            match rest with
            | [] => (.cut [lead, b, c], [])
            | d :: rest =>
              if !isContinuation d then
                (.illFormed [lead, b, c], d :: rest)
              else
                (.scalar (Char.ofNat
                  (lead.toNat % 0x08 * 0x40000 + payload b * 0x1000 + payload c * 0x40 +
                    payload d)), rest)

theorem length_next_le (lead : UInt8) (rest : Bytes) :
    (next lead rest).2.length ≤ rest.length := by
  unfold next
  split <;> try exact Nat.le_refl _
  split
  · exact Nat.le_refl _
  next b rest =>
    split
    · exact Nat.le_refl _
    split
    · simp
    split
    · simp
    next c rest =>
      split
      · simp
      split
      · simp; omega
      split
      · simp
      next d rest =>
        split
        · simp
        · simp; omega

def pieces : Bytes → List Piece
  | [] => []
  | lead :: rest => (next lead rest).1 :: pieces (next lead rest).2
termination_by bytes => bytes.length
decreasing_by exact Nat.lt_succ_of_le (length_next_le lead rest)

/-- Where decoding stops: after so many good bytes, at a part that is ill-formed or cut off. -/
structure Failure where
  offset : Nat
  /-- The size of the ill-formed part; none if the input ends inside a character. -/
  width? : Option Nat
  deriving DecidableEq, Repr

def Failure.message : Failure → String
  | ⟨offset, some width⟩ => s!"invalid utf-8 sequence of {width} bytes from index {offset}"
  | ⟨offset, none⟩ => s!"incomplete utf-8 byte sequence from index {offset}"

/-- Collects the characters of the pieces, which start after `offset` bytes. -/
def collect (offset : Nat) : List Piece → Except Failure (List Char)
  | [] => .ok []
  | .scalar c :: rest => do
    let text ← collect (offset + c.utf8Size) rest
    return c :: text
  | .illFormed bytes :: _ => .error ⟨offset, some bytes.length⟩
  | .cut _ :: _ => .error ⟨offset, none⟩

def decode (bytes : Bytes) : Except Failure (List Char) :=
  collect 0 (pieces bytes)

/-- What stands for a part that is not a character. -/
def replacement : Char := '\uFFFD'

def Piece.shown : Piece → Char
  | .scalar c => c
  | .illFormed _ => replacement
  | .cut _ => replacement

def decodeLossy (bytes : Bytes) : List Char :=
  (pieces bytes).map Piece.shown

end ImageRefs.Text.Utf8
