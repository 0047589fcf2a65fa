import ImageRefs.Text.Quoted

/-!
File paths as byte sequences. `/` separates components; a repeated `/`, a `/` at the end and a
`.` inside or at the end are not components. A path need not be UTF-8.
-/

set_option autoImplicit false

namespace ImageRefs

structure Path where
  bytes : Bytes
  deriving DecidableEq, Repr

namespace Path

open Text

def slash : UInt8 := 0x2F
def dot : UInt8 := 0x2E

def ofString (text : String) : Path :=
  ⟨Utf8.encode text.toList⟩

/-- The path for a reader: each part that is not UTF-8 shows as U+FFFD. -/
def shown (path : Path) : String :=
  String.ofList (Utf8.decodeLossy path.bytes)

def quoted (path : Path) : String :=
  quotedBytes path.bytes

/-! ### The name of a path -/

/-- The last component and what stands before it, both read backwards. -/
def splitLast (path : Path) : Bytes × Bytes :=
  let reversed := dropTail path.bytes.reverse
  (reversed.takeWhile (· != slash), reversed.dropWhile (· != slash))
where
  /-- Drops what ends the reversed path without being a component. -/
  dropTail : Bytes → Bytes
    | [] => []
    | [b] => if b = slash then [] else [b]
    | b :: c :: rest =>
      if b = slash then dropTail (c :: rest)
      else if b = dot && c = slash then dropTail rest
      else b :: c :: rest

/-- There is no name if the last component is `..`, a lone `.`, the root or missing. -/
def name? (path : Path) : Option Bytes :=
  let name := path.splitLast.1.reverse
  if name = [] || name = [dot] || name = [dot, dot] then none else some name

/-- Everything before the last component. -/
def textBeforeName (path : Path) : Bytes :=
  path.splitLast.2.reverse

/-- The path without its last component. -/
def parent (path : Path) : Path :=
  ⟨(splitLast.dropTail path.splitLast.2).reverse⟩

/-- A name is divided at its last `.`, unless that is its first character. -/
def splitName (name : Bytes) : Bytes × Option Bytes :=
  match name.reverse.dropWhile (· != dot) with
  | [] | [_] => (name, none)
  | _ :: stem => (stem.reverse, some (name.reverse.takeWhile (· != dot)).reverse)

def extension? (path : Path) : Option Bytes :=
  path.name?.bind fun name => (splitName name).2

/-- First as many bytes as the present extension has are dropped at the very end of the path. If
what is left has a name, it is cut right after the stem of that name and extended. -/
def withExtension (path : Path) (extension : Bytes) : Path :=
  let dropped := (path.extension?.getD []).length
  let kept : Path := ⟨path.bytes.take (path.bytes.length - dropped)⟩
  match kept.name? with
  | none => kept
  | some name => ⟨kept.textBeforeName ++ (splitName name).1 ++ dot :: extension⟩

/-! ### The way a path describes -/

def components (path : Path) : List Bytes :=
  (path.bytes.splitOnP (· == slash)).filter (· ≠ [])

def isAbsolute (path : Path) : Bool :=
  path.bytes.head? == some slash

/-- A path with `/` at its end can only name a directory. -/
def namesDirectory (path : Path) : Bool :=
  path.bytes.getLast? == some slash

end Path

end ImageRefs
