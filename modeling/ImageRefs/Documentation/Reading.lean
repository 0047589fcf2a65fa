import ImageRefs.Disk
import ImageRefs.Documentation.Members
import ImageRefs.Markup.Attribute
import ImageRefs.Markup.Entity
import ImageRefs.Markup.Scan
import ImageRefs.Metadata
import ImageRefs.Text.Blank

/-!
Reading a documentation file. The tokens of the file are taken one by one: outside of members only
the nesting of elements matters; the body of a member is kept as it is written until the end tag of
the member. Members inside of a member are part of its body.
-/

set_option autoImplicit false

namespace ImageRefs.Documentation

open Markup Text

/-! ### Faults -/

inductive MarkupFault where
  | token (fault : TokenFault)
  | nesting (fault : NestingFault)
  deriving DecidableEq, Repr

def MarkupFault.message : MarkupFault → String
  | .token fault => fault.message
  | .nesting fault => fault.message

/-- Why a text is not a documentation file. -/
inductive ReadFault where
  | notUtf8 (failure : Utf8.Failure)
  /-- Found outside of members, when so many bytes had been read. -/
  | outside (position : Nat) (fault : MarkupFault)
  /-- Found in the body of a member. -/
  | inside (id : String) (fault : MarkupFault)
  | openElement
  | unnamedMember
  | memberAttribute (fault : AttributeFault)
  | memberName (fault : EntityFault)
  deriving DecidableEq, Repr

def ReadFault.message : ReadFault → String
  | .notUtf8 failure => s!"Documentation is not UTF-8 - {failure.message}"
  | .outside position fault =>
    s!"Invalid documentation XML at position {position} - {fault.message}"
  | .inside id fault => s!"Invalid documentation for '{id}' - {fault.message}"
  | .openElement => "Documentation XML ends inside an element"
  | .unnamedMember => "Documentation member without a name"
  | .memberAttribute fault => s!"Invalid member attribute - {fault.message}"
  | .memberName fault => s!"Invalid member name - {fault.message}"

/-! ### The tags of members -/

def isMember (name : List Char) : Bool :=
  localName name == ['m', 'e', 'm', 'b', 'e', 'r']

/-- The id in the tag of a member. -/
def memberId (content : List Char) : Except ReadFault String :=
  match attributeOf? ['n', 'a', 'm', 'e'] content with
  | .error fault => .error (.memberAttribute fault)
  | .ok none => .error .unnamedMember
  | .ok (some value) =>
    match unescape value with
    | .error fault => .error (.memberName fault)
    | .ok id => .ok (String.ofList id)

/-! ### Reading token by token -/

/-- The body of a member as far as it has been read. -/
structure Body where
  id : String
  name : List Char
  /-- How many elements of the member's name are open inside of it. -/
  nested : Nat := 0
  /-- What has been read of it, last character first. -/
  backwards : List Char := []
  deriving DecidableEq, Repr

namespace Body

def text (body : Body) : List Char :=
  body.backwards.reverse

def append (body : Body) (source : List Char) : Body :=
  { body with backwards := source.reverseAux body.backwards }

@[simp] theorem text_append (body : Body) (source : List Char) :
    (body.append source).text = body.text ++ source := by
  simp [text, append, List.reverseAux_eq]

end Body

structure Reading where
  members : Members := {}
  /-- The names of all open elements, innermost first. -/
  openNames : List (List Char) := []
  /-- How many elements were opened outside of members and not closed. -/
  depth : Nat := 0
  body? : Option Body := none
  /-- How many bytes have been read. -/
  position : Nat := 0
  deriving DecidableEq, Repr

/-- The names that stay open after an end tag, which has to close the innermost element. -/
def closeInnermost (openNames : List (List Char)) (content : List Char) :
    Except NestingFault (List (List Char)) :=
  match openNames with
  | [] => .error (.unmatchedEnd (endNameOf content))
  | name :: outer =>
    if endNameOf content = name then .ok outer
    else .error (.mismatchedEnd name (endNameOf content))

namespace Reading

def addMember (r : Reading) (id : String) (body : List Char) : Reading :=
  { r with members := r.members.add id (String.ofList (trim body)) }

/-- A token outside of members. -/
def readOutside (r : Reading) : Token → Except ReadFault Reading
  | .text _ | .aside _ => .ok r
  | .start content =>
    let name := nameOf content
    let opened := { r with openNames := name :: r.openNames }
    if isMember name then do
      let id ← memberId content
      return { opened with body? := some { id, name } }
    else
      .ok { opened with depth := r.depth + 1 }
  | .empty content =>
    if isMember (nameOf content) then do
      let id ← memberId content
      return r.addMember id []
    else
      .ok r
  | .close content =>
    match closeInnermost r.openNames content with
    | .ok outer => .ok { r with openNames := outer, depth := r.depth - 1 }
    | .error fault => .error (.outside r.position (.nesting fault))

/-- A token in the body of a member. -/
def readInside (r : Reading) (body : Body) (token : Token) : Except ReadFault Reading :=
  let longer := body.append token.source
  match token with
  | .text _ | .aside _ | .empty _ => .ok { r with body? := some longer }
  | .start content =>
    let name := nameOf content
    let nested := if name = body.name then body.nested + 1 else body.nested
    .ok { r with openNames := name :: r.openNames, body? := some { longer with nested } }
  | .close content =>
    match closeInnermost r.openNames content with
    | .error fault => .error (.inside body.id (.nesting fault))
    | .ok outer =>
      let r := { r with openNames := outer }
      if endNameOf content ≠ body.name then .ok { r with body? := some longer }
      else
        match body.nested with
        | 0 => .ok { r.addMember body.id body.text with body? := none }
        | nested + 1 => .ok { r with body? := some { longer with nested } }

def read (r : Reading) (token : Token) : Except ReadFault Reading :=
  let r := { r with position := r.position + Utf8.size token.source }
  match r.body? with
  | none => r.readOutside token
  | some body => r.readInside body token

/-- The end of the text, or of the part of it that can be divided into tokens. -/
def finish (r : Reading) (ending : Ending) : Except ReadFault Members :=
  match ending, r.body? with
  | .broken fault consumed, none =>
    .error (.outside (r.position + Utf8.size consumed) (.token fault))
  | .broken fault _, some body => .error (.inside body.id (.token fault))
  | .complete, some body => .error (.inside body.id (.nesting (.missingEnd body.name)))
  | .complete, none => if 0 < r.depth then .error .openElement else .ok r.members

end Reading

/-! ### Whole files -/

/-- A mark at the start of a text that only says how it is encoded. -/
def dropMark (text : List Char) : List Char :=
  match text with
  | '\uFEFF' :: rest => rest
  | _ => text

/-- One mark before the markup is not part of the text. -/
def readText (text : List Char) : Except ReadFault Members := do
  let division := scan (dropMark text)
  let r ← division.tokens.foldlM Reading.read {}
  r.finish division.ending

def parse (text : String) : Except LoadError Members :=
  (readText text.toList).mapError fun fault => .found fault.message

/-- A mark at the start of the bytes is removed on its own. -/
def readBytes (bytes : Bytes) : Except ReadFault Members :=
  match Utf8.decode bytes with
  | .error failure => .error (.notUtf8 failure)
  | .ok text => readText (dropMark text)

def parseBytes (bytes : Bytes) : Except LoadError Members :=
  (readBytes bytes).mapError fun fault => .found fault.message

def parseFile (disk : Disk) (path : Path) : Except LoadError Members :=
  match disk.read path with
  | .error error => .error (.ofIo error (some path))
  | .ok bytes => parseBytes bytes

end ImageRefs.Documentation
