import ImageRefs.Text.Utf8

/-!
The pieces of a text with markup. `Token.source` gives the text of a piece; names and contents keep
the text between the angle brackets as it was written.
-/

set_option autoImplicit false

namespace ImageRefs.Markup

/-- White space inside of markup. -/
def isSpace (c : Char) : Bool :=
  c == ' ' || c == '\t' || c == '\r' || c == '\n'

inductive Token where
  /-- Anything up to the next `<`. -/
  | text (chars : List Char)
  /-- A comment, CDATA section, processing instruction or document type declaration: what stands
  between `<` and `>`. -/
  | aside (content : List Char)
  /-- What stands between `<` and `>` of a start tag: the name of the element and attributes. -/
  | start (content : List Char)
  /-- What stands between `<` and `/>`. -/
  | empty (content : List Char)
  /-- What stands between `</` and `>`. -/
  | close (content : List Char)
  deriving DecidableEq, Repr

def Token.source : Token → List Char
  | .text chars => chars
  | .aside content => '<' :: content ++ ['>']
  | .start content => '<' :: content ++ ['>']
  | .empty content => '<' :: content ++ ['/', '>']
  | .close content => '<' :: '/' :: content ++ ['>']

/-! ### Names -/

/-- The qualified name in a start tag or an empty tag; it may be empty. -/
def nameOf (content : List Char) : List Char :=
  content.takeWhile (!isSpace ·)

/-- The name in an end tag is all of it, without white space behind it unless there is nothing
else. -/
def endNameOf (content : List Char) : List Char :=
  match (content.reverse.dropWhile isSpace).reverse with
  | [] => content
  | name => name

/-- A name without its first qualifier. -/
def localName (name : List Char) : List Char :=
  match name.dropWhile (· != ':') with
  | [] => name
  | _ :: rest => rest

/-! ### Faults -/

/-- A fault of a single piece of markup. -/
inductive TokenFault where
  | unknownMarkup
  | openInstruction
  | openComment
  | openDoctype
  | openCdata
  | openTag
  | doctypeWithoutName
  deriving DecidableEq, Repr

def TokenFault.message : TokenFault → String
  | .unknownMarkup => "syntax error: unknown or missed symbol in markup"
  | .openInstruction =>
    "syntax error: processing instruction or xml declaration not closed: " ++ notFound "?>"
  | .openComment => "syntax error: comment not closed: " ++ notFound "-->"
  | .openDoctype => "syntax error: DOCTYPE not closed: " ++ notFound ">"
  | .openCdata => "syntax error: CDATA not closed: " ++ notFound "]]>"
  | .openTag => "syntax error: tag not closed: " ++ notFound ">"
  | .doctypeWithoutName =>
    "ill-formed document: `<!DOCTYPE>` declaration does not contain a name of a document type"
where
  notFound (mark : String) : String := s!"`{mark}` not found before end of input"

/-- A fault in the nesting of elements. -/
inductive NestingFault where
  | missingEnd (name : List Char)
  | unmatchedEnd (name : List Char)
  | mismatchedEnd (expected found : List Char)
  deriving DecidableEq, Repr

def NestingFault.message : NestingFault → String
  | .missingEnd name =>
    "ill-formed document: start tag not closed: " ++ endTag name ++
      " not found before end of input"
  | .unmatchedEnd name =>
    "ill-formed document: close tag " ++ endTag name ++ " does not match any open tag"
  | .mismatchedEnd expected found =>
    "ill-formed document: expected " ++ endTag expected ++ ", but " ++ endTag found ++
      " was found"
where
  endTag (name : List Char) : String := "`</" ++ String.ofList name ++ ">`"

end ImageRefs.Markup
