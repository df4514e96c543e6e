import PdfResize.Error
import PdfResize.Syntax.Writer

/-! The content of a page: the streams that draw it, and new streams put around them. -/

namespace PdfResize

/-- One operation of a content stream: operands and the operator that they are for. -/
structure Operation where
  /-- The operator. -/
  operator : Bytes
  /-- The operands, which are written before the operator. -/
  operands : List Object

namespace Operation

/-- The bytes of an operation, with a space behind each operand. -/
def write (operation : Operation) : Bytes :=
  operation.operands.flatMap (fun operand => operand.write ++ [32]) ++ operation.operator

/-- The bytes of operations, each on a line of its own. -/
def writeAll (operations : List Operation) : Bytes :=
  (operations.map write).intersperse [10] |>.flatten

/-- Remember the graphics state. -/
def save : Operation := ⟨ascii "q", []⟩

/-- Return to the graphics state remembered last. -/
def restore : Operation := ⟨ascii "Q", []⟩

/-- Scale what is drawn from here on about the origin. -/
def scale (factor : Single) : Operation :=
  ⟨ascii "cm", [.real factor, .real 0, .real 0, .real factor, .real 0, .real 0]⟩

end Operation

/-- The bytes that are put before and after the content of a page. -/
structure Wrapping where
  /-- The bytes before the content. -/
  opening : Bytes
  /-- The bytes after the content. -/
  closing : Bytes
deriving DecidableEq

namespace Wrapping

/--
The wrapping that scales the content by a factor.

Two graphics states are remembered, outside and inside the scaling, so two are returned to.
-/
def scaling (factor : Single) : Wrapping where
  opening := Operation.writeAll [.save, .scale factor, .save]
  closing := Operation.writeAll [.restore, .restore]

/-- Bytes that end in a blank, a line feed being added where they do not. -/
def endBlank (bytes : Bytes) : Bytes :=
  if bytes.getLast?.any Byte.isBlank then bytes else bytes ++ [10]

/-- Bytes that begin with a blank, a line feed being added where they do not. -/
def beginBlank (bytes : Bytes) : Bytes :=
  if bytes.head?.any Byte.isBlank then bytes else 10 :: bytes

/-- The wrapping whose bytes cannot merge with a token of the content, as streams are read without a gap. -/
def separated (wrapping : Wrapping) : Wrapping :=
  ⟨endBlank wrapping.opening, endBlank (beginBlank wrapping.closing)⟩

end Wrapping

namespace Document

/--
The content of a page as a list of streams.

A page without content has none; one stream counts as a list of itself, and a list may be stored apart.
-/
def contents (document : Document) (id : ObjectId) : Except FitError (List Object) :=
  match document.dictionary id with
  | .error cause => .error (.operation (.page id cause))
  | .ok page =>
    match page.get? (ascii "Contents") with
    | none | some .null => .ok []
    | some (.array items) => .ok items
    | some (.reference content) =>
      match document.object content with
      | .ok (.array items) => .ok items
      | .ok (.stream _ _) => .ok [.reference content]
      | .ok _ => .error (.operation (.contentsType id))
      | .error cause => .error (.operation (.contents id cause))
    | some _ => .error (.operation (.contentsMalformed id))

/--
Put new streams around the content of a page.

The answer comes with the document left behind: the new streams stay in it even when the page, stored
under the id of one of them, is no longer found to receive them.
-/
def wrapContent (document : Document) (id : ObjectId) (wrapping : Wrapping) :
    Except FitError Unit × Document :=
  match document.contents id with
  | .error error => (.error error, document)
  | .ok items =>
    let opened := document.add (.ofContent wrapping.separated.opening)
    let closed := opened.add (.ofContent wrapping.separated.closing)
    let wrapped := .reference document.nextId :: items ++ [.reference opened.nextId]
    match closed.modifyDictionary id fun page => page.set (ascii "Contents") (.array wrapped) with
    | .ok document => (.ok (), document)
    | .error cause => (.error (.operation (.page id cause)), closed)

/-- Scale everything that a page draws about the origin. -/
def scaleContent (document : Document) (id : ObjectId) (factor : Single) :
    Except FitError Unit × Document :=
  document.wrapContent id (.scaling factor)

end Document

end PdfResize
