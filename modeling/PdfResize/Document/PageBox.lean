import PdfResize.Document.PageTree
import PdfResize.Error

/-! The boxes of a page: the one that gives the page its size, and setting all of them at once. -/

namespace PdfResize

/-- The rectangles that a page can be given, by what they are for. -/
inductive PageBox where
  /-- The sheet. -/
  | media
  /-- What is shown of the sheet. -/
  | crop
  /-- What is printed before the sheet is cut. -/
  | bleed
  /-- The sheet after it is cut. -/
  | trim
  /-- What the author meant the page to hold. -/
  | art
deriving DecidableEq

namespace PageBox

/-- All boxes, in the order in which they are set. -/
def all : List PageBox := [media, crop, bleed, trim, art]

/-- The name of a box. -/
def name : PageBox → String
  | media => "MediaBox"
  | crop => "CropBox"
  | bleed => "BleedBox"
  | trim => "TrimBox"
  | art => "ArtBox"

/-- The key under which a page holds a box. -/
def key (box : PageBox) : Bytes := ascii box.name

end PageBox

/-- The rectangle of a size with one corner at the origin. -/
def PageSize.rectangle (size : PageSize) : Object :=
  .array [.real 0, .real 0, .real size.width, .real size.height]

/-- The dictionary of a page with all boxes set to the rectangle of a size. -/
def Dictionary.setBoxes (page : Dictionary) (size : PageSize) : Dictionary :=
  PageBox.all.foldl (fun page box => page.set box.key size.rectangle) page

/-- A page together with its measured size. -/
structure MeasuredPage extends Page where
  /-- The size as the page was measured. -/
  size : PageSize
deriving DecidableEq

namespace Document

/-- The number of nodes, the page among them, that are asked for a box before the search is given up. -/
def ancestorLimit : Nat := 32

/--
The nearest media box on the way from a page up through its parents, over at most `nodes` nodes.

The search ends at the first node that has the entry, whether or not the entry is of use.
-/
def mediaBox? (document : Document) : (nodes : Nat) → ObjectId → Option (List Object)
  | 0, _ => none
  | nodes + 1, id => do
    let node ← (document.dictionary id).toOption
    match node.get? PageBox.media.key with
    | some box => (← (document.value box).toOption).items?
    | none =>
      match node.get? (ascii "Parent") with
      | some (.reference parent) => document.mediaBox? nodes parent
      | _ => none

/-- The number that an object, or what it leads to, stands for. -/
def coordinate? (document : Document) (object : Object) : Option Single := do
  (← (document.value object).toOption).number?

/-- The size between two opposite corners, whichever they are. -/
def sizeBetween (x1 y1 x2 y2 : Single) : PageSize := ⟨(x2 - x1).abs, (y2 - y1).abs⟩

/-- The size of a page, under a page number that only its errors mention. -/
def pageSize (document : Document) (number : Nat) (id : ObjectId) : Except FitError PageSize :=
  let corners? := do (← document.mediaBox? ancestorLimit id).mapM document.coordinate?
  match corners? with
  | some [x1, y1, x2, y2] =>
    let size := sizeBetween x1 y1 x2 y2
    if size.isUsable then .ok size else .error (.invalidGeometry number size)
  | _ => .error (.missingMediaBox number)

/-- Every page with its size, or the error of the first page that has none. -/
def measuredPages (document : Document) : Except FitError (List MeasuredPage) :=
  document.pages.mapM fun page => do
    return ⟨page, ← document.pageSize page.number page.id⟩

/-- The document with all boxes of a page set to the rectangle of a size. -/
def setPageBoxes (document : Document) (id : ObjectId) (size : PageSize) :
    Except FitError Document :=
  (document.modifyDictionary id fun page => page.setBoxes size).mapError fun cause =>
    .operation (.page id cause)

end Document

end PdfResize
