import PdfResize.Document.Basic

/-! The pages of a document, in the order in which a walk through the page tree meets them. -/

namespace PdfResize

/-- A page in its place: its number, counted from one, and its id. -/
structure Page where
  /-- The place of the page in the document. -/
  number : Nat
  /-- The id under which the page tree names the page. -/
  id : ObjectId
deriving DecidableEq

/-- What a kid of a page tree node is, for the walk. -/
inductive PageTreeKid where
  /-- A page of the document. -/
  | page (id : ObjectId)
  /-- A node with kids of its own. -/
  | node (id : ObjectId)
  /-- Nothing that counts. -/
  | other
deriving DecidableEq

namespace Document

/-- The number of unfinished levels at which the walk stops going deeper. -/
def levelLimit : Nat := 256

/-- The kids of a page tree node, none when the node or its list of kids is not of the right type. -/
def kids (document : Document) (id : ObjectId) : List Object :=
  match document.dictionary id with
  | .ok node => ((node.get? (ascii "Kids")).bind Object.items?).getD []
  | .error _ => []

/-- The kind of a kid, which has to be a reference to a dictionary that names its type. -/
def classifyKid (document : Document) : Object → PageTreeKid
  | .reference id =>
    match document.dictionary id with
    | .ok entries =>
      if entries.typeName? = some (ascii "Page") then .page id
      else if entries.typeName? = some (ascii "Pages") then .node id
      else .other
    | .error _ => .other
  | _ => .other

/-- The next kid of a walk: on the current level, or on the innermost unfinished one. -/
def nextKid : (current : List Object) → (unfinished : List (List Object)) →
    Option (Object × List Object × List (List Object))
  | kid :: rest, unfinished => some (kid, rest, unfinished)
  | [], [] => none
  | [], level :: outer => nextKid level outer

/--
Walk the page tree, with at most `budget` kids looked at.

The budget alone ends the walk on a tree that contains itself.
-/
def walk (document : Document) :
    (budget : Nat) → (current : List Object) → (unfinished : List (List Object)) → List ObjectId
  | 0, _, _ => []
  | budget + 1, current, unfinished =>
    match nextKid current unfinished with
    | none => []
    | some (kid, rest, outer) =>
      match document.classifyKid kid with
      | .page id => id :: document.walk budget rest outer
      | .node id =>
        if outer.length < levelLimit then
          -- A level with nothing left is not remembered, so it does not count as a level.
          document.walk budget (document.kids id) (if rest.isEmpty then outer else rest :: outer)
        else document.walk budget rest outer
      | .other => document.walk budget rest outer

/-- The id of the topmost page tree node, when the trailer names a root and the root names the node. -/
def pageTreeRoot? (document : Document) : Option ObjectId := do
  match document.trailer.get? (ascii "Root") with
  | some (.reference root) =>
    let catalog ← (document.dictionary root).toOption
    match catalog.get? (ascii "Pages") with
    | some (.reference top) => some top
    | _ => none
  | _ => none

/-- The ids of the pages in order, each as often as the walk meets it. -/
def pageIds (document : Document) : List ObjectId :=
  match document.pageTreeRoot? with
  | some top => document.walk document.objects.size (document.kids top) []
  | none => []

/-- The pages of the document, numbered from one. -/
def pages (document : Document) : List Page :=
  document.pageIds.mapIdx fun index id => ⟨index + 1, id⟩

end Document

end PdfResize
