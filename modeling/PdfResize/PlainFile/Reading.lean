import PdfResize.Document.Basic
import PdfResize.PlainFile.CrossReference

/-! Objects at their places in a file, and the two ways to learn how long a stream is. -/

namespace PdfResize.PlainFile

/-- What is read of an object at its place. -/
inductive Reading where
  /-- All of it. -/
  | whole (object : Object)
  /-- A stream that begins with `data`, whose length only the document can tell. -/
  | unmeasured (entries : Dictionary) (data : Bytes)

/-! ### Lengths -/

/-- The length that a stream declares, where `integerAt?` finds the whole numbers under other ids. -/
def declaredLength? (integerAt? : ObjectId → Option Int) (entries : Dictionary) : Option Int := do
  match ← entries.get? (ascii "Length") with
  | .reference id => integerAt? id
  | length => length.integer?

/-- The stream that takes its content from the front of `data`, unless there is less than its length. -/
def cutStream? (entries : Dictionary) (length : Int) (data : Bytes) : Option Object :=
  if 0 ≤ length ∧ length ≤ data.length then
    some (.stream (entries.set (ascii "Length") (.integer length)) (data.take length.toNat))
  else none

/-- The whole number that an id leads to in a document. -/
def linkedInteger? (document : Document) (id : ObjectId) : Option Int := do
  (← (document.object id).toOption).integer?

namespace Reading

/-- The object without the help of a document, which leaves an unmeasured stream empty. -/
def outline : Reading → Object
  | whole object => object
  | unmeasured entries _ => .stream entries []

/-- The object with the help of a document, where a stream of no possible length stays empty. -/
def complete (document : Document) : Reading → Object
  | whole object => object
  | unmeasured entries data =>
    let stream? := do
      cutStream? entries (← declaredLength? (linkedInteger? document) entries) data
    stream?.getD (.stream entries [])

end Reading

/-! ### Places -/

/-- The heading of a stored object: its id and the keyword that opens it. -/
def readHeading? (bytes : Bytes) : Option (ObjectId × Bytes) := do
  let ((number, generation), rest) ← Token.objectId? (Token.space bytes)
  let rest ← Token.expect? (ascii "obj") rest
  return (⟨number, generation⟩, Token.space rest)

/-- The whole number stored under an id, where the heading at its place names the same id. -/
def storedInteger? (file : Bytes) (crossReference : CrossReference) (id : ObjectId) : Option Int := do
  let place ← crossReference.place? id.number
  let (heading, rest) ← readHeading? (file.drop place.offset)
  if place.generation = id.generation ∧ heading = id then (← Object.read? rest).1.integer? else none

/-- The bytes behind the keyword that ends a stream, which may stand on a line of its own. -/
def streamEnd? (bytes : Bytes) : Option Bytes :=
  Token.expect? (ascii "endstream") ((Token.lineEnd? bytes).getD bytes)

/-- The bytes of a stream behind its dictionary, if it is one. -/
def streamStart? (bytes : Bytes) : Option Bytes := do
  Token.lineEnd? (← Token.expect? (ascii "stream") (Token.space bytes))

/--
What is read behind the heading of an object.

A dictionary with a stream behind it takes the stream in, unless the stream does not end where its length says;
a stream whose length is not found is unmeasured, and one of negative length makes the object unreadable.
-/
def readStored? (file : Bytes) (crossReference : CrossReference) (bytes : Bytes) : Option Reading := do
  let (object, rest) ← Object.read? bytes
  match object, streamStart? rest with
  | .dictionary entries, some data =>
    match declaredLength? (storedInteger? file crossReference) entries with
    | none => return .unmeasured entries data
    | some length =>
      if length < 0 then none
      else if (streamEnd? (data.drop length.toNat)).isSome then
        return .whole ((cutStream? entries length data).getD object)
      else return .whole object
  | _, _ => return .whole object

/-- What is read at an offset, with the id in its heading. -/
def readAt? (file : Bytes) (crossReference : CrossReference) (offset : Nat) :
    Option (ObjectId × Reading) := do
  let (id, rest) ← readHeading? (file.drop offset)
  return (id, ← readStored? file crossReference rest)

/-- What is read at all places, each with the id in its heading. -/
def readPlaces (file : Bytes) (crossReference : CrossReference) : List (ObjectId × Reading) :=
  crossReference.filterMap fun (_, entry) => do readAt? file crossReference (← entry.place?).offset

end PdfResize.PlainFile
