import PdfResize.PlainFile.Load
import PdfResize.Syntax.Writer

/-! Saving a document as the bytes of a plain file. -/

namespace PdfResize

namespace PlainFile

/-- The places of objects by object number, in the order of the numbers. -/
abbrev Places := List (Nat × Place)

/-- The bytes of a stored object, from its heading to the keyword that closes it. -/
def writeStored (id : ObjectId) (object : Object) : Bytes :=
  decimalBytes id.number ++ 32 :: decimalBytes id.generation ++ ascii " obj\n" ++
    (if object.opensBare then [32] else []) ++ object.write ++
    (if object.closesBare then [32] else []) ++ ascii "\nendobj\n"

/-- The entries that describe an object, if it has any. -/
def describedBy? : Object → Option Dictionary
  | .dictionary entries | .stream entries _ => some entries
  | _ => none

/-- The types of objects that belong to the layout of a file, which is made anew when it is saved. -/
def layoutTypes : List Bytes := [ascii "ObjStm", ascii "XRef", ascii "Linearized"]

/-- An object is part of the document and not of the layout of the file that it came from. -/
def isKept (object : Object) : Bool :=
  match (describedBy? object).bind Dictionary.typeName? with
  | some type => !layoutTypes.contains type
  | none => true

/-- The bytes of stored objects one after another, with the place of each object when they begin at `offset`. -/
def writeObjects : (offset : Nat) → List (ObjectId × Object) → Places → Bytes × Places
  | _, [], places => ([], places)
  | offset, (id, object) :: rest, places =>
    let written := writeStored id object
    let placed := insertEntry id.number ⟨offset, id.generation⟩ places
    let (following, places) := writeObjects (offset + written.length) rest placed
    (written ++ following, places)

/-- The runs of values under successive numbers, each run under its first number. -/
def runs {Value : Type} : List (Nat × Value) → List (Nat × List Value)
  | [] => []
  | (number, value) :: rest =>
    match runs rest with
    | (next, values) :: others =>
      if next = number + 1 then (number, value :: values) :: others
      else (number, [value]) :: (next, values) :: others
    | [] => [(number, [value])]

/-- A line of a cross-reference table. -/
def tableRow (offset generation : Nat) (kind : String) : Bytes :=
  paddedBytes 10 offset ++ 32 :: paddedBytes 5 generation ++ ascii kind

/--
The places that a cross-reference of a size lists, which are those of the numbers from one up to the size.

Objects with other numbers are in the file but cannot be found in it.
-/
def listedBelow (size : Nat) (places : Places) : Places :=
  places.filter fun (number, _) => 1 ≤ number ∧ number < size

/-- The trailer of a file with a cross-reference table of a size. -/
def tableTrailer (size : Nat) (trailer : Dictionary) : Dictionary :=
  trailer.set (ascii "Size") (.integer size)

/-- A cross-reference table of a size, which begins with the free object zero, and the trailer behind it. -/
def writeTable (size : Nat) (places : Places) (trailer : Dictionary) : Bytes :=
  let rows := (0, tableRow 0 65535 " f \n") :: (listedBelow size places).map fun (number, place) =>
    (number, tableRow place.offset place.generation " n \n")
  let runBytes := (runs rows).flatMap fun (first, rows) =>
    decimalBytes first ++ 32 :: decimalBytes rows.length ++ 10 :: rows.flatten
  ascii "xref\n" ++ runBytes ++ ascii "trailer\n" ++ (Object.dictionary trailer).write

/-- The content of a cross-reference stream for runs of places. -/
def streamContent (runs : List (Nat × List Place)) : Bytes :=
  runs.flatMap fun (_, run) => run.flatMap fun place =>
    1 :: bigEndian 4 place.offset ++ bigEndian 2 place.generation

/-- The trailer of a file with a cross-reference stream of a size, which is the dictionary of the stream. -/
def streamTrailer (size : Nat) (runs : List (Nat × List Place)) (trailer : Dictionary) : Dictionary :=
  let index := runs.flatMap fun (first, run) => [.integer first, .integer run.length]
  let described := (((trailer.set (ascii "Type") (.name (ascii "XRef"))).set (ascii "Size")
    (.integer size)).set (ascii "W") (.array [.integer 1, .integer 4, .integer 2])).set
    (ascii "Index") (.array index)
  (described.erase (ascii "Filter")).set (ascii "Length") (.integer (streamContent runs).length)

/--
The bytes of a file: version, objects, cross-reference in the form it had, and the place of it.

The document is left with the trailer that is written. A cross-reference stream is a stored object of its own,
with the next number and a place that it lists.
-/
def save (file : File Layout) : Bytes × File Layout :=
  let document := file.document
  let heading := ascii "%PDF-" ++ file.layout.version ++ [10]
  let kept := document.objects.entries.filter fun (_, object) => isKept object
  let (objects, places) := writeObjects heading.length kept []
  let offset := heading.length + objects.length
  let next := document.nextId.number
  let (crossReference, left) := match file.layout.form with
    | .table =>
      let trailer := tableTrailer next document.trailer
      (writeTable next places trailer, { document with trailer })
    | .stream =>
      let size := ObjectId.numberAfter next
      let runs := runs (listedBelow size (insertEntry next ⟨offset, 0⟩ places))
      let trailer := streamTrailer size runs document.trailer
      (writeStored ⟨next, 0⟩ (.stream trailer (streamContent runs)), { document with trailer, maxId := next })
  (heading ++ objects ++ crossReference ++ ascii "\nstartxref\n" ++ decimalBytes offset ++
    ascii "\n%%EOF", { file with document := left })

end PlainFile

end PdfResize
