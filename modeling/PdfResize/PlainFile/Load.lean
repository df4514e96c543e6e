import PdfResize.File.Codec
import PdfResize.PlainFile.Reading

/-!
Loading the document of a plain file.

A plain file has each of its objects at a place of its own, and a cross-reference stream in it is not filtered.
-/

namespace PdfResize

namespace PlainFile

/-- What a plain file has beyond its document. -/
structure Layout where
  /-- The version in the first line. -/
  version : Bytes
  /-- The form of the newest cross-reference section. -/
  form : SectionForm
deriving DecidableEq

/-! ### The way to the objects -/

/-- The version in the first line of a file. -/
def readVersion (file : Bytes) : Except LoadError Bytes :=
  match Token.expect? (ascii "%PDF-") file with
  | some rest =>
    let (version, rest) := rest.span fun byte => !Byte.isLineEnd byte
    if Bytes.isUtf8 version ∧ (Token.lineEnd? rest).isSome then .ok version else .error .header
  | none => .error .header

/-- The place at or behind `offset` where a token occurs last; `bytes` are those from `offset` on. -/
def lastOccurrence? (token : Bytes) : (offset : Nat) → (bytes : Bytes) → Option Nat
  | _, [] => none
  | offset, byte :: rest =>
    (lastOccurrence? token (offset + 1) rest).orElse fun _ =>
      (Token.expect? token (byte :: rest)).map fun _ => offset

/-- The number of bytes at the end of a file among which the end mark is looked for. -/
def endWindow : Nat := 512

/-- The number of bytes before the end mark within which the start of the cross-reference is named. -/
def startWindow : Nat := 25

/-- The offset of the newest cross-reference section, which the end of the file names. -/
def startOffset? (file : Bytes) : Option Int := do
  let tail := file.length - endWindow
  let mark ← lastOccurrence? (ascii "%%EOF") tail (file.drop tail)
  if mark ≤ startWindow then none
  let window := mark - startWindow
  let start ← lastOccurrence? (ascii "startxref") window (file.drop window)
  let rest ← Token.lineEnd? (← Token.expect? (ascii "startxref") (file.drop start))
  let (offset, rest) ← Token.integer? rest
  let _ ← Token.expect? (ascii "%%EOF") (← Token.lineEnd? rest)
  return offset

/-- An offset as a place in the file, which may be its very end. -/
def within? (file : Bytes) (offset : Int) : Option Nat :=
  if 0 ≤ offset ∧ offset ≤ file.length then some offset.toNat else none

/-- The cross-reference section at an offset: a table, or else a stream. -/
def readSection (file : Bytes) (offset : Nat) : Except LoadError Section :=
  let bytes := file.drop offset
  match Section.readTable? bytes with
  | some table =>
    if ((table.trailer.get? (ascii "Size")).bind Object.integer?).isSome then .ok table
    else .error .trailer
  | none =>
    -- A stream cannot keep its length elsewhere, as the places are only known once it is read.
    match readAt? file [] offset with
    | some (_, reading) =>
      match reading.outline with
      | .stream entries content => Section.ofStream entries content
      | _ => .error .crossReference
    | none => .error .trailer

/-- The offset of the section before one, as its trailer gives it. -/
def previous? (trailer : Dictionary) : Option Int :=
  (trailer.get? (ascii "Prev")).bind Object.integer?

/-- A cross-reference with that of all earlier sections, of which each is read once. -/
def readEarlier (file : Bytes) : (budget : Nat) → (seen : List Nat) → (next : Option Int) →
    CrossReference → Except LoadError CrossReference
  | budget + 1, seen, some next, crossReference => do
    let some offset := within? file next | throw .previousStart
    if offset ∈ seen then return crossReference
    let earlier ← readSection file offset
    readEarlier file budget (offset :: seen) (previous? earlier.trailer)
      (crossReference.orElse earlier.crossReference)
  | _, _, _, crossReference => .ok crossReference

/-- The document of what is read at all places; of two objects under one id the later one counts. -/
def assemble (readings : List (ObjectId × Reading)) (trailer : Dictionary) (maxId : Nat) : Document :=
  let objects (finish : Reading → Object) : Store :=
    Store.ofEntries (readings.map fun (id, reading) => (id, finish reading))
  let outline : Document := { objects := objects Reading.outline, trailer, maxId }
  -- A length is a number, so it does not matter for it that the unmeasured streams are still empty.
  { outline with objects := objects (Reading.complete outline) }

/-- Load the document of a plain file. -/
def load (file : Bytes) : Except LoadError (File Layout) := do
  let version ← readVersion file
  let some offset := (startOffset? file).bind (within? file) | throw .start
  let newest ← readSection file offset
  -- There are no more different offsets than bytes and the end.
  let crossReference ←
    readEarlier file (file.length + 2) [] (previous? newest.trailer) newest.crossReference
  return {
    layout := { version, form := newest.form }
    document := assemble (readPlaces file crossReference) (newest.trailer.erase (ascii "Prev"))
      crossReference.maxNumber }

end PlainFile

end PdfResize
