import PdfResize.SortedEntries
import PdfResize.Syntax.Reader

/-! Cross-reference sections: where the objects of a file are, as a table or packed into a stream. -/

namespace PdfResize

/-- Why bytes are not read as a document. -/
inductive LoadError where
  /-- The file does not begin with a version line. -/
  | header
  /-- The section that describes the file cannot be read. -/
  | trailer
  /-- The cross-reference section is of another form than it has to be. -/
  | crossReference
  /-- The place of the cross-reference section is not given, or is outside the file. -/
  | start
  /-- The place of an earlier cross-reference section is outside the file. -/
  | previousStart
  /-- The cross-reference stream ends before its last entry. -/
  | shortCrossReference
deriving DecidableEq

/-- The wording of a load error. -/
def LoadError.message : LoadError → String
  | header => "Invalid file header"
  | trailer => "Invalid file trailer"
  | crossReference => "Invalid cross-reference table (could not parse xref)"
  | start => "Invalid cross-reference table (invalid start value)"
  | previousStart => "Invalid cross-reference table (invalid start value in Prev field)"
  | shortCrossReference => "failed to fill whole buffer"

/-- The place of an object in a file. -/
structure Place where
  /-- The number of bytes before the object. -/
  offset : Nat
  /-- The generation of the object. -/
  generation : Nat
deriving DecidableEq

/-- Where a cross-reference says that an object is. -/
inductive CrossReference.Entry where
  /-- At a place of its own. -/
  | placed (place : Place)
  /-- Packed into a stream with other objects, where it is not looked for. -/
  | packed

/-- The place that an entry gives. -/
def CrossReference.Entry.place? : Entry → Option Place
  | placed place => some place
  | packed => none

/-- Where objects are by object number, in the order of the numbers. -/
abbrev CrossReference := List (Nat × CrossReference.Entry)

namespace CrossReference

/-- The place of the object with a number. -/
def place? (crossReference : CrossReference) (number : Nat) : Option Place :=
  (crossReference.lookup number).bind Entry.place?

/-- The entries of a section together with those of an earlier section for numbers that it does not have. -/
def orElse (newer older : CrossReference) : CrossReference :=
  older.foldl (fun all (number, entry) =>
    if (newer.lookup number).isSome then all else insertEntry number entry all) newer

/-- The largest object number, zero when there is none. -/
def maxNumber (crossReference : CrossReference) : Nat :=
  crossReference.foldl (fun largest (number, _) => max largest number) 0

end CrossReference

/-- The two forms of a cross-reference section. -/
inductive SectionForm where
  /-- Lines of text. -/
  | table
  /-- Fields of bytes in a stream. -/
  | stream
deriving DecidableEq

/-- A cross-reference section with the trailer that belongs to it. -/
structure Section where
  /-- The form it has in the file. -/
  form : SectionForm
  /-- The entries of the objects in use. -/
  crossReference : CrossReference
  /-- The trailer. -/
  trailer : Dictionary

namespace Section

/-! ### Tables -/

/-- The end of a line of a table, always two bytes. -/
def rowEnd? : Bytes → Option Bytes
  | 32 :: 13 :: rest | 32 :: 10 :: rest | 13 :: 10 :: rest => some rest
  | _ => none

/-- A line of a table: a place, unless the line says that it is free. -/
def readRow? (bytes : Bytes) : Option (Option Place × Bytes) := do
  let (offset, rest) ← Token.natural? UInt32.size bytes
  let rest ← Token.expect? (ascii " ") rest
  let (generation, rest) ← Token.natural? UInt32.size rest
  match rest with
  | 32 :: kind :: rest =>
    let rest ← rowEnd? rest
    -- A generation that no object can have makes the line one of a free object.
    if kind = 110 then return (if generation < UInt16.size then some ⟨offset, generation⟩ else none, rest)
    else if kind = 102 then return (none, rest)
    else none
  | _ => none

/-- Lines of a table as far as they can be read, for objects with the given number and those after it,
added to the entries already read. -/
def readRows : (budget number : Nat) → CrossReference → Bytes → CrossReference × Bytes
  | 0, _, before, bytes => (before, bytes)
  | budget + 1, number, before, bytes =>
    match readRow? bytes with
    | some (some place, rest) =>
      -- Object numbers have 32 bits.
      readRows budget (number + 1) (insertEntry (number % UInt32.size) (.placed place) before) rest
    | some (none, rest) => readRows budget (number + 1) before rest
    | none => (before, bytes)

/-- A run of lines behind its heading, of which only the first number is of use,
added to the entries already read. -/
def readRun? (before : CrossReference) (bytes : Bytes) : Option (CrossReference × Bytes) := do
  let (first, rest) ← Token.natural? UInt64.size bytes
  let rest ← Token.expect? (ascii " ") rest
  let (_, rest) ← Token.natural? UInt32.size rest
  let rest ← Token.lineEnd? ((Token.expect? (ascii " ") rest).getD rest)
  return readRows rest.length first before rest

/-- Runs of lines as far as they can be read, added to the entries already read. -/
def readRuns : (budget : Nat) → CrossReference → Bytes → CrossReference × Bytes
  | 0, before, bytes => (before, bytes)
  | budget + 1, before, bytes =>
    match readRun? before bytes with
    | some (further, rest) => readRuns budget further rest
    | none => (before, bytes)

/-- A table with its trailer. -/
def readTable? (bytes : Bytes) : Option Section := do
  let rest ← Token.lineEnd? (← Token.expect? (ascii "xref") bytes)
  let (first, rest) ← readRun? [] rest
  let (crossReference, rest) := readRuns rest.length first rest
  let rest ← Token.expect? (ascii "trailer") (Token.space rest)
  let (trailer, _) ← Object.readDictionary? (Token.space rest)
  return ⟨.table, crossReference, trailer⟩

/-! ### Streams -/

/-- The whole numbers of an array that holds nothing else. -/
def integers? (object : Object) : Option (List Int) := do
  (← object.items?).mapM Object.integer?

/-- The big-endian number in the next bytes, of which the low 32 bits count. -/
def readField? (width : Nat) (bytes : Bytes) : Option (Nat × Bytes) :=
  if width ≤ bytes.length then
    some (natOfBigEndian (bytes.take width) % UInt32.size, bytes.drop width)
  else none

/-- An entry of a cross-reference stream, unless it is one of a free object or of an unknown kind. -/
def readEntry? (kindWidth offsetWidth generationWidth : Nat) (bytes : Bytes) :
    Option (Option CrossReference.Entry × Bytes) := do
  let (kind, rest) ← readField? kindWidth bytes
  -- An entry without a kind is that of an object in use.
  let kind := if kindWidth = 0 then 1 else kind
  -- An entry of an unknown kind has no further fields.
  if 2 < kind then return (none, rest)
  let (offset, rest) ← readField? offsetWidth rest
  let (generation, rest) ← readField? generationWidth rest
  match kind with
  | 0 => return (none, rest)
  | 1 => return (some (.placed ⟨offset, generation % UInt16.size⟩), rest)
  | _ => return (some .packed, rest)

/-- Entries of a cross-reference stream for a count of objects from the given number on,
added to those already read. -/
def readEntries? (read : Bytes → Option (Option CrossReference.Entry × Bytes)) :
    (count : Nat) → (number : Int) → CrossReference → Bytes → Option (CrossReference × Bytes)
  | 0, _, before, bytes => some (before, bytes)
  | count + 1, number, before, bytes => do
    let (found, rest) ← read bytes
    let further := match found with
      | some entry => insertEntry (number % UInt32.size).toNat entry before
      | none => before
    readEntries? read count (number + 1) further rest

/-- Entries for all ranges of an index, in which first numbers and counts alternate,
added to those already read. -/
def readRanges? (read : Bytes → Option (Option CrossReference.Entry × Bytes)) :
    List Int → CrossReference → Bytes → Option CrossReference
  | first :: count :: ranges, before, bytes => do
    let (further, rest) ← readEntries? read count.toNat first before bytes
    readRanges? read ranges further rest
  | _, before, _ => some before

/-- The section that a stream packs; its dictionary, without what describes the packing, is the trailer. -/
def ofStream (entries : Dictionary) (content : Bytes) : Except LoadError Section := do
  let some size := (entries.get? (ascii "Size")).bind Object.integer? | throw .crossReference
  match (entries.get? (ascii "W")).bind integers? with
  | some (kindWidth :: offsetWidth :: generationWidth :: _) =>
    if kindWidth < 0 ∨ offsetWidth < 0 ∨ generationWidth < 0 then throw .crossReference
    let index := ((entries.get? (ascii "Index")).bind integers?).getD [0, size]
    let read := readEntry? kindWidth.toNat offsetWidth.toNat generationWidth.toNat
    let some crossReference := readRanges? read index [] content | throw .shortCrossReference
    let trailer := ((entries.erase (ascii "Length")).erase (ascii "W")).erase (ascii "Index")
    return ⟨.stream, crossReference, trailer⟩
  | _ => throw .crossReference

end Section

end PdfResize
