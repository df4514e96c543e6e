import PdfResize.Document.Object
import PdfResize.Syntax.Token

/-! Reading objects from the bytes of a file; each reader answers what it read and the bytes behind it. -/

namespace PdfResize.Object

/-- A word that stands for an object. -/
def readWord? (bytes : Bytes) : Option (Object × Bytes) :=
  let word (text : String) (object : Object) :=
    (Token.expect? (ascii text) bytes).map fun rest => (object, rest)
  word "null" null <|> word "true" (boolean true) <|> word "false" (boolean false)

/-- A reference. -/
def readReference? (bytes : Bytes) : Option (Object × Bytes) := do
  let ((number, generation), rest) ← Token.objectId? bytes
  let rest ← Token.expect? (ascii "R") rest
  return (reference ⟨number, generation⟩, rest)

/-- An object without objects inside; a reference is tried before the numbers that it begins with. -/
def readAtom? (bytes : Bytes) : Option (Object × Bytes) :=
  readWord? bytes
    <|> readReference? bytes
    <|> (Token.real? bytes).map (fun (value, rest) => (real value, rest))
    <|> (Token.integer? bytes).map (fun (value, rest) => (integer value, rest))
    <|> (Token.name? bytes).map (fun (key, rest) => (name key, rest))
    <|> (Token.literal? bytes).map (fun (text, rest) => (string text .literal, rest))
    <|> (Token.hexadecimal? bytes).map (fun (text, rest) => (string text .hexadecimal, rest))

mutual

/-- An object other than a stream, with a budget that the number of bytes covers. -/
def readWithin? : (budget : Nat) → Bytes → Option (Object × Bytes)
  | 0, _ => none
  | budget + 1, bytes =>
    match bytes with
    | 91 :: rest => do
      let (items, rest) := readItems budget [] (Token.space rest)
      let rest ← Token.expect? (ascii "]") rest
      return (array items, rest)
    | 60 :: 60 :: rest => do
      let (entries, rest) := readEntries budget [] (Token.space rest)
      let rest ← Token.expect? (ascii ">>") rest
      return (dictionary entries, rest)
    | _ => readAtom? bytes

/-- Objects with space behind each, behind those already read, as far as they can be read. -/
def readItems : (budget : Nat) → (before : List Object) → Bytes → List Object × Bytes
  | 0, before, bytes => (before.reverse, bytes)
  | budget + 1, before, bytes =>
    match readWithin? budget bytes with
    | some (item, rest) => readItems budget (item :: before) (Token.space rest)
    | none => (before.reverse, bytes)

/-- Names and objects with space behind each, added to the entries already read, as far as they can be read. -/
def readEntries : (budget : Nat) → (before : Dictionary) → Bytes → Dictionary × Bytes
  | 0, before, bytes => (before, bytes)
  | budget + 1, before, bytes =>
    let entry? := do
      let (key, rest) ← Token.name? bytes
      let (value, rest) ← readWithin? budget (Token.space rest)
      return (key, value, Token.space rest)
    match entry? with
    | some (key, value, rest) => readEntries budget (before.set key value) rest
    | none => (before, bytes)

end

/-- An object other than a stream. -/
def read? (bytes : Bytes) : Option (Object × Bytes) :=
  -- A byte costs at most two steps, into a bracket and on to the first object behind it.
  readWithin? (2 * bytes.length + 1) bytes

/-- A dictionary. -/
def readDictionary? (bytes : Bytes) : Option (Dictionary × Bytes) := do
  match ← read? bytes with
  | (dictionary entries, rest) => some (entries, rest)
  | _ => none

end PdfResize.Object
