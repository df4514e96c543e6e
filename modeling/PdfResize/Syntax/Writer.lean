import PdfResize.Document.Object
import PdfResize.Number.Decimal

/-! The bytes that write an object in a file or in a content stream. -/

namespace PdfResize

/-- A byte of a name stands for itself when it is visible and no delimiter. -/
def isPlainNameByte (byte : UInt8) : Bool :=
  33 ≤ byte && byte ≤ 126 && !Byte.isDelimiter byte && byte != 35

/-- A name behind its slash, where other than plain bytes are written as a number sign and two digits. -/
def writeName (bytes : Bytes) : Bytes :=
  47 :: bytes.flatMap fun byte => if isPlainNameByte byte then [byte] else 35 :: Byte.hexPair byte

/-- The places of the parentheses without a partner, given the places of those still open. -/
def unpaired (place : Nat) (opened : List Nat) : Bytes → List Nat
  | [] => opened
  | byte :: rest =>
    if byte = 40 then unpaired (place + 1) (place :: opened) rest
    else if byte = 41 then
      match opened with
      | [] => place :: unpaired (place + 1) [] rest
      | _ :: outer => unpaired (place + 1) outer rest
    else unpaired (place + 1) opened rest

/-- A string in parentheses, with a backslash before each backslash and each parenthesis without a partner. -/
def writeLiteral (bytes : Bytes) : Bytes :=
  let lone := unpaired 0 [] bytes
  let body := bytes.zipIdx.flatMap fun (byte, place) =>
    if byte = 92 || lone.contains place then [92, byte]
    -- A bare carriage return would be read back as part of a line end.
    else if byte = 13 then ascii "\\r"
    else [byte]
  40 :: body ++ [41]

/-- A string as hexadecimal digits in angle brackets. -/
def writeHexadecimal (bytes : Bytes) : Bytes := 60 :: bytes.flatMap Byte.hexPair ++ [62]

namespace Object

/-- The text of the object begins with a letter or digit, which needs a space after another token. -/
def opensBare : Object → Bool
  | null | boolean _ | integer _ | real _ | reference _ => true
  | _ => false

/-- The text of the object ends with a letter or digit, which needs a space before another token. -/
def closesBare : Object → Bool
  | null | boolean _ | integer _ | real _ | name _ | reference _ | stream _ _ => true
  | _ => false

mutual

/-- The bytes that write an object. -/
def write : Object → Bytes
  | null => ascii "null"
  | boolean value => ascii (if value then "true" else "false")
  | integer value => signedBytes value
  | real value => ascii value.text
  | name bytes => writeName bytes
  | string bytes .literal => writeLiteral bytes
  | string bytes .hexadecimal => writeHexadecimal bytes
  | array items => 91 :: writeItems false items ++ [93]
  | dictionary entries => ascii "<<" ++ writeEntries entries ++ ascii ">>"
  | stream entries content =>
    ascii "<<" ++ writeEntries entries ++ ascii ">>stream\n" ++ content ++ ascii "\nendstream"
  | reference id => decimalBytes id.number ++ 32 :: decimalBytes id.generation ++ ascii " R"

/-- The items of an array, where one that opens bare is set off from an item before it. -/
def writeItems (spaced : Bool) : List Object → Bytes
  | [] => []
  | item :: rest =>
    (if spaced && item.opensBare then [32] else []) ++ item.write ++ writeItems true rest

/-- The entries of a dictionary, where a value that opens bare is set off from its key. -/
def writeEntries : List (Bytes × Object) → Bytes
  | [] => []
  | (key, value) :: rest =>
    writeName key ++ (if value.opensBare then [32] else []) ++ value.write ++ writeEntries rest

end

end Object

end PdfResize
