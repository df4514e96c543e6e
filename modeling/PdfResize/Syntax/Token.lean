import PdfResize.Bytes
import PdfResize.Number.Numeral

/-! The tokens of PDF syntax; each reader answers what it read and the bytes behind it. -/

namespace PdfResize.Token

/-- The bytes behind an expected token. -/
def expect? : (token : Bytes) → Bytes → Option Bytes
  | [], bytes => some bytes
  | _ :: _, [] => none
  | first :: token, byte :: bytes => if first = byte then expect? token bytes else none

/-- The bytes behind a line end, which is one of its two bytes or both in order. -/
def lineEnd? : Bytes → Option Bytes
  | 13 :: 10 :: bytes => some bytes
  | 13 :: bytes => some bytes
  | 10 :: bytes => some bytes
  | _ => none

/--
The bytes behind white bytes and comments.

A comment that is begun is only passed over when its line ends; otherwise reading goes on at its start.
-/
def skipSpace (comment : Option Bytes) : Bytes → Bytes
  | [] => comment.getD []
  | byte :: rest =>
    match comment with
    | some start => if Byte.isLineEnd byte then skipSpace none rest else skipSpace (some start) rest
    | none =>
      if Byte.isWhite byte then skipSpace none rest
      else if byte = 37 then skipSpace (some (byte :: rest)) rest
      else byte :: rest

/-- The bytes behind any white bytes and comments. -/
def space (bytes : Bytes) : Bytes := skipSpace none bytes

/-- The leading decimal digits. -/
def digits (bytes : Bytes) : List Nat × Bytes :=
  let (row, rest) := bytes.span Byte.isDigit
  (row.map fun byte => byte.toNat - 48, rest)

/-- A whole number without a sign that is below a limit. -/
def natural? (limit : Nat) (bytes : Bytes) : Option (Nat × Bytes) :=
  let (row, rest) := digits bytes
  if row ≠ [] ∧ natOfDigits row < limit then some (natOfDigits row, rest) else none

/-- An optional sign. -/
def sign : Bytes → Bool × Bytes
  | 45 :: rest => (true, rest)
  | 43 :: rest => (false, rest)
  | bytes => (false, bytes)

/-- A whole number that fits 64 bits with a sign. -/
def integer? (bytes : Bytes) : Option (Int × Bytes) :=
  let (negative, body) := sign bytes
  let (row, rest) := digits body
  let size : Int := natOfDigits row
  let value := if negative then -size else size
  if row ≠ [] ∧ (Int64.ofInt value).toInt = value then some (value, rest) else none

/-- A number with a point and digits on at least one side of it. -/
def real? (bytes : Bytes) : Option (Single × Bytes) :=
  let (negative, body) := sign bytes
  let (whole, afterWhole) := digits body
  match afterWhole with
  | 46 :: afterPoint =>
    let (fraction, rest) := digits afterPoint
    if whole = [] ∧ fraction = [] then none
    else some ((Numeral.ofDigits negative whole fraction 0).toBinary, rest)
  | _ => none

/-- An object number and a generation, each with any space behind it. -/
def objectId? (bytes : Bytes) : Option ((Nat × Nat) × Bytes) := do
  let (number, rest) ← natural? UInt32.size bytes
  let (generation, rest) ← natural? UInt16.size (space rest)
  return ((number, generation), space rest)

/-- The bytes of a name behind its slash: regular bytes, and bytes written as a number sign and two digits. -/
def nameBytes : Bytes → Bytes × Bytes
  | [] => ([], [])
  | byte :: rest =>
    if byte = 35 then
      match rest with
      | high :: low :: rest =>
        match Byte.hexValue? high, Byte.hexValue? low with
        | some high, some low =>
          let (bytes, rest) := nameBytes rest
          ((16 * high + low) :: bytes, rest)
        | _, _ => ([], byte :: high :: low :: rest)
      | _ => ([], byte :: rest)
    else if Byte.isWhite byte || Byte.isDelimiter byte then ([], byte :: rest)
    else
      let (bytes, rest) := nameBytes rest
      (byte :: bytes, rest)

/-- A name. -/
def name? : Bytes → Option (Bytes × Bytes)
  | 47 :: rest => some (nameBytes rest)
  | _ => none

/-- What an escape in a literal string stands for, which is nothing for a line end. -/
def escape? (bytes : Bytes) : Option (Bytes × Bytes) :=
  let octal := (bytes.take 3).takeWhile Byte.isOctal
  if octal ≠ [] then
    -- Only the low eight bits of the number count.
    let value := octal.foldl (fun value byte => 8 * value + (byte - 48)) (0 : UInt8)
    some ([value], bytes.drop octal.length)
  else
    match lineEnd? bytes with
    | some rest => some ([], rest)
    | none =>
      match bytes with
      | 110 :: rest => some ([10], rest)
      | 114 :: rest => some ([13], rest)
      | 116 :: rest => some ([9], rest)
      | 98 :: rest => some ([8], rest)
      | 102 :: rest => some ([12], rest)
      | byte :: rest => some ([byte], rest)
      | [] => none

/-- The number of parentheses that may be open inside a literal string. -/
def depthLimit : Nat := 100

/-- The bytes of a literal string up to its closing parenthesis, with `depth` parentheses open inside it. -/
def literalBytes? : (budget depth : Nat) → Bytes → Option (Bytes × Bytes)
  | budget + 1, depth, byte :: rest =>
    if byte = 92 then do
      let (escaped, rest) ← escape? rest
      let (bytes, rest) ← literalBytes? budget depth rest
      return (escaped ++ bytes, rest)
    else if byte = 41 ∧ depth = 0 then some ([], rest)
    else if byte = 40 ∧ depth = depthLimit then none
    else do
      let inside := if byte = 40 then depth + 1 else if byte = 41 then depth - 1 else depth
      let (bytes, rest) ← literalBytes? budget inside rest
      return (byte :: bytes, rest)
  | _, _, _ => none

/-- A string in parentheses. -/
def literal? : Bytes → Option (Bytes × Bytes)
  | 40 :: rest => literalBytes? rest.length 0 rest
  | _ => none

/-- The digits of a hexadecimal string up to its closing bracket, with white bytes anywhere between them. -/
def hexDigits? : Bytes → Option (List UInt8 × Bytes)
  | [] => none
  | byte :: rest =>
    if byte = 62 then some ([], rest)
    else if Byte.isWhite byte then hexDigits? rest
    else do
      let digit ← Byte.hexValue? byte
      let (digits, rest) ← hexDigits? rest
      return (digit :: digits, rest)

/-- The bytes that hexadecimal digits write, a digit left over being the high half of a byte. -/
def bytesOfHex : List UInt8 → Bytes
  | high :: low :: digits => (16 * high + low) :: bytesOfHex digits
  | [high] => [16 * high]
  | [] => []

/-- A string of hexadecimal digits in angle brackets. -/
def hexadecimal? : Bytes → Option (Bytes × Bytes)
  | 60 :: rest => (hexDigits? rest).map fun (digits, rest) => (bytesOfHex digits, rest)
  | _ => none

end PdfResize.Token
