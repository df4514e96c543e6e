import PdfResize.Json.Basic

/-! Reading JSON values from text. -/

namespace PdfResize.Json

/-- The text behind leading white space. -/
def skipWhite (text : List Char) : List Char :=
  text.dropWhile fun c => c == ' ' || c == '\t' || c == '\n' || c == '\r'

/-- The value of a hexadecimal digit. -/
def hexDigit? (c : Char) : Option Nat :=
  if c.isDigit then some (c.toNat - '0'.toNat)
  else if 'a' ≤ c ∧ c ≤ 'f' then some (c.toNat - 'a'.toNat + 10)
  else if 'A' ≤ c ∧ c ≤ 'F' then some (c.toNat - 'A'.toNat + 10)
  else none

/-- The number that four hexadecimal digits write, and the text behind them. -/
def readUnit? : List Char → Option (Nat × List Char)
  | first :: second :: third :: fourth :: rest => do
    let digits ← [first, second, third, fourth].mapM hexDigit?
    return (digits.foldl (fun value digit => 16 * value + digit) 0, rest)
  | _ => none

/-- The character that an escape stands for, and the text behind it; the backslash is already read. -/
def readEscape? : List Char → Option (Char × List Char)
  | '"' :: rest => some ('"', rest)
  | '\\' :: rest => some ('\\', rest)
  | '/' :: rest => some ('/', rest)
  | 'b' :: rest => some ('\x08', rest)
  | 'f' :: rest => some ('\x0c', rest)
  | 'n' :: rest => some ('\n', rest)
  | 'r' :: rest => some ('\r', rest)
  | 't' :: rest => some ('\t', rest)
  | 'u' :: rest => do
    let (unit, rest) ← readUnit? rest
    if 0xD800 ≤ unit ∧ unit < 0xDC00 then
      -- The first half of a pair is of use only with the second half right behind it.
      match rest with
      | '\\' :: 'u' :: rest =>
        let (second, rest) ← readUnit? rest
        if 0xDC00 ≤ second ∧ second < 0xE000 then
          return (Char.ofNat (0x10000 + (unit - 0xD800) * 0x400 + (second - 0xDC00)), rest)
        else none
      | _ => none
    else if 0xDC00 ≤ unit ∧ unit < 0xE000 then none
    else return (Char.ofNat unit, rest)
  | _ => none

/-- The characters of a text up to its closing quote, behind those already read, and the text behind the quote. -/
def readString? : (budget : Nat) → (before : List Char) → List Char → Option (String × List Char)
  | budget + 1, before, c :: rest =>
    if c = '"' then some (String.ofList before.reverse, rest)
    else if c = '\\' then do
      let (escaped, rest) ← readEscape? rest
      readString? budget (escaped :: before) rest
    else if c.toNat < 32 then none
    else readString? budget (c :: before) rest
  | _, _, _ => none

/-- The power of ten behind a number, where it has one, and the text behind it. -/
def readExponent? : List Char → Option (Option Int × List Char)
  | mark :: rest =>
    if mark = 'e' ∨ mark = 'E' then
      let (negative, body) := Numeral.splitSign rest
      let (digits, rest) := Numeral.splitDigits body
      let power : Int := natOfDigits digits
      if digits.isEmpty then none else some (some (if negative then -power else power), rest)
    else some (none, mark :: rest)
  | [] => some (none, [])

/-- The digits behind a point, where there is one, and the text behind them. -/
def readFraction? : List Char → Option (Option (List Nat) × List Char)
  | '.' :: rest =>
    let (digits, rest) := Numeral.splitDigits rest
    if digits.isEmpty then none else some (some digits, rest)
  | rest => some (none, rest)

/-- A number, which has to be within the range of 64-bit fractions, and the text behind it. -/
def readNumber? (text : List Char) : Option (Json × List Char) := do
  let (negative, body) := match text with
    | '-' :: rest => (true, rest)
    | _ => (false, text)
  let (whole, rest) := Numeral.splitDigits body
  -- A zero in front is a number by itself.
  if whole.isEmpty ∨ (whole.head? = some 0 ∧ whole.length ≠ 1) then none
  let (fraction?, rest) ← readFraction? rest
  let (exponent?, rest) ← readExponent? rest
  let size : Int := natOfDigits whole
  let value := if negative then -size else size
  let isWhole := fraction?.isNone && exponent?.isNone && !(negative && size == 0)
  let fits := (Int64.ofInt value).toInt = value ∨ 0 ≤ value ∧ value < UInt64.size
  if isWhole ∧ fits then return (integer value, rest)
  let numeral := Numeral.ofDigits negative whole (fraction?.getD []) (exponent?.getD 0)
  let rounded : Double := numeral.toBinary
  if rounded.isFinite then return (real rounded, rest) else none

/-- A word that stands for a value, and the text behind it. -/
def readWord? (text : List Char) : Option (Json × List Char) :=
  match text with
  | 'n' :: 'u' :: 'l' :: 'l' :: rest => some (null, rest)
  | 't' :: 'r' :: 'u' :: 'e' :: rest => some (boolean true, rest)
  | 'f' :: 'a' :: 'l' :: 's' :: 'e' :: rest => some (boolean false, rest)
  | _ => none

mutual

/-- A value and the text behind it, with a budget that the length of the text covers. -/
def readValue? : (budget : Nat) → List Char → Option (Json × List Char)
  | 0, _ => none
  | budget + 1, text =>
    match skipWhite text with
    | '"' :: rest => (readString? rest.length [] rest).map fun (text, rest) => (string text, rest)
    | '[' :: rest =>
      match skipWhite rest with
      | ']' :: rest => some (array [], rest)
      | _ => readItems? budget [] rest
    | '\x7b' :: rest =>
      match skipWhite rest with
      | '\x7d' :: rest => some (object [], rest)
      | _ => readMembers? budget [] rest
    | text => (readWord? text).orElse fun _ => readNumber? text

/-- The items of an array up to its closing bracket, behind those already read. -/
def readItems? : (budget : Nat) → (before : List Json) → List Char → Option (Json × List Char)
  | 0, _, _ => none
  | budget + 1, before, text => do
    let (item, rest) ← readValue? budget text
    match skipWhite rest with
    | ',' :: rest => readItems? budget (item :: before) rest
    | ']' :: rest => return (array (item :: before).reverse, rest)
    | _ => none

/-- The members of an object up to its closing brace, behind those already read. -/
def readMembers? : (budget : Nat) → (before : List (String × Json)) → List Char →
    Option (Json × List Char)
  | 0, _, _ => none
  | budget + 1, before, text =>
    match skipWhite text with
    | '"' :: rest => do
      let (name, rest) ← readString? rest.length [] rest
      match skipWhite rest with
      | ':' :: rest =>
        let (value, rest) ← readValue? budget rest
        match skipWhite rest with
        | ',' :: rest => readMembers? budget ((name, value) :: before) rest
        | '\x7d' :: rest => return (object ((name, value) :: before).reverse, rest)
        | _ => none
      | _ => none
    | _ => none

end

/-- The value that a whole text writes. -/
def read? (text : String) : Option Json := do
  let chars := text.toList
  -- A character costs at most two steps, into a bracket and on to the first value behind it.
  let (value, rest) ← readValue? (2 * chars.length + 1) chars
  if (skipWhite rest).isEmpty then return value else none

end PdfResize.Json
