/-! Rows of bytes, the text they stand for, and the byte classes that PDF syntax distinguishes. -/

namespace PdfResize

/-- A row of bytes, as in names, strings, streams and whole files. -/
abbrev Bytes := List UInt8

/-- The bytes of a text in which every character stands for the byte of its own number. -/
def ascii (text : String) : Bytes := text.toList.map fun c => c.toNat.toUInt8

/-- The decimal digits of a whole number. -/
def decimalBytes (value : Nat) : Bytes := (Nat.toDigits 10 value).map fun c => c.toNat.toUInt8

/-- The decimal digits of a whole number after a minus sign where it needs one. -/
def signedBytes : Int → Bytes
  | .ofNat value => decimalBytes value
  | .negSucc value => 45 :: decimalBytes (value + 1)

/-- The decimal digits of a whole number, filled up with zeros on the left. -/
def paddedBytes (width value : Nat) : Bytes :=
  let digits := decimalBytes value
  List.replicate (width - digits.length) 48 ++ digits

/-- The last `width` bytes of a whole number in base 256, the most significant first. -/
def bigEndian : (width : Nat) → (value : Nat) → Bytes
  | 0, _ => []
  | width + 1, value => bigEndian width (value / 256) ++ [value.toUInt8]

/-- The whole number that a row of bytes writes in base 256. -/
def natOfBigEndian (bytes : Bytes) : Nat :=
  bytes.foldl (fun value byte => 256 * value + byte.toNat) 0

/-- The bytes are the UTF-8 form of some text. -/
def Bytes.isUtf8 (bytes : Bytes) : Bool := (ByteArray.mk bytes.toArray).validateUTF8

namespace Byte

/-- Space, tab, line feed, carriage return, form feed and the zero byte separate tokens in a file. -/
def isWhite (byte : UInt8) : Bool :=
  byte == 32 || byte == 9 || byte == 10 || byte == 13 || byte == 12 || byte == 0

/-- The blanks of content streams: the white bytes without the zero byte. -/
def isBlank (byte : UInt8) : Bool :=
  byte == 32 || byte == 9 || byte == 10 || byte == 13 || byte == 12

/-- Carriage return and line feed end a line. -/
def isLineEnd (byte : UInt8) : Bool := byte == 10 || byte == 13

/-- The brackets, the slash and the percent sign stand for themselves. -/
def isDelimiter (byte : UInt8) : Bool := (ascii "()<>[]\x7b\x7d/%").contains byte

/-- A decimal digit. -/
def isDigit (byte : UInt8) : Bool := 48 ≤ byte && byte ≤ 57

/-- An octal digit. -/
def isOctal (byte : UInt8) : Bool := 48 ≤ byte && byte ≤ 55

/-- The value of a hexadecimal digit in letters of either case. -/
def hexValue? (byte : UInt8) : Option UInt8 :=
  if 48 ≤ byte && byte ≤ 57 then some (byte - 48)
  else if 65 ≤ byte && byte ≤ 70 then some (byte - 55)
  else if 97 ≤ byte && byte ≤ 102 then some (byte - 87)
  else none

/-- The hexadecimal digit of a value below sixteen, in an upper-case letter from ten on. -/
def hexDigit (value : UInt8) : UInt8 := if value < 10 then value + 48 else value + 55

/-- The two hexadecimal digits of a byte. -/
def hexPair (byte : UInt8) : Bytes := [hexDigit (byte / 16), hexDigit (byte % 16)]

end Byte

end PdfResize
