import PdfResize.Bytes

/-! Base64 text of bytes, with padding. -/

namespace PdfResize.Base64

/-- The characters for the values below 64. -/
def alphabet : List Char :=
  "ABCDEFGHIJKLMNOPQRSTUVWXYZabcdefghijklmnopqrstuvwxyz0123456789+/".toList

/-- The character for a value below 64. -/
def digit (value : Nat) : Char := alphabet.getD value '='

/-- Four characters for each three bytes, the last group being filled up with equals signs. -/
def encodeChars : Bytes → List Char
  | [] => []
  | [first] =>
    let bits := first.toNat * 16
    [digit (bits / 64), digit (bits % 64), '=', '=']
  | [first, second] =>
    let bits := (first.toNat * 256 + second.toNat) * 4
    [digit (bits / 4096), digit (bits / 64 % 64), digit (bits % 64), '=']
  | first :: second :: third :: rest =>
    let bits := (first.toNat * 256 + second.toNat) * 256 + third.toNat
    digit (bits / 262144) :: digit (bits / 4096 % 64) :: digit (bits / 64 % 64) ::
      digit (bits % 64) :: encodeChars rest

/-- The text of bytes. -/
def encode (bytes : Bytes) : String := String.ofList (encodeChars bytes)

end PdfResize.Base64
