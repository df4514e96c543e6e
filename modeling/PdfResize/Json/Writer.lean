import PdfResize.Json.Basic

/-! Writing JSON values as text. -/

namespace PdfResize.Json

/-- A character inside a quoted text; only quotes, backslashes and control characters are escaped. -/
def writeChar (c : Char) : List Char :=
  if c = '"' ∨ c = '\\' then ['\\', c]
  else if c.toNat < 32 then
    ['\\', 'u', '0', '0', Nat.digitChar (c.toNat / 16), Nat.digitChar (c.toNat % 16)]
  else [c]

/-- A text in quotes. -/
def writeString (text : String) : List Char := '"' :: text.toList.flatMap writeChar ++ ['"']

mutual

/-- The characters that write a value. -/
def writeChars : Json → List Char
  | null => "null".toList
  | boolean value => (if value then "true" else "false").toList
  | integer value => (toString value).toList
  -- Text for infinities and for what is no number is not part of the format.
  | real value => (if value.isFinite then value.text else "null").toList
  | string text => writeString text
  | array items => '[' :: writeItems items ++ [']']
  | object members => '\x7b' :: writeMembers members ++ ['\x7d']

/-- Values with commas between them. -/
def writeItems : List Json → List Char
  | [] => []
  | [item] => item.writeChars
  | item :: rest => item.writeChars ++ ',' :: writeItems rest

/-- Values behind their names, with commas between them. -/
def writeMembers : List (String × Json) → List Char
  | [] => []
  | [(name, value)] => writeString name ++ ':' :: value.writeChars
  | (name, value) :: rest => writeString name ++ ':' :: value.writeChars ++ ',' :: writeMembers rest

end

/-- The text that writes a value on one line. -/
def write (value : Json) : String := String.ofList value.writeChars

end PdfResize.Json
