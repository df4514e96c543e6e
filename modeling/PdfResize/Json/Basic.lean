import PdfResize.Number.Numeral

/-! JSON values, with whole numbers kept apart from numbers that have a fraction or an exponent. -/

namespace PdfResize

/-- A JSON value. -/
inductive Json where
  /-- The null value. -/
  | null
  /-- A truth value. -/
  | boolean (value : Bool)
  /-- A number written without point and exponent that fits 64 bits, with or without a sign. -/
  | integer (value : Int)
  /-- Any other number. -/
  | real (value : Double)
  /-- A text. -/
  | string (text : String)
  /-- A row of values. -/
  | array (items : List Json)
  /-- Values under names. -/
  | object (members : List (String × Json))
deriving Inhabited

namespace Json

/-- The value under a name; of several the last one counts. -/
def member? : Json → String → Option Json
  | object members, name => members.reverse.lookup name
  | _, _ => none

/-- The text of a value that is one. -/
def string? : Json → Option String
  | string text => some text
  | _ => none

/-- The 32-bit number of a value that is a number; a fraction is rounded to 64 bits on the way. -/
def single? : Json → Option Single
  | integer value => some (.ofInt value)
  | real value => some value.convert
  | _ => none

/-- The byte of a value that is a whole number of the right size. -/
def byte? : Json → Option UInt8
  | integer value => if 0 ≤ value ∧ value < 256 then some value.toNat.toUInt8 else none
  | _ => none

/-- The bytes of a value that is a row of them. -/
def bytes? : Json → Option (List UInt8)
  | array items => items.mapM byte?
  | _ => none

/--
The values of a record with named fields, each as far as it is given.

A record is written as an object, where other names are passed over, or as a row of its first fields.
-/
def record? (fields : List String) : Json → Option (List (Option Json))
  | object members => some (fields.map (object members).member?)
  | array items =>
    if items.length ≤ fields.length then
      some (items.map some ++ List.replicate (fields.length - items.length) none)
    else none
  | _ => none

end Json

end PdfResize
