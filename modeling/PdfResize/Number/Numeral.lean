import PdfResize.Number.Decimal

/-! Written decimal numbers, and reading them into a binary format with one rounding. -/

namespace PdfResize

/-- The whole number that a row of decimal digits writes. -/
def natOfDigits (digits : List Nat) : Nat :=
  digits.foldl (fun value digit => 10 * value + digit) 0

/-- A written decimal number: a sign, which a zero keeps, and a size. -/
structure Numeral where
  /-- A minus sign was written. -/
  negative : Bool
  /-- The digits, whichever side of the point they stand on, and their scale. -/
  size : Decimal
deriving DecidableEq

namespace Numeral

/-- The numeral with these digits before and after its point and this power of ten behind it. -/
def ofDigits (negative : Bool) (whole fraction : List Nat) (exponent : Int) : Numeral :=
  ⟨negative, natOfDigits (whole ++ fraction), exponent - fraction.length⟩

/-- The number of the format nearest to a numeral. -/
def toBinary {format : Format} (numeral : Numeral) : Binary format :=
  let size := numeral.size
  -- The size lies between the powers of ten `length - 1` and `length`.
  let length := (Nat.toDigits 10 size.digits).length + size.exponent
  if size.digits = 0 then .zero numeral.negative
  -- Ten exceeds two, so these sizes are decided without computing a huge power.
  else if format.limit < length then .infinite numeral.negative
  else if length < format.minExponent - 1 then .zero numeral.negative
  else .round (if numeral.negative then -size.toRat else size.toRat)

/-- A leading sign, where a plus sign says nothing, and what follows it. -/
def splitSign : List Char → Bool × List Char
  | '-' :: rest => (true, rest)
  | '+' :: rest => (false, rest)
  | chars => (false, chars)

/-- The leading decimal digits of a text and what follows them. -/
def splitDigits (chars : List Char) : List Nat × List Char :=
  let (digits, rest) := chars.span Char.isDigit
  (digits.map fun digit => digit.toNat - '0'.toNat, rest)

/-- The power of ten written at the end of a numeral: the mark, an optional sign and some digits. -/
def exponent? : List Char → Option Int
  | [] => some 0
  | mark :: rest =>
    let (negative, body) := splitSign rest
    let (digits, left) := splitDigits body
    if (mark = 'e' ∨ mark = 'E') ∧ digits ≠ [] ∧ left = [] then
      some (if negative then -natOfDigits digits else natOfDigits digits)
    else none

/-- The point of a numeral with the digits behind it, where the point may be missing. -/
def splitFraction : List Char → List Nat × List Char
  | '.' :: rest => splitDigits rest
  | chars => ([], chars)

/-- An unsigned numeral: digits around an optional point, at least one of them, and an optional power of ten. -/
def ofUnsigned? (negative : Bool) (chars : List Char) : Option Numeral :=
  let (whole, afterWhole) := splitDigits chars
  let (fraction, afterFraction) := splitFraction afterWhole
  if whole.isEmpty && fraction.isEmpty then none
  else (exponent? afterFraction).map (ofDigits negative whole fraction)

end Numeral

namespace Binary

variable {format : Format}

/-- Read a number: an optional sign, then a numeral or, in letters of any case, infinity or no number. -/
def ofText? (text : String) : Option (Binary format) :=
  let (negative, body) := Numeral.splitSign text.toList
  let word := String.ofList (body.map Char.toLower)
  if word = "inf" ∨ word = "infinity" then some (infinite negative)
  else if word = "nan" then some nan
  else (Numeral.ofUnsigned? negative body).map Numeral.toBinary

end Binary

end PdfResize
