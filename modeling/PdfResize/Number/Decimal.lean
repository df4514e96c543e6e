import PdfResize.Number.Binary

/-! Decimal text of binary numbers: the fewest digits that read back, and a fixed count of places. -/

namespace PdfResize

/-- A nonnegative decimal: some digits, and the power of ten that the last of them counts. -/
structure Decimal where
  /-- The digits as a whole number. -/
  digits : Nat
  /-- The exponent of the unit of the last digit. -/
  exponent : Int
deriving DecidableEq

namespace Decimal

/-- The exact value of a decimal. -/
def toRat (decimal : Decimal) : Rat := decimal.digits * 10 ^ decimal.exponent

/-- The exponent of the largest power of ten that does not exceed a positive rational. -/
def order (size : Rat) : Int :=
  -- The decimal lengths of numerator and denominator give it up to one.
  let estimate : Int := (Nat.toDigits 10 size.num.natAbs).length - (Nat.toDigits 10 size.den).length
  if 10 ^ estimate ≤ size then estimate else estimate - 1

/-- The digits of a whole number, filled up with zeros on the left. -/
def padded (width value : Nat) : List Char :=
  let digits := Nat.toDigits 10 value
  List.replicate (width - digits.length) '0' ++ digits

/-- The digits of a whole number before and after a point with `places` digits behind it. -/
def splitAtPoint (places value : Nat) : List Char × List Char :=
  -- One digit at least stands before the point.
  let row := padded (places + 1) value
  row.splitAt (row.length - places)

/-- Positional text: never an exponent, zeros filled in, and no point where no digit would follow it. -/
def text (decimal : Decimal) : String :=
  if decimal.digits = 0 then "0"
  else if 0 ≤ decimal.exponent then
    String.ofList (Nat.toDigits 10 decimal.digits ++ List.replicate decimal.exponent.toNat '0')
  else
    let (whole, fraction) := splitAtPoint (-decimal.exponent).toNat decimal.digits
    -- A zero at the very end says nothing.
    let rest := (fraction.reverse.dropWhile (· == '0')).reverse
    String.ofList (if rest.isEmpty then whole else whole ++ '.' :: rest)

/-- The neighbours of a size on the grid of decimals with the given last unit, the upper one second. -/
def neighbours (size : Rat) (exponent : Int) : Decimal × Decimal :=
  let below := (size / 10 ^ exponent).floor.toNat
  (⟨below, exponent⟩, ⟨below + 1, exponent⟩)

/--
Search the decimal grids from a coarse one to finer ones for a decimal that reads back as the size.

On the first grid with a hit the nearer neighbour is taken, and the upper one when both are equally near.
-/
def search (readsBack : Rat → Bool) (size : Rat) : (grids : Nat) → (exponent : Int) → Decimal
  | 0, exponent => (neighbours size exponent).1
  | grids + 1, exponent =>
    let (lower, upper) := neighbours size exponent
    match readsBack lower.toRat, readsBack upper.toRat with
    | true, true => if size - lower.toRat < upper.toRat - size then lower else upper
    | true, false => lower
    | false, true => upper
    | false, false => search readsBack size grids (exponent - 1)

/-- The decimal with the fewest digits that the format rounds to the size, and of those the nearest. -/
def shortest (format : Format) (size : Rat) : Decimal :=
  -- No number needs more decimal digits than it has bits.
  search (fun candidate => format.nearest candidate = size) size format.precision (order size)

/-- A size with a fixed count of decimal places, a half of the last place going to the even digit. -/
def fixedText (places : Nat) (size : Rat) : String :=
  let (whole, fraction) := splitAtPoint places (nearestInt (size * 10 ^ places)).toNat
  String.ofList (if fraction.isEmpty then whole else whole ++ '.' :: fraction)

end Decimal

namespace Binary

variable {format : Format}

/-- The text of a number around the text of its size: a minus sign also for a negative zero, none for no number. -/
private def textAround (sizeText : Rat → String) (number : Binary format) : String :=
  match number with
  | nan => "NaN"
  | infinite negative => if negative then "-inf" else "inf"
  | negativeZero => "-" ++ sizeText 0
  | finite value _ => if value < 0 then "-" ++ sizeText (-value) else sizeText value

/-- The shortest positional text that reads back as the same number. -/
def text (number : Binary format) : String :=
  textAround (fun size => (Decimal.shortest format size).text) number

/-- The text with a fixed count of decimal places. -/
def fixedText (places : Nat) (number : Binary format) : String :=
  textAround (Decimal.fixedText places) number

end Binary

end PdfResize
