import PdfResize.Number.Format

/-! Numbers of a binary format, where every operation is the exact result rounded once. -/

namespace PdfResize

/-- A number of a binary format: a value on its grid, a signed zero, an infinity, or no number at all. -/
inductive Binary (format : Format) where
  /-- The answer of an operation that has none. -/
  | nan
  /-- A size beyond the range. -/
  | infinite (negative : Bool)
  /-- Zero reached from below, told apart from zero only where its sign is written. -/
  | negativeZero
  /-- An exact value, where the value zero is the positive zero. -/
  | finite (value : Rat) (held : format.Holds value)
deriving DecidableEq

/-- Page coordinates and sizes. -/
abbrev Single := Binary .single

/-- Scale factors. -/
abbrev Double := Binary .double

namespace Binary

variable {format : Format}

/-- Zero of either sign. -/
def zero (negative : Bool) : Binary format :=
  if negative then negativeZero else finite 0 format.holds_zero

/-- The number nearest to an exact value, ties to even, infinite when that is out of range. -/
def round (value : Rat) : Binary format :=
  if inRange : format.InRange (format.nearest value) then
    -- A value too small for the finest unit still leaves its sign behind.
    if format.nearest value = 0 then zero (value < 0)
    else finite (format.nearest value) ⟨inRange, format.nearest_onGrid value⟩
  else infinite (value < 0)

instance (value : Nat) : OfNat (Binary format) value := ⟨round value⟩

instance : OfScientific (Binary format) :=
  ⟨fun digits negativeExponent exponent => round (OfScientific.ofScientific digits negativeExponent exponent)⟩

/-- The nearest number to a whole number. -/
def ofInt (value : Int) : Binary format := round value

/-- The exact value that a number stands for, if it stands for one. -/
def toRat? : Binary format → Option Rat
  | nan | infinite _ => none
  | negativeZero => some 0
  | finite value _ => some value

/-- A number stands for an exact value. -/
def isFinite (number : Binary format) : Bool := number.toRat?.isSome

/-- Either zero. -/
def isZero (number : Binary format) : Bool := number.toRat? == some 0

/-- The sign is negative, which a zero can have as well. -/
def isNegative : Binary format → Bool
  | nan => false
  | infinite negative => negative
  | negativeZero => true
  | finite value _ => value < 0

/-- The number on the other side of zero. -/
def neg : Binary format → Binary format
  | nan => nan
  | infinite negative => infinite !negative
  | negativeZero => zero false
  | finite value held =>
    if value = 0 then negativeZero else finite (-value) (Format.holds_neg held)

/-- The size of a number. -/
def abs (number : Binary format) : Binary format :=
  if number.isNegative then number.neg else number

/-- The sum, where opposite infinities have none and a zero sum is positive unless both parts are negative zeros. -/
def add : Binary format → Binary format → Binary format
  | nan, _ | _, nan => nan
  | infinite left, infinite right => if left = right then infinite left else nan
  | infinite negative, _ | _, infinite negative => infinite negative
  | negativeZero, right => right
  | left, negativeZero => left
  | finite left _, finite right _ => round (left + right)

/-- The difference. -/
def sub (left right : Binary format) : Binary format := left.add right.neg

/-- The product, whose sign is negative when exactly one part is; infinity times zero has none. -/
def mul (left right : Binary format) : Binary format :=
  let negative := left.isNegative != right.isNegative
  match left, right with
  | nan, _ | _, nan => nan
  | infinite _, other | other, infinite _ => if other.isZero then nan else infinite negative
  | negativeZero, _ | _, negativeZero => zero negative
  | finite left _, finite right _ =>
    if left = 0 ∨ right = 0 then zero negative else round (left * right)

/-- The quotient, infinite over zero; zero over zero and infinity over infinity have none. -/
def div (left right : Binary format) : Binary format :=
  let negative := left.isNegative != right.isNegative
  match left, right with
  | nan, _ | _, nan => nan
  | infinite _, infinite _ => nan
  | infinite _, _ => infinite negative
  | _, infinite _ => zero negative
  | left, right =>
    if right.isZero then if left.isZero then nan else infinite negative
    else if left.isZero then zero negative
    else round (left.toRat?.getD 0 / right.toRat?.getD 0)

instance : Neg (Binary format) := ⟨neg⟩
instance : Add (Binary format) := ⟨add⟩
instance : Sub (Binary format) := ⟨sub⟩
instance : Mul (Binary format) := ⟨mul⟩
instance : Div (Binary format) := ⟨div⟩

/-- Strictly smaller on the line from minus infinity to infinity, on which both zeros are one point. -/
def less : Binary format → Binary format → Bool
  | nan, _ | _, nan => false
  | infinite left, infinite right => left && !right
  | infinite negative, _ => negative
  | _, infinite negative => !negative
  | left, right => left.toRat?.getD 0 < right.toRat?.getD 0

/-- Smaller or at the same point of the line. -/
def atMost : Binary format → Binary format → Bool
  | nan, _ | _, nan => false
  | infinite left, infinite right => left || !right
  | infinite negative, _ => negative
  | _, infinite negative => !negative
  | left, right => left.toRat?.getD 0 ≤ right.toRat?.getD 0

instance : LT (Binary format) := ⟨fun left right => left.less right = true⟩
instance : LE (Binary format) := ⟨fun left right => left.atMost right = true⟩

instance (left right : Binary format) : Decidable (left < right) :=
  inferInstanceAs (Decidable (_ = true))

instance (left right : Binary format) : Decidable (left ≤ right) :=
  inferInstanceAs (Decidable (_ = true))

/-- The larger of two numbers; one that is no number gives way to the other. -/
def larger : Binary format → Binary format → Binary format
  | nan, other | other, nan => other
  | left, right => if left < right then right else left

/-- The same value in another format, rounded to it. -/
def convert {target : Format} : Binary format → Binary target
  | nan => nan
  | infinite negative => infinite negative
  | negativeZero => negativeZero
  | finite value _ => round value

/-- The nearest whole number, a half going to the even neighbour and the sign kept. -/
def nearestWhole : Binary format → Binary format
  | finite value _ => if nearestInt value = 0 then zero (value < 0) else ofInt (nearestInt value)
  | number => number

/-- Multiply `result` by a power of `base`, squaring the base once for each bit of the exponent. -/
def raiseFrom : (steps : Nat) → (result base : Binary format) → (exponent : Nat) → Binary format
  | 0, result, _, _ => result
  | steps + 1, result, base, exponent =>
    let result := if exponent % 2 = 1 then result * base else result
    if exponent / 2 = 0 then result else raiseFrom steps result (base * base) (exponent / 2)

/-- A whole power by repeated squaring, each product rounded; a negative power is one over the positive one. -/
def raise (base : Binary format) (exponent : Int) : Binary format :=
  -- An exponent has fewer bits than units.
  let power := raiseFrom (exponent.natAbs + 1) 1 base exponent.natAbs
  if exponent < 0 then 1 / power else power

/-- The number rounded to decimal places, ties to even; scaling there and back are rounded as well. -/
def roundToPlaces (places : Int) (number : Binary format) : Binary format :=
  let scale := raise 10 places
  (number * scale).nearestWhole / scale

end Binary

end PdfResize
