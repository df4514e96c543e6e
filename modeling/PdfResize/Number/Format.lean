/-! Binary number formats, and the rounding of a rational to the nearest number of one. -/

namespace PdfResize

/-- A binary number format: the bits it keeps, its finest unit, and the power of two it stays below. -/
structure Format where
  /-- The number of bits in a significand. -/
  precision : Nat
  /-- The exponent of the finest unit, below which nothing is told apart. -/
  minExponent : Int
  /-- Every number is smaller in size than two to this power. -/
  limit : Int
  /-- A significand has at least one bit, so powers of two are on the grid. -/
  precise : 0 < precision
deriving DecidableEq

namespace Format

/-- The 32-bit format, in which page coordinates are kept. -/
def single : Format := ⟨24, -149, 128, by decide⟩

/-- The 64-bit format, in which scale factors are computed. -/
def double : Format := ⟨53, -1074, 1024, by decide⟩

/-- A size is in range when it stays below the format's power of two. -/
def InRange (format : Format) (value : Rat) : Prop :=
  -2 ^ format.limit < value ∧ value < 2 ^ format.limit

instance (format : Format) (value : Rat) : Decidable (format.InRange value) :=
  inferInstanceAs (Decidable (_ ∧ _))

/-- The number of significands; one more than the largest, which a carry reaches, names the same values. -/
def significandLimit (format : Format) : Nat := Nat.pow 2 format.precision

/-- A value is on the grid when some significand of the format times a unit of the format gives it. -/
def OnGrid (format : Format) (value : Rat) : Prop :=
  ∃ significand exponent : Int, significand.natAbs ≤ format.significandLimit ∧
    format.minExponent ≤ exponent ∧ value = significand * 2 ^ exponent

/-- The rationals that a format holds are those on its grid and in its range. -/
def Holds (format : Format) (value : Rat) : Prop :=
  format.InRange value ∧ format.OnGrid value

/-- Zero is a number of every format. -/
theorem holds_zero (format : Format) : format.Holds 0 := by
  -- Zero is zero units of the finest size.
  have positive : (0 : Rat) < 2 ^ format.limit := Rat.zpow_pos (by decide)
  exact ⟨⟨by simpa using Rat.neg_lt_neg positive, positive⟩, 0, format.minExponent, by simp⟩

end Format

/-- The nearest whole number, where a half goes to the even neighbour. -/
def nearestInt (value : Rat) : Int :=
  let below := value.floor
  let rest := value - below
  if rest < 1 / 2 then below
  else if 1 / 2 < rest then below + 1
  else if below % 2 = 0 then below
  else below + 1

/-- The nearest whole number is the floor or the one above it. -/
theorem nearestInt_eq (value : Rat) :
    nearestInt value = value.floor ∨ nearestInt value = value.floor + 1 := by
  -- Every branch answers one of the two.
  simp only [nearestInt]
  split
  · exact .inl rfl
  · split
    · exact .inr rfl
    · split
      · exact .inl rfl
      · exact .inr rfl

/-- A value between two whole numbers has its nearest whole number between them as well. -/
theorem nearestInt_bounds {value : Rat} {low high : Int} (above : (low : Rat) ≤ value)
    (below : value < (high : Rat)) : low ≤ nearestInt value ∧ nearestInt value ≤ high := by
  -- The floor is at least the lower bound and strictly under the upper one.
  have atLeast : low ≤ value.floor := Rat.le_floor_iff.2 above
  have atMost : value.floor < high := Rat.floor_lt_iff.2 below
  rcases nearestInt_eq value with same | same <;> omega

/-- Powers of two grow with their exponent. -/
theorem two_zpow_le {low high : Int} (ordered : low ≤ high) : (2 : Rat) ^ low ≤ 2 ^ high := by
  -- The larger power is the smaller one times a whole power of two, which is at least one.
  have split : high = low + ((high - low).toNat : Nat) := by omega
  have atLeastOne : (1 : Rat) ≤ 2 ^ (high - low).toNat := by
    have whole : ((1 : Nat) : Rat) ≤ ((2 ^ (high - low).toNat : Nat) : Rat) :=
      Rat.natCast_le_natCast.2 Nat.one_le_two_pow
    simpa using whole
  rw [split, Rat.zpow_add (by decide), Rat.zpow_natCast]
  have scaled := Rat.mul_le_mul_of_nonneg_left atLeastOne (Rat.le_of_lt (Rat.zpow_pos (n := low)
    (by decide : (0 : Rat) < 2)))
  simpa using scaled

/-- The exponent of the largest power of two that does not exceed a positive rational. -/
def binaryOrder (size : Rat) : Int :=
  -- The lengths of numerator and denominator give it up to one.
  let estimate : Int := size.num.natAbs.log2 - size.den.log2
  if 2 ^ estimate ≤ size then estimate else estimate - 1

/-- A rational stays below the next power of two after its order. -/
theorem lt_two_zpow_binaryOrder {size : Rat} (nonneg : 0 ≤ size) :
    size < 2 ^ (binaryOrder size + 1) := by
  -- The numerator has no more bits than its length says and the denominator no fewer.
  have estimated : size < 2 ^ ((size.num.natAbs.log2 : Int) - size.den.log2 + 1) := by
    have numerator : (size.num : Rat) < 2 ^ ((size.num.natAbs.log2 : Int) + 1) := by
      have whole := Rat.natCast_lt_natCast.2 (@Nat.lt_log2_self size.num.natAbs)
      have same : ((size.num.natAbs : Nat) : Rat) = (size.num : Rat) := by
        rw [← Rat.intCast_natCast, Int.natAbs_of_nonneg (Rat.num_nonneg.2 nonneg)]
      rw [same] at whole
      have power : ((2 ^ (size.num.natAbs.log2 + 1) : Nat) : Rat) =
          2 ^ ((size.num.natAbs.log2 : Int) + 1) := by
        rw [Rat.natCast_pow]
        exact (Rat.zpow_natCast 2 (size.num.natAbs.log2 + 1)).symm
      exact power ▸ whole
    have denominator : (2 : Rat) ^ (size.den.log2 : Int) ≤ (size.den : Rat) := by
      have whole := Rat.natCast_le_natCast.2 (Nat.log2_self_le size.den_nz)
      rw [Rat.natCast_pow] at whole
      rwa [Rat.zpow_natCast]
    have positive : (0 : Rat) < 2 ^ ((size.num.natAbs.log2 : Int) - size.den.log2 + 1) :=
      Rat.zpow_pos (by decide)
    have denPositive : (0 : Rat) < size.den := Rat.natCast_pos.2 size.den_pos
    have product : size * size.den < 2 ^ ((size.num.natAbs.log2 : Int) - size.den.log2 + 1) *
        size.den := by
      have cleared : size * size.den = size.num := by
        have quotient : (size.num : Rat) / size.den = size := by
          rw [← Rat.mkRat_eq_div, Rat.mkRat_self]
        have cancelled := Rat.div_mul_cancel (a := size.num) (Rat.ne_of_gt denPositive)
        rwa [quotient] at cancelled
      have grown := Rat.mul_le_mul_of_nonneg_left denominator (Rat.le_of_lt positive)
      rw [← Rat.zpow_add (by decide)] at grown
      have exponents : (size.num.natAbs.log2 : Int) - size.den.log2 + 1 + size.den.log2 =
          size.num.natAbs.log2 + 1 := by omega
      rw [exponents] at grown
      rw [cleared]
      grind
    exact (Rat.mul_lt_mul_right denPositive).1 product
  simp only [binaryOrder]
  split
  · exact estimated
  · rename_i above
    simpa using Rat.not_le.1 above

namespace Format

/-- The exponent of the unit that a size is measured in, coarse enough to leave it `precision` bits. -/
def unitExponent (format : Format) (size : Rat) : Int :=
  max format.minExponent (binaryOrder size + 1 - format.precision)

/-- The number of the format's grid nearest to a size, ties going to the even significand. -/
def nearestSize (format : Format) (size : Rat) : Rat :=
  nearestInt (size / 2 ^ format.unitExponent size) * 2 ^ format.unitExponent size

/-- The number of the format's grid nearest to a value of either sign. -/
def nearest (format : Format) (value : Rat) : Rat :=
  if value < 0 then -format.nearestSize (-value) else format.nearestSize value

/-- The grid is the same on both sides of zero. -/
theorem onGrid_neg {format : Format} {value : Rat} (grid : format.OnGrid value) :
    format.OnGrid (-value) := by
  -- Negating the significand keeps its length.
  obtain ⟨significand, exponent, short, fine, rfl⟩ := grid
  exact ⟨-significand, exponent, by simpa using short, fine, by
    rw [Rat.intCast_neg, Rat.neg_mul]⟩

/-- Rounding a size lands on the grid. -/
theorem nearestSize_onGrid (format : Format) {size : Rat} (nonneg : 0 ≤ size) :
    format.OnGrid (format.nearestSize size) := by
  -- Measured in its unit the size has at most `precision` bits, and rounding adds at most a carry.
  let exponent := format.unitExponent size
  have unit : (0 : Rat) < 2 ^ exponent := Rat.zpow_pos (by decide)
  have order : binaryOrder size + 1 ≤ exponent + format.precision := by
    have := Int.le_max_right format.minExponent (binaryOrder size + 1 - format.precision)
    show binaryOrder size + 1 ≤ max _ _ + _
    omega
  have below : size / 2 ^ exponent < ((2 ^ format.precision : Int) : Rat) := by
    have largest : ((2 ^ format.precision : Int) : Rat) = 2 ^ (format.precision : Int) := by
      rw [Rat.intCast_pow, Rat.zpow_natCast]
      rfl
    rw [Rat.div_lt_iff' unit, largest, ← Rat.zpow_add (by decide)]
    have under := lt_two_zpow_binaryOrder nonneg
    have reach := two_zpow_le order
    grind
  have above : ((0 : Int) : Rat) ≤ size / 2 ^ exponent := by
    rw [Rat.div_def]
    exact Rat.mul_nonneg nonneg (Rat.le_of_lt (Rat.inv_pos.2 unit))
  have bounds := nearestInt_bounds above below
  refine ⟨nearestInt (size / 2 ^ exponent), exponent, ?_, Int.le_max_left _ _, rfl⟩
  have whole : (format.significandLimit : Int) = 2 ^ format.precision := by
    simp [significandLimit]
  omega

/-- Rounding a value lands on the grid. -/
theorem nearest_onGrid (format : Format) (value : Rat) : format.OnGrid (format.nearest value) := by
  -- Both signs reduce to rounding a size.
  unfold nearest
  split
  · rename_i negative
    exact onGrid_neg (format.nearestSize_onGrid (Rat.le_of_lt (Rat.lt_neg_iff.1 (by simpa using negative))))
  · rename_i nonneg
    exact format.nearestSize_onGrid (Rat.not_lt.1 nonneg)

/-- A format holds a value together with its negative. -/
theorem holds_neg {format : Format} {value : Rat} (held : format.Holds value) :
    format.Holds (-value) :=
  -- The range is symmetric and so is the grid.
  ⟨⟨Rat.neg_lt_neg held.1.2, Rat.neg_lt_iff.1 held.1.1⟩, onGrid_neg held.2⟩

end Format

end PdfResize
