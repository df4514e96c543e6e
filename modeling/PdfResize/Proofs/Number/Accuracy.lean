import PdfResize.Proofs.Number.Order

/-! How far a rounded result is from the exact one. -/

namespace PdfResize

/-- The nearest whole number is at most a half away. -/
theorem abs_nearestInt_sub_le (value : Rat) : |(nearestInt value : Rat) - value| ≤ 1 / 2 := by
  -- The floor is below the value and the next whole number above it, and the nearer one is taken.
  have below : (value.floor : Rat) ≤ value := Rat.floor_le value
  have above : value - 1 < value.floor := Rat.lt_floor
  rw [abs_le]
  simp only [nearestInt]
  split
  · constructor <;> linarith
  · split
    · push_cast
      constructor <;> linarith
    · -- A half is as far from either neighbour.
      split
      · constructor <;> linarith
      · push_cast
        constructor <;> linarith

namespace Format

/-- The largest part of a value that rounding to the format can change, unless the value is tiny. -/
def epsilon (format : Format) : Rat := 2 ^ (-(format.precision : Int))

/-- Half of the finest unit, which rounding can change a tiny value by. -/
def tiny (format : Format) : Rat := 2 ^ format.minExponent / 2

/-- The relative error of a format is not negative. -/
theorem epsilon_nonneg (format : Format) : 0 ≤ format.epsilon := by
  -- It is a power of two.
  unfold epsilon
  positivity

/-- The absolute error of a format is not negative. -/
theorem tiny_nonneg (format : Format) : 0 ≤ format.tiny := by
  -- It is half a power of two.
  unfold tiny
  positivity

/-- The relative error of the smaller format. -/
theorem single_epsilon : single.epsilon = 1 / 2 ^ 24 := by
  -- The precision is a numeral, so the power is evaluated.
  norm_num [epsilon, single]

/-- A single number is off by less than a ten-millionth part, unless it is tiny. -/
theorem single_epsilon_le : single.epsilon ≤ 1 / 10 ^ 7 := by
  -- The power of two is compared with the power of ten.
  rw [single_epsilon]
  norm_num

/-- The relative error of the larger format. -/
theorem double_epsilon : double.epsilon = 1 / 2 ^ 53 := by
  -- The precision is a numeral, so the power is evaluated.
  norm_num [epsilon, double]

/-- Half of the finest unit of double numbers is next to nothing. -/
theorem double_tiny_le : double.tiny ≤ 1 / 10 ^ 12 := by
  -- The power is far too small to be evaluated, so it is compared with one that is not.
  have positive : (0 : Rat) < 2 ^ (-1074 : Int) := by positivity
  calc double.tiny ≤ 2 ^ (-1074 : Int) := half_le_self positive.le
    _ ≤ 2 ^ (-40 : Int) := two_zpow_le (by decide)
    _ ≤ 1 / 10 ^ 12 := by norm_num

/-- A size is rounded by at most half of its unit. -/
theorem abs_nearestSize_sub_le (format : Format) (size : Rat) :
    |format.nearestSize size - size| ≤ 2 ^ format.unitExponent size / 2 := by
  -- Divided by the unit this is the rounding to a whole number.
  have unit : (0 : Rat) < 2 ^ format.unitExponent size := by positivity
  have near := abs_nearestInt_sub_le (size / 2 ^ format.unitExponent size)
  have split : format.nearestSize size - size =
      (nearestInt (size / 2 ^ format.unitExponent size) - size / 2 ^ format.unitExponent size) *
        2 ^ format.unitExponent size := by
    unfold nearestSize
    rw [sub_mul, div_mul_cancel₀ _ unit.ne']
  rw [split, abs_mul, abs_of_pos unit]
  nlinarith

/-- The unit of a size is a small part of the size, or else it is the finest unit. -/
theorem unit_le_or_eq (format : Format) {size : Rat} (positive : 0 < size) :
    (2 : Rat) ^ format.unitExponent size / 2 ≤ size * format.epsilon ∨
      format.unitExponent size = format.minExponent := by
  -- The unit is the larger of two powers, and which one it is makes the cases.
  rcases Int.le_total (binaryOrder size + 1 - format.precision) format.minExponent with fine | coarse
  · exact .inr (max_eq_left fine)
  · -- Above the finest unit there are always as many units in a size as the precision says.
    left
    have exponent : format.unitExponent size = binaryOrder size + 1 + -(format.precision : Int) :=
      max_eq_right coarse
    have order := two_zpow_binaryOrder_le positive
    rw [exponent, zpow_add₀ (by norm_num), zpow_add₀ (by norm_num), zpow_one]
    have small : (0 : Rat) ≤ 2 ^ (-(format.precision : Int)) := by positivity
    unfold epsilon
    nlinarith

/-- A size is rounded by a small part of it and at most half of the finest unit. -/
theorem abs_nearestSize_sub_le_part (format : Format) {size : Rat} (nonneg : 0 ≤ size) :
    |format.nearestSize size - size| ≤ size * format.epsilon + format.tiny := by
  -- Zero is kept, and any other size is off by half of its unit at the most.
  have small := format.epsilon_nonneg
  have finestHalf := format.tiny_nonneg
  rcases nonneg.eq_or_lt with rfl | positive
  · simpa [nearestSize_zero] using finestHalf
  · -- Half of the unit is a small part of the size, unless the unit is the finest one.
    have error := format.abs_nearestSize_sub_le size
    rcases format.unit_le_or_eq positive with part | finest
    · linarith
    · rw [finest] at error
      have nonnegPart : 0 ≤ size * format.epsilon := by positivity
      unfold tiny
      linarith

/-- A whole number of finest units is rounded by a small part of it alone. -/
theorem abs_nearestSize_sub_le_of_units {format : Format} {size : Rat} (nonneg : 0 ≤ size) {whole : Int}
    (units : size = whole * 2 ^ format.minExponent) :
    |format.nearestSize size - size| ≤ size * format.epsilon := by
  -- Zero is kept, and any other size has a unit that is small beside it or the finest one.
  have small := format.epsilon_nonneg
  rcases nonneg.eq_or_lt with rfl | positive
  · simp [nearestSize_zero]
  · rcases format.unit_le_or_eq positive with part | finest
    · exact le_trans (format.abs_nearestSize_sub_le size) part
    · -- Measured in the finest unit it is a whole number, which is not changed at all.
      have exact : size = whole * 2 ^ format.unitExponent size := by rw [finest, ← units]
      have same : format.nearestSize size = size := by
        refine le_antisymm ?_ ?_
        · conv_rhs => rw [exact]
          exact nearestSize_le_unit exact.le
        · conv_lhs => rw [exact]
          exact unit_le_nearestSize exact.ge
      rw [same, sub_self, abs_zero]
      positivity

/-- A value of either sign is rounded as far as its size is. -/
theorem abs_nearest_sub (format : Format) (value : Rat) :
    |format.nearest value - value| = |format.nearestSize (abs value) - abs value| := by
  -- Below zero both the value and its rounding change their sign.
  unfold nearest
  split
  · rename_i negative
    rw [abs_of_neg negative, ← abs_neg]
    congr 1
    ring
  · rename_i nonneg
    rw [abs_of_nonneg (not_lt.1 nonneg)]

/-- The distance between two numbers of the grid is a whole number of finest units. -/
theorem units_abs_sub {format : Format} {left right : Rat} (leftGrid : format.OnGrid left)
    (rightGrid : format.OnGrid right) :
    ∃ whole : Int, |left - right| = whole * 2 ^ format.minExponent := by
  -- Both sides are counted in the finest unit, and so is what lies between them.
  obtain ⟨leftUnits, rfl⟩ := leftGrid.units
  obtain ⟨rightUnits, rfl⟩ := rightGrid.units
  have unit : (0 : Rat) < 2 ^ format.minExponent := by positivity
  refine ⟨|leftUnits - rightUnits|, ?_⟩
  rw [← sub_mul, abs_mul, abs_of_pos unit]
  push_cast
  rfl

end Format

namespace Binary

variable {format : Format} {number left right : Binary format} {value first second result : Rat}

/-- What an answer stands for is the number of the grid nearest to the exact result. -/
theorem Rounds.eq_nearest (rounds : number.Rounds value) (exact : number.toRat? = some result) :
    result = format.nearest value := by
  -- The rounded number is the nearest one, unless it is out of range or a zero with a sign.
  rcases rounds with rfl | ⟨rfl, nothing⟩
  · -- An answer out of range stands for nothing.
    unfold round at exact
    split at exact
    · split at exact
      · rename_i same
        rw [toRat?_signedZero] at exact
        cases exact
        exact same.symm
      · cases exact
        rfl
    · cases exact
  · rw [nothing] at exact
    cases exact
    exact (Format.nearest_of_onGrid format.holds_zero.2).symm

/-- An answer differs from the exact result by a small part of it and at most half of the finest unit. -/
theorem Rounds.error (rounds : number.Rounds value) (exact : number.toRat? = some result) :
    |result - value| ≤ |value| * format.epsilon + format.tiny := by
  -- The sign is set aside, and the size is rounded with this error.
  rw [rounds.eq_nearest exact, format.abs_nearest_sub]
  exact format.abs_nearestSize_sub_le_part (abs_nonneg value)

/-- A difference is rounded by a small part of it alone, however small it is. -/
theorem sub_error (leftExact : left.toRat? = some first) (rightExact : right.toRat? = some second)
    (exact : (left - right).toRat? = some result) :
    |result - (first - second)| ≤ |first - second| * format.epsilon := by
  rw [(rounds_sub leftExact rightExact).eq_nearest exact, format.abs_nearest_sub]
  -- Nothing finer than the finest unit is there to be lost.
  obtain ⟨whole, units⟩ :=
    Format.units_abs_sub (holds_of_toRat? leftExact).2 (holds_of_toRat? rightExact).2
  exact Format.abs_nearestSize_sub_le_of_units (abs_nonneg _) units

/-- The size of a number stands for the size of its value. -/
theorem toRat?_abs (number : Binary format) : number.abs.toRat? = number.toRat?.map fun value => |value| := by
  -- Only a number with a negative sign is changed.
  cases number with
  | nan => rfl
  | infinite negative => cases negative <;> rfl
  | negativeZero =>
    show (zero false : Binary format).toRat? = some |0|
    rw [toRat?_signedZero, abs_zero]
  | finite value held =>
    rcases lt_trichotomy value 0 with below | rfl | above
    · simp [Binary.abs, isNegative, neg, toRat?, below, below.ne, abs_of_neg below]
    · simp [Binary.abs, isNegative, toRat?]
    · simp [Binary.abs, isNegative, toRat?, above.not_gt, abs_of_nonneg above.le]

/-- Only a sum of two numbers with values has a value. -/
theorem exists_toRat?_of_add (exact : (left.add right).toRat? = some result) :
    ∃ first second, left.toRat? = some first ∧ right.toRat? = some second := by
  -- An infinity on either side leaves an infinity or no number at all.
  cases left with
  | nan => cases right <;> cases exact
  | infinite negative =>
    cases right with
    | infinite other => cases negative <;> cases other <;> cases exact
    | _ => cases exact
  | negativeZero =>
    cases right with
    | nan => cases exact
    | infinite other => cases exact
    | negativeZero => exact ⟨0, 0, rfl, rfl⟩
    | finite value held => exact ⟨0, value, rfl, rfl⟩
  | finite first held =>
    cases right with
    | nan => cases exact
    | infinite other => cases exact
    | negativeZero => exact ⟨first, 0, rfl, rfl⟩
    | finite value held => exact ⟨first, value, rfl, rfl⟩

/-- The size of a difference is the distance of two values, rounded by a small part of it. -/
theorem abs_sub_error (exact : (left - right).abs.toRat? = some result) :
    ∃ first second, left.toRat? = some first ∧ right.toRat? = some second ∧
      |result - (|first - second|)| ≤ |first - second| * format.epsilon := by
  rw [toRat?_abs] at exact
  obtain ⟨difference, stands, rfl⟩ := Option.map_eq_some_iff.1 exact
  obtain ⟨first, other, leftExact, negExact⟩ := exists_toRat?_of_add stands
  -- The other number has a value because its negative has one.
  have rightExact : ∃ second, right.toRat? = some second := by
    cases right with
    | nan => cases negExact
    | infinite negative => cases negExact
    | negativeZero => exact ⟨0, rfl⟩
    | finite value held => exact ⟨value, rfl⟩
  obtain ⟨second, rightExact⟩ := rightExact
  refine ⟨first, second, leftExact, rightExact, ?_⟩
  exact le_trans (abs_abs_sub_abs_le _ _) (sub_error leftExact rightExact stands)

/-- A single number for a value that is at most one is less than a ten-millionth off. -/
theorem Rounds.single_error {number : Single} (rounds : number.Rounds value)
    (exact : number.toRat? = some result) (atMost : |value| ≤ 1) : |result - value| ≤ 1 / 10 ^ 7 := by
  -- The general bound is evaluated for this format and a value of this size.
  have error := rounds.error exact
  have tiny : Format.single.tiny ≤ 1 / 10 ^ 8 := by norm_num [Format.tiny, Format.single]
  rw [Format.single_epsilon] at error
  linarith

/-- A double number for a value up to ten thousand is less than a hundred-billionth off. -/
theorem Rounds.double_error {number : Double} (rounds : number.Rounds value)
    (exact : number.toRat? = some result) (atMost : |value| ≤ 10000) :
    |result - value| ≤ 1 / 10 ^ 11 := by
  -- The general bound is evaluated for this format and a value of this size.
  have error := rounds.error exact
  have tiny := Format.double_tiny_le
  rw [Format.double_epsilon] at error
  linarith

end Binary

end PdfResize
