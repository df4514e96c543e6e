import PdfResize.Proofs.Number.Rounding

/-! Sizes that are rounded to a number just below them, and sizes of which rounding leaves nothing. -/

namespace PdfResize

/-- A value less than a half above a whole number is nearest to it. -/
theorem nearestInt_of_near {value : Rat} {whole : Int} (above : whole ≤ value)
    (near : value < whole + 1 / 2) : nearestInt value = whole := by
  -- The whole number is the floor, and the rest is too small to round up.
  have floor : value.floor = whole := by
    have atLeast : whole ≤ value.floor := Rat.le_floor_iff.2 above
    have below : value.floor < whole + 1 := by
      refine Rat.floor_lt_iff.2 ?_
      push_cast
      linarith
    omega
  rw [nearestInt, floor]
  exact if_pos (by linarith)

/-- A half has no more than zero as its nearest whole number, being as near to one. -/
theorem nearestInt_half : nearestInt (1 / 2) = 0 := by
  -- The rest above the floor is exactly a half.
  have floor : (1 / 2 : Rat).floor = 0 := le_antisymm
    (Int.lt_add_one_iff.1 (Rat.floor_lt_iff.2 (by norm_num))) (Rat.le_floor_iff.2 (by norm_num))
  rw [nearestInt, floor]
  norm_num

/-- A value that is not negative rounds to zero up to one half. -/
theorem nearestInt_eq_zero_iff {value : Rat} (nonneg : 0 ≤ value) :
    nearestInt value = 0 ↔ value ≤ 1 / 2 := by
  constructor
  · intro nothing
    by_contra above
    -- From a half on the floor is at least one, or the rest is the larger part.
    rcases Int.lt_or_le 0 value.floor with one | zero
    · rcases nearestInt_eq value with same | same <;> omega
    · have floor : value.floor = 0 := by
        have atLeast : 0 ≤ value.floor := Rat.le_floor_iff.2 (by exact_mod_cast nonneg)
        omega
      rw [nearestInt, floor, if_neg (by push_cast; linarith), if_pos (by push_cast; linarith)] at nothing
      omega
  · intro small
    -- A half itself goes to the even neighbour.
    rcases small.lt_or_eq with less | rfl
    · exact nearestInt_of_near (by exact_mod_cast nonneg) (by push_cast; linarith)
    · exact nearestInt_half

/-- A size below a power of two is of a smaller order. -/
theorem binaryOrder_lt {size : Rat} {exponent : Int} (positive : 0 < size)
    (below : size < 2 ^ exponent) : binaryOrder size < exponent := by
  -- The power of two under the size is below the bound, and powers are in the order of their exponents.
  have order := lt_of_le_of_lt (two_zpow_binaryOrder_le positive) below
  exact (zpow_lt_zpow_iff_right₀ (by norm_num)).1 order

/-- A larger size is of no smaller order. -/
theorem binaryOrder_mono {size larger : Rat} (positive : 0 < size) (ordered : size ≤ larger) :
    binaryOrder size ≤ binaryOrder larger := by
  -- The larger size is below the next power of two after its order, and so is the smaller one.
  have order := binaryOrder_lt positive
    (lt_of_le_of_lt ordered (lt_two_zpow_binaryOrder (positive.le.trans ordered)))
  omega

namespace Format

variable {format : Format} {size larger : Rat}

/-- A number of the grid is a whole number of the units that it is measured in. -/
theorem OnGrid.exists_units (grid : format.OnGrid size) (positive : 0 < size) :
    ∃ whole : Int, size = whole * 2 ^ format.unitExponent size := by
  -- A number of the format is a multiple of its unit, or the power of two under itself.
  rcases onGrid_unit_or_le size grid with units | ⟨small, whole, unit⟩
  · exact units
  · -- The number is the power of two under it.
    have order := two_zpow_binaryOrder_le positive
    exact ⟨whole, by linarith⟩

/-- The unit of a size leaves it no more bits than the format keeps. -/
theorem lt_two_zpow_unitExponent (nonneg : 0 ≤ size) :
    size < 2 ^ (format.unitExponent size + format.precision) := by
  -- The next power of two is above the size, and the unit is no more places below it than the precision says.
  refine lt_of_lt_of_le (lt_two_zpow_binaryOrder nonneg) (two_zpow_le ?_)
  rw [unitExponent]
  omega

/-- A number of the grid is a whole unit at least below the power of two that its unit reaches. -/
theorem OnGrid.add_unit_le (grid : format.OnGrid size) (positive : 0 < size) :
    size + 2 ^ format.unitExponent size ≤ 2 ^ (format.unitExponent size + format.precision) := by
  have below : size < 2 ^ (format.unitExponent size + format.precision) :=
    lt_two_zpow_unitExponent positive.le
  obtain ⟨whole, units⟩ := grid.exists_units positive
  generalize format.unitExponent size = exponent at units below ⊢
  have unit : (0 : Rat) < 2 ^ exponent := by positivity
  have split : (2 : Rat) ^ (exponent + format.precision) = (2 ^ format.precision : Int) * 2 ^ exponent := by
    rw [zpow_add₀ (by norm_num), zpow_natCast]
    push_cast
    ring
  rw [units, split] at below
  -- Counted in units this is a statement about whole numbers.
  have count : whole + 1 ≤ 2 ^ format.precision := by
    have less := lt_of_mul_lt_mul_right below unit.le
    exact_mod_cast less
  calc size + 2 ^ exponent = ((whole + 1 : Int) : Rat) * 2 ^ exponent := by
        rw [units]
        push_cast
        ring
    _ ≤ ((2 ^ format.precision : Int) : Rat) * 2 ^ exponent := by gcongr
    _ = 2 ^ (exponent + format.precision) := split.symm

/-- A larger size is measured in the same unit, if it stays below the power of two that the unit reaches. -/
theorem unitExponent_eq (positive : 0 < size) (above : size ≤ larger)
    (below : larger < 2 ^ (format.unitExponent size + format.precision)) :
    format.unitExponent larger = format.unitExponent size := by
  -- The power of two under the larger size cannot have passed the bound, nor can it be smaller.
  have order := binaryOrder_lt (lt_of_lt_of_le positive above) below
  have more := binaryOrder_mono positive above
  rw [unitExponent] at order ⊢
  rw [unitExponent]
  omega

/-- A size that is less than half a unit above a number of the grid is rounded to it. -/
theorem nearestSize_of_near (positive : 0 < size) (grid : format.OnGrid size)
    (above : size ≤ larger) (near : larger < size + 2 ^ (format.unitExponent size - 1)) :
    format.nearestSize larger = size := by
  have unit : (0 : Rat) < 2 ^ format.unitExponent size := by positivity
  have half : (2 : Rat) ^ (format.unitExponent size - 1) = 2 ^ format.unitExponent size / 2 :=
    zpow_sub_one₀ (by norm_num) _
  -- There is a whole unit of room, so that both sizes are measured in the same unit.
  have room := grid.add_unit_le positive
  obtain ⟨whole, units⟩ := grid.exists_units positive
  rw [nearestSize, unitExponent_eq positive above (by linarith)]
  generalize format.unitExponent size = exponent at units unit half near ⊢
  have nearest : nearestInt (larger / 2 ^ exponent) = whole := by
    refine nearestInt_of_near ?_ ?_
    · rw [le_div_iff₀ unit, ← units]
      exact above
    · rw [div_lt_iff₀ unit, add_mul, ← units]
      linarith
  rw [nearest, ← units]

/-- Below the finest unit a size is measured in the finest unit. -/
theorem unitExponent_of_lt (positive : 0 < size) (below : size < 2 ^ format.minExponent) :
    format.unitExponent size = format.minExponent := by
  -- The power of two under the size is below the finest unit, so the finest unit is the larger one.
  have order := binaryOrder_lt positive below
  have precise := format.precise
  rw [unitExponent]
  omega

/-- Rounding leaves nothing of a size up to half of the finest unit, and something of any other. -/
theorem nearestSize_eq_zero_iff (nonneg : 0 ≤ size) :
    format.nearestSize size = 0 ↔ size ≤ 2 ^ (format.minExponent - 1) := by
  -- Sizes are compared with the finest unit, of which half is the bound.
  have unit : (0 : Rat) < 2 ^ format.minExponent := by positivity
  have half : (2 : Rat) ^ (format.minExponent - 1) = 2 ^ format.minExponent / 2 :=
    zpow_sub_one₀ (by norm_num) _
  rcases nonneg.eq_or_lt with rfl | positive
  · rw [nearestSize_zero]
    exact iff_of_true rfl (by positivity)
  · -- From the finest unit on rounding leaves at least that, and below it sizes are counted in it.
    rcases le_or_gt (2 ^ format.minExponent) size with large | small
    · have something := le_nearestSize nonneg onGrid_minUnit large
      exact iff_of_false (by linarith) (by linarith)
    · rw [nearestSize, unitExponent_of_lt positive small, mul_eq_zero, or_iff_left unit.ne',
        Int.cast_eq_zero, nearestInt_eq_zero_iff (by positivity), div_le_iff₀ unit, half]
      constructor <;> intro bound <;> linarith

end Format

end PdfResize
