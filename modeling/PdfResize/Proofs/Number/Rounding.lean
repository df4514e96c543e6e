import Mathlib.Algebra.Order.Field.Power
import Mathlib.Algebra.Order.Field.Rat
import Mathlib.Tactic.Linarith
import Mathlib.Tactic.Positivity
import Mathlib.Tactic.Ring
import PdfResize.Number.Binary

/-! Rounding never carries a value across a number of the format. -/

namespace PdfResize

/-- A value up to a whole number has its nearest whole number up to it as well. -/
theorem nearestInt_le {value : Rat} {whole : Int} (below : value ≤ whole) :
    nearestInt value ≤ whole := by
  -- Only a value with the bound as its floor could be rounded past it, and that value is the bound.
  have floor_le : (value.floor : Rat) ≤ value := Rat.floor_le value
  have under : value.floor ≤ whole := by exact_mod_cast le_trans floor_le below
  rcases Int.lt_or_eq_of_le under with strict | same
  · rcases nearestInt_eq value with nearest | nearest <;> omega
  · have exact : value - value.floor = 0 := by
      rw [same] at floor_le ⊢
      linarith
    simp only [nearestInt, exact]
    norm_num [same]

/-- A value from a whole number on has its nearest whole number from there on as well. -/
theorem le_nearestInt {value : Rat} {whole : Int} (above : whole ≤ value) :
    whole ≤ nearestInt value := by
  -- Rounding answers the floor at least.
  have floor : whole ≤ value.floor := Rat.le_floor_iff.2 above
  rcases nearestInt_eq value with nearest | nearest <;> omega

/-- The power of two of its order is not above a positive rational. -/
theorem two_zpow_binaryOrder_le {size : Rat} (positive : 0 < size) :
    2 ^ binaryOrder size ≤ size := by
  -- The numerator has no fewer bits than its length says and the denominator no more.
  have estimated : (2 : Rat) ^ ((size.num.natAbs.log2 : Int) - size.den.log2 - 1) ≤ size := by
    have numPositive : 0 < size.num := Rat.num_pos.2 positive
    have numerator : (2 : Rat) ^ (size.num.natAbs.log2 : Int) ≤ size.num := by
      have whole := Nat.log2_self_le (n := size.num.natAbs) (by omega)
      have same : ((size.num.natAbs : Nat) : Rat) = (size.num : Rat) := by
        rw [← Int.cast_natCast, Int.natAbs_of_nonneg numPositive.le]
      rw [zpow_natCast, ← same]
      exact_mod_cast whole
    have denominator : (size.den : Rat) ≤ 2 ^ ((size.den.log2 : Int) + 1) := by
      have whole := (Nat.lt_log2_self (n := size.den)).le
      have power : (2 : Rat) ^ ((size.den.log2 : Int) + 1) = ((2 ^ (size.den.log2 + 1) : Nat) : Rat) := by
        rw [← Nat.cast_add_one, zpow_natCast]
        push_cast
        rfl
      rw [power]
      exact_mod_cast whole
    have denPositive : (0 : Rat) < size.den := by exact_mod_cast size.den_pos
    have exponents : (size.num.natAbs.log2 : Int) - size.den.log2 - 1 =
        size.num.natAbs.log2 - (size.den.log2 + 1) := by omega
    calc (2 : Rat) ^ ((size.num.natAbs.log2 : Int) - size.den.log2 - 1)
        = 2 ^ (size.num.natAbs.log2 : Int) / 2 ^ ((size.den.log2 : Int) + 1) := by
          rw [exponents, zpow_sub₀ (by norm_num)]
      _ ≤ size.num / size.den := by gcongr
      _ = size := Rat.num_div_den size
  simp only [binaryOrder]
  split
  · rename_i below
    exact below
  · exact estimated

namespace Format

variable {format : Format}

/-- A whole number of units is a whole number of finer units. -/
theorem exists_finer_units {fine coarse : Int} (ordered : fine ≤ coarse) (whole : Int) :
    ∃ finer : Int, (whole : Rat) * 2 ^ coarse = finer * 2 ^ fine := by
  -- The coarser unit is the finer one times a whole power of two.
  refine ⟨whole * 2 ^ (coarse - fine).toNat, ?_⟩
  have split : coarse = ((coarse - fine).toNat : Int) + fine := by omega
  conv_lhs => rw [split, zpow_add₀ (by norm_num), zpow_natCast]
  push_cast
  ring

/-- A number of the grid is measured in the unit of a size, or is at most the power of two below the size. -/
theorem onGrid_unit_or_le (size : Rat) {bound : Rat} (grid : format.OnGrid bound) :
    (∃ whole : Int, bound = whole * 2 ^ format.unitExponent size) ∨
      bound ≤ 2 ^ binaryOrder size ∧
        ∃ whole : Int, (2 : Rat) ^ binaryOrder size = whole * 2 ^ format.unitExponent size := by
  -- A unit of the bound that is finer than the unit of the size makes the bound small.
  obtain ⟨significand, exponent, short, fine, rfl⟩ := grid
  have two : (2 : Rat) ≠ 0 := by norm_num
  have precise := format.precise
  rcases Int.lt_or_le exponent (format.unitExponent size) with finer | coarser
  · right
    have unit : format.unitExponent size = binaryOrder size + 1 - format.precision := by
      unfold unitExponent at finer ⊢
      omega
    constructor
    · have limit : (significand : Rat) ≤ 2 ^ (format.precision : Int) := by
        have whole : significand ≤ 2 ^ format.precision := by
          have := short
          rw [significandLimit, Nat.pow_eq] at this
          zify at this
          exact le_trans (le_abs_self significand) this
        rw [zpow_natCast]
        exact_mod_cast whole
      calc (significand : Rat) * 2 ^ exponent
          ≤ 2 ^ (format.precision : Int) * 2 ^ exponent := by gcongr
        _ = 2 ^ ((format.precision : Int) + exponent) := by rw [zpow_add₀ two]
        _ ≤ 2 ^ binaryOrder size := two_zpow_le (by omega)
    · refine ⟨2 ^ (format.precision - 1), ?_⟩
      have split : binaryOrder size =
          ((format.precision - 1 : Nat) : Int) + format.unitExponent size := by omega
      rw [split, zpow_add₀ two, zpow_natCast]
      push_cast
      rfl
  · left
    exact exists_finer_units coarser significand

/-- Rounding a size in its unit stays on the side of a number of units. -/
theorem nearestSize_le_unit {size : Rat} {whole : Int}
    (below : size ≤ whole * 2 ^ format.unitExponent size) :
    format.nearestSize size ≤ whole * 2 ^ format.unitExponent size := by
  -- Divided by the unit this is a statement about whole numbers.
  have unit : (0 : Rat) < 2 ^ format.unitExponent size := by positivity
  have rounded : nearestInt (size / 2 ^ format.unitExponent size) ≤ whole :=
    nearestInt_le ((div_le_iff₀ unit).2 below)
  unfold nearestSize
  gcongr

/-- Rounding a size in its unit stays on the other side of a number of units as well. -/
theorem unit_le_nearestSize {size : Rat} {whole : Int}
    (above : whole * 2 ^ format.unitExponent size ≤ size) :
    whole * 2 ^ format.unitExponent size ≤ format.nearestSize size := by
  -- Divided by the unit this is a statement about whole numbers.
  have unit : (0 : Rat) < 2 ^ format.unitExponent size := by positivity
  have rounded : whole ≤ nearestInt (size / 2 ^ format.unitExponent size) :=
    le_nearestInt ((le_div_iff₀ unit).2 above)
  unfold nearestSize
  gcongr

/-- Nothing is rounded to nothing. -/
theorem nearestSize_zero : format.nearestSize 0 = 0 := by
  -- Zero units are a whole number of units.
  have below : format.nearestSize 0 ≤ (0 : Int) * 2 ^ format.unitExponent 0 :=
    nearestSize_le_unit (by simp)
  have above : (0 : Int) * 2 ^ format.unitExponent 0 ≤ format.nearestSize 0 :=
    unit_le_nearestSize (by simp)
  simp only [Int.cast_zero, zero_mul] at below above
  exact le_antisymm below above

/-- A size up to a number of the grid is rounded to a size up to it. -/
theorem nearestSize_le {size bound : Rat} (nonneg : 0 ≤ size) (grid : format.OnGrid bound)
    (below : size ≤ bound) : format.nearestSize size ≤ bound := by
  -- A bound on the grid is a multiple of the unit of the size, or lies below the power of two under it.
  rcases nonneg.eq_or_lt with rfl | positive
  · rwa [nearestSize_zero]
  · rcases onGrid_unit_or_le size grid with ⟨whole, rfl⟩ | ⟨small, whole, unit⟩
    · exact nearestSize_le_unit below
    · -- A bound below the power of two under the size is that power and the size at once.
      have order := two_zpow_binaryOrder_le positive
      have same : bound = whole * 2 ^ format.unitExponent size := by linarith
      rw [same] at below ⊢
      exact nearestSize_le_unit below

/-- A size from a number of the grid on is rounded to a size from there on. -/
theorem le_nearestSize {size bound : Rat} (nonneg : 0 ≤ size) (grid : format.OnGrid bound)
    (above : bound ≤ size) : bound ≤ format.nearestSize size := by
  -- A bound on the grid is a multiple of the unit of the size, or lies below the power of two under it.
  rcases nonneg.eq_or_lt with rfl | positive
  · rwa [nearestSize_zero]
  · rcases onGrid_unit_or_le size grid with ⟨whole, rfl⟩ | ⟨small, whole, unit⟩
    · exact unit_le_nearestSize above
    · -- The power of two under the size lies between the bound and the rounded size.
      have order := two_zpow_binaryOrder_le positive
      rw [unit] at small order
      exact le_trans small (unit_le_nearestSize order)

/-- A value up to a number of the grid is rounded to a value up to it. -/
theorem nearest_le {value bound : Rat} (grid : format.OnGrid bound) (below : value ≤ bound) :
    format.nearest value ≤ bound := by
  -- Below zero the bound is passed to the other side together with the value.
  unfold nearest
  split
  · have mirrored : -bound ≤ format.nearestSize (-value) :=
      le_nearestSize (by linarith) (onGrid_neg grid) (by linarith)
    linarith
  · rename_i nonneg
    exact nearestSize_le (not_lt.1 nonneg) grid below

/-- A value from a number of the grid on is rounded to a value from there on. -/
theorem le_nearest {value bound : Rat} (grid : format.OnGrid bound) (above : bound ≤ value) :
    bound ≤ format.nearest value := by
  -- Below zero the bound is passed to the other side together with the value.
  unfold nearest
  split
  · have mirrored : format.nearestSize (-value) ≤ -bound :=
      nearestSize_le (by linarith) (onGrid_neg grid) (by linarith)
    linarith
  · rename_i nonneg
    exact le_nearestSize (not_lt.1 nonneg) grid above

/-- A number of the grid is its own nearest one. -/
theorem nearest_of_onGrid {value : Rat} (grid : format.OnGrid value) : format.nearest value = value :=
  -- The number is a bound for itself from both sides.
  le_antisymm (nearest_le grid le_rfl) (le_nearest grid le_rfl)

/-- A number of the grid is a whole number of finest units. -/
theorem OnGrid.units {value : Rat} (grid : format.OnGrid value) :
    ∃ whole : Int, value = whole * 2 ^ format.minExponent := by
  -- Its own unit is no finer, and so a whole number of them.
  obtain ⟨significand, exponent, _, fine, rfl⟩ := grid
  exact exists_finer_units fine significand

/-- The sum of two numbers of the grid that is above zero is at least the finest unit. -/
theorem minUnit_le_add {left right : Rat} (leftGrid : format.OnGrid left)
    (rightGrid : format.OnGrid right) (positive : 0 < left + right) :
    2 ^ format.minExponent ≤ left + right := by
  -- Both numbers are whole numbers of finest units, so their sum is one as well.
  obtain ⟨leftUnits, rfl⟩ := leftGrid.units
  obtain ⟨rightUnits, rfl⟩ := rightGrid.units
  have unit : (0 : Rat) < 2 ^ format.minExponent := by positivity
  rw [← add_mul] at positive ⊢
  have atLeastOne : 1 ≤ leftUnits + rightUnits := by
    have above : (0 : Rat) < ((leftUnits + rightUnits : Int) : Rat) := by
      push_cast
      exact (pos_iff_pos_of_mul_pos positive).2 unit
    exact_mod_cast above
  have count : (1 : Rat) ≤ leftUnits + rightUnits := by exact_mod_cast atLeastOne
  nlinarith

/-- A power of two is a number of the grid, unless it is finer than the finest unit. -/
theorem onGrid_two_zpow {exponent : Int} (fine : format.minExponent ≤ exponent) :
    format.OnGrid (2 ^ exponent) := by
  -- It is one unit, and one is no longer than any significand.
  refine ⟨1, exponent, ?_, fine, by simp⟩
  simp only [Int.natAbs_one, significandLimit, Nat.pow_eq]
  exact Nat.one_le_two_pow

/-- The finest unit is a number of the grid. -/
theorem onGrid_minUnit : format.OnGrid (2 ^ format.minExponent) := onGrid_two_zpow le_rfl

end Format

end PdfResize
