import PdfResize.Number.Decimal
import PdfResize.Proofs.Number.Nearness

/-! The decimal that a size is written as, which the format rounds back to the size. -/

namespace PdfResize

namespace Decimal

variable {format : Format} {size : Rat}

/-! ### Orders of ten -/

/-- A whole number has as many digits as the power of ten above it says. -/
theorem lt_ten_pow_length (value : Nat) : value < 10 ^ (Nat.toDigits 10 value).length :=
  -- Otherwise the number would have more digits.
  (Nat.length_toDigits_le_iff (by decide) Nat.length_toDigits_pos).1 le_rfl

/-- A positive number reaches the power of ten of its first digit. -/
theorem ten_pow_length_le {value : Nat} (positive : 0 < value) :
    10 ^ ((Nat.toDigits 10 value).length - 1) ≤ value := by
  -- Either there is one digit, or there is one that can be left out.
  rcases Nat.eq_zero_or_pos ((Nat.toDigits 10 value).length - 1) with one | more
  · rw [one]
    exact positive
  · -- With one digit less the number would be out of reach.
    by_contra below
    have shorter := (Nat.length_toDigits_le_iff (by decide) more).2 (Nat.lt_of_not_le below)
    omega

/-- The lengths of numerator and denominator estimate a positive size from below. -/
theorem ten_zpow_estimate_le (positive : 0 < size) :
    (10 : Rat) ^ (((Nat.toDigits 10 size.num.natAbs).length : Int) -
      (Nat.toDigits 10 size.den).length - 1) ≤ size := by
  have numPositive : 0 < size.num := Rat.num_pos.2 positive
  have same : ((size.num.natAbs : Nat) : Rat) = (size.num : Rat) := by
    rw [← Int.cast_natCast, Int.natAbs_of_nonneg numPositive.le]
  -- The numerator has no fewer digits than its length says and the denominator no more.
  have numerator : (10 : Rat) ^ ((Nat.toDigits 10 size.num.natAbs).length - 1) ≤ size.num := by
    rw [← same]
    exact_mod_cast ten_pow_length_le (Int.natAbs_pos.2 numPositive.ne')
  have denominator : (size.den : Rat) ≤ 10 ^ (Nat.toDigits 10 size.den).length := by
    exact_mod_cast (lt_ten_pow_length size.den).le
  have denPositive : (0 : Rat) < size.den := by exact_mod_cast size.den_pos
  have digits : 0 < (Nat.toDigits 10 size.num.natAbs).length := Nat.length_toDigits_pos
  have exponents : ((Nat.toDigits 10 size.num.natAbs).length : Int) -
      (Nat.toDigits 10 size.den).length - 1 =
        ((Nat.toDigits 10 size.num.natAbs).length - 1 : Nat) - (Nat.toDigits 10 size.den).length := by
    omega
  calc (10 : Rat) ^ (((Nat.toDigits 10 size.num.natAbs).length : Int) -
        (Nat.toDigits 10 size.den).length - 1)
      = 10 ^ ((Nat.toDigits 10 size.num.natAbs).length - 1) / 10 ^ (Nat.toDigits 10 size.den).length := by
        rw [exponents, zpow_sub₀ (by norm_num), zpow_natCast, zpow_natCast]
    _ ≤ size.num / size.den := by gcongr
    _ = size := Rat.num_div_den size

/-- The power of ten of its order is not above a positive size. -/
theorem ten_zpow_order_le (positive : 0 < size) : (10 : Rat) ^ order size ≤ size := by
  -- The order is the estimate, or one more where that has been checked.
  simp only [order]
  split
  · assumption
  · exact ten_zpow_estimate_le positive

/-- The last grid that is searched is finer than half of the unit that a size is measured in. -/
theorem ten_zpow_lt_half_unit (precise : 2 ≤ format.precision) (positive : 0 < size) :
    (10 : Rat) ^ (order size - ((format.precision - 1 : Nat) : Int)) <
      2 ^ (format.unitExponent size - 1) := by
  -- Ten is more than the third power of two, so that decimal digits run ahead of bits.
  have bits : (2 : Rat) ^ (format.precision + 1) ≤ 10 ^ (format.precision - 1) := by
    calc (2 : Rat) ^ (format.precision + 1) ≤ 2 ^ (3 * (format.precision - 1)) :=
          pow_le_pow_right₀ (by norm_num) (by omega)
      _ = 8 ^ (format.precision - 1) := by rw [pow_mul]; norm_num
      _ ≤ 10 ^ (format.precision - 1) := by gcongr; norm_num
  have reach : size < 2 ^ (format.unitExponent size + format.precision) :=
    Format.lt_two_zpow_unitExponent positive.le
  rw [zpow_sub₀ (by norm_num), zpow_natCast, div_lt_iff₀ (by positivity)]
  calc (10 : Rat) ^ order size < 2 ^ (format.unitExponent size + format.precision) :=
        lt_of_le_of_lt (ten_zpow_order_le positive) reach
    _ = 2 ^ (format.unitExponent size - 1) * 2 ^ (format.precision + 1) := by
      rw [← zpow_natCast, ← zpow_add₀ (by norm_num)]
      congr 1
      push_cast
      ring
    _ ≤ 2 ^ (format.unitExponent size - 1) * 10 ^ (format.precision - 1) := by gcongr

/-! ### The search -/

/-- The search answers a decimal that reads back, if the upper neighbour on one of its grids does. -/
theorem search_readsBack (readsBack : Rat → Bool) {grids skip : Nat} {exponent : Int} (within : skip < grids)
    (hit : readsBack (neighbours size (exponent - skip)).2.toRat = true) :
    readsBack (search readsBack size grids exponent).toRat = true := by
  -- Each grid that is searched in vain is one that need not be skipped any more.
  induction grids generalizing exponent skip with
  | zero => omega
  | succ grids ih =>
    rw [search]
    simp only
    -- What is answered from this grid has been tried before it is answered.
    split
    · rename_i lower upper
      split
      · exact lower
      · exact upper
    · assumption
    · assumption
    · rename_i upper
      -- The upper neighbour has been tried here, so the hit is on a later grid.
      cases skip with
      | zero =>
        rw [Nat.cast_zero, Int.sub_zero, upper] at hit
        cases hit
      | succ skip =>
        have later : exponent - ((skip + 1 : Nat) : Int) = exponent - 1 - skip := by omega
        rw [later] at hit
        exact ih (by omega) hit

/-- The upper neighbour of a size is above it by at most one unit of its grid. -/
theorem upper_bounds (nonneg : 0 ≤ size) (exponent : Int) :
    size ≤ (neighbours size exponent).2.toRat ∧
      (neighbours size exponent).2.toRat ≤ size + 10 ^ exponent := by
  -- The upper neighbour is one unit above the floor, which is the lower one.
  have unit : (0 : Rat) < 10 ^ exponent := by positivity
  have floor : ((size / 10 ^ exponent).floor.toNat : Rat) = (size / 10 ^ exponent).floor := by
    have atLeast : 0 ≤ (size / 10 ^ exponent).floor := Rat.le_floor_iff.2 (by
      rw [Int.cast_zero]
      positivity)
    exact_mod_cast congrArg (Int.cast (R := Rat)) (Int.toNat_of_nonneg atLeast)
  have below : ((size / 10 ^ exponent).floor : Rat) ≤ size / 10 ^ exponent := Rat.floor_le _
  have above : size / 10 ^ exponent < (size / 10 ^ exponent).floor + 1 := by
    exact_mod_cast Rat.lt_floor_add_one _
  rw [le_div_iff₀ unit] at below
  rw [div_lt_iff₀ unit] at above
  simp only [neighbours, toRat]
  push_cast
  rw [floor]
  constructor <;> linarith

/-- The decimal that a number of the format is written as is rounded back to the number. -/
theorem nearest_shortest (precise : 2 ≤ format.precision) (positive : 0 < size)
    (grid : format.OnGrid size) : format.nearest (shortest format size).toRat = size := by
  -- The upper neighbour on the last grid is so near that it reads back.
  have hit : decide (format.nearest (neighbours size
      (order size - ((format.precision - 1 : Nat) : Int))).2.toRat = size) = true := by
    obtain ⟨above, near⟩ := upper_bounds positive.le (order size - ((format.precision - 1 : Nat) : Int))
    have half := ten_zpow_lt_half_unit precise positive
    rw [decide_eq_true_eq, Format.nearest, if_neg (not_lt.2 (positive.le.trans above))]
    exact Format.nearestSize_of_near positive grid above (by linarith)
  have found := search_readsBack (fun candidate => format.nearest candidate = size)
    (by omega : format.precision - 1 < format.precision) hit
  exact of_decide_eq_true found

end Decimal

end PdfResize
