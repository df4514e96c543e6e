import PdfResize.Proofs.Number.Accuracy
import PdfResize.Proofs.Number.Nearness

/-! Results that are not rounded at all, because the format has bits enough for them. -/

namespace PdfResize

/-- A value up to a whole number, and less than a half below it, is nearest to it. -/
theorem nearestInt_of_near_below {value : Rat} {whole : Int} (below : value ≤ whole)
    (near : (whole : Rat) < value + 1 / 2) : nearestInt value = whole := by
  -- Rounding does not pass the whole number, and it goes up by a half at the most.
  have atMost := nearestInt_le below
  have half := (abs_le.1 (abs_nearestInt_sub_le value)).1
  have above : whole - 1 < nearestInt value := by
    have exact : ((whole - 1 : Int) : Rat) < nearestInt value := by
      push_cast
      linarith
    exact_mod_cast exact
  omega

namespace Format

variable {format : Format}

/-- From a power of two on, the numbers of the grid are whole numbers of the unit that the power is measured in. -/
theorem OnGrid.exists_units_of_le {size : Rat} {order : Int} (grid : format.OnGrid size)
    (large : 2 ^ order ≤ size) :
    ∃ whole : Int, size = whole * 2 ^ (order + 1 - format.precision) := by
  have positive : 0 < size := lt_of_lt_of_le (by positivity) large
  obtain ⟨whole, units⟩ := grid.exists_units positive
  -- The size is of no smaller order than the power, so that its own unit is no finer.
  have reached : order < binaryOrder size + 1 :=
    (zpow_lt_zpow_iff_right₀ (by norm_num)).1
      (lt_of_le_of_lt large (lt_two_zpow_binaryOrder positive.le))
  have coarse : order + 1 - format.precision ≤ format.unitExponent size := by
    rw [unitExponent]
    omega
  obtain ⟨finer, same⟩ := exists_finer_units coarse whole
  exact ⟨finer, units.trans same⟩

/-- As many units as the format has significands make a number of the format, within its range. -/
theorem holds_of_units {whole unit : Int} (short : whole.natAbs ≤ format.significandLimit)
    (fine : format.minExponent ≤ unit) (inside : unit + format.precision < format.limit) :
    format.Holds (whole * 2 ^ unit) := by
  refine ⟨?_, whole, unit, short, fine, rfl⟩
  -- No size on the grid is larger than the power of two that its unit reaches.
  have bound : |(whole : Rat)| ≤ 2 ^ format.precision := by
    have cast : ((whole.natAbs : Nat) : Rat) ≤ ((2 ^ format.precision : Nat) : Rat) := by
      exact_mod_cast short
    rw [Nat.cast_natAbs] at cast
    exact_mod_cast cast
  have size : |(whole : Rat) * 2 ^ unit| < 2 ^ format.limit := by
    calc |(whole : Rat) * 2 ^ unit| = |(whole : Rat)| * 2 ^ unit := by
          rw [abs_mul, abs_of_pos (by positivity : (0 : Rat) < 2 ^ unit)]
      _ ≤ 2 ^ format.precision * 2 ^ unit := by gcongr
      _ = 2 ^ (unit + format.precision) := by
          rw [zpow_add₀ (by norm_num), zpow_natCast, mul_comm]
      _ < 2 ^ format.limit := zpow_lt_zpow_right₀ (by norm_num) inside
  exact abs_lt.1 size

end Format

namespace Binary

variable {format : Format} {number : Binary format}

/-- An exact result that the format holds is the answer. -/
theorem Rounds.toRat?_of_holds {value : Rat} (rounds : number.Rounds value) (held : format.Holds value) :
    number.toRat? = some value := by
  -- It lies between itself and itself.
  obtain ⟨result, stands, above, below⟩ := rounds.between held held le_rfl le_rfl
  rw [stands, le_antisymm below above]

/-- A numeral stands for its whole number, where this is no longer than a significand. -/
theorem toRat?_numeral {value : Nat} (short : value ≤ format.significandLimit)
    (fine : format.minExponent ≤ 0) (inside : (format.precision : Int) < format.limit) :
    (round value : Binary format).toRat? = some value := by
  -- A whole number that is short enough is a multiple of the unit one.
  have held : format.Holds ((value : Int) * 2 ^ (0 : Int)) :=
    Format.holds_of_units (by simpa using short) fine (by simpa using inside)
  rw [zpow_zero, mul_one, Int.cast_natCast] at held
  rw [round_of_holds held]
  rfl

end Binary

end PdfResize
