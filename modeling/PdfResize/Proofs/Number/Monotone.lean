import PdfResize.Proofs.Number.Nearness
import PdfResize.Proofs.Number.Order

/-! Rounding keeps the order of exact results, also where they leave the range. -/

namespace PdfResize

/-- The nearest whole numbers of two values are ordered as the values are. -/
theorem nearestInt_mono {low high : Rat} (ordered : low ≤ high) : nearestInt low ≤ nearestInt high := by
  -- Either the floors are apart, or both values lie between the same two integers.
  have floors : low.floor ≤ high.floor := Rat.floor_monotone ordered
  rcases Int.lt_or_eq_of_le floors with apart | same
  · -- One value is rounded up to the floor of the other at the most.
    rcases nearestInt_eq low with lower | lower <;> rcases nearestInt_eq high with higher | higher <;> omega
  · -- Above one floor the smaller rest is not the one that is rounded up alone.
    simp only [nearestInt, same]
    grind

namespace Format

variable {format : Format} {low high : Rat}

/-- Two sizes are rounded to sizes in the same order. -/
theorem nearestSize_mono (nonneg : 0 ≤ low) (ordered : low ≤ high) :
    format.nearestSize low ≤ format.nearestSize high := by
  -- Zero comes first; two other sizes have the same unit, or a power of two between them, across which
  -- neither is rounded.
  rcases nonneg.eq_or_lt with rfl | positive
  · rw [nearestSize_zero]
    exact le_nearestSize ordered format.holds_zero.2 ordered
  · have orders := binaryOrder_mono positive ordered
    have precise := format.precise
    by_cases same : format.unitExponent low = format.unitExponent high
    · -- Measured in one unit the sizes are rounded to whole numbers in their order.
      have unit : (0 : Rat) < 2 ^ format.unitExponent high := by positivity
      have rounded : nearestInt (low / 2 ^ format.unitExponent high) ≤
          nearestInt (high / 2 ^ format.unitExponent high) := nearestInt_mono (by gcongr)
      rw [nearestSize, nearestSize, same]
      gcongr
    · -- Otherwise the power of two under the larger size lies between the two.
      have apart : binaryOrder low + 1 ≤ binaryOrder high ∧ format.minExponent ≤ binaryOrder high := by
        rw [unitExponent, unitExponent] at same
        omega
      have power : format.OnGrid (2 ^ binaryOrder high) := onGrid_two_zpow apart.2
      have below : low ≤ 2 ^ binaryOrder high :=
        (lt_two_zpow_binaryOrder nonneg).le.trans (two_zpow_le apart.1)
      have above := two_zpow_binaryOrder_le (lt_of_lt_of_le positive ordered)
      exact (nearestSize_le nonneg power below).trans (le_nearestSize (nonneg.trans ordered) power above)

/-- Two values of any sign are rounded to values in the same order. -/
theorem nearest_mono (ordered : low ≤ high) : format.nearest low ≤ format.nearest high := by
  -- Both values are on one side of zero, or zero lies between them and is kept.
  rcases lt_or_ge low 0 with negative | nonneg
  · rcases lt_or_ge high 0 with both | crossing
    · -- Below zero the sizes are in the opposite order.
      rw [nearest, nearest, if_pos negative, if_pos both]
      exact neg_le_neg (nearestSize_mono (by linarith) (by linarith))
    · exact (nearest_le format.holds_zero.2 negative.le).trans (le_nearest format.holds_zero.2 crossing)
  · rw [nearest, nearest, if_neg (by linarith), if_neg (by linarith)]
    exact nearestSize_mono nonneg ordered

end Format

namespace Binary

variable {format : Format} {first second third : Binary format} {low high : Rat}

/-- The order of numbers is transitive. -/
theorem atMost_trans (left : first ≤ second) (right : second ≤ third) : first ≤ third := by
  -- All comparisons read points of one line, which what is no number has none of.
  have lower : first.atMost second = true := left
  have upper : second.atMost third = true := right
  show first.atMost third = true
  cases first <;> cases second <;> cases third <;> simp_all [atMost]
  all_goals grind

/-- A value whose nearest number is in range is rounded to a number with that value. -/
theorem toRat?_round (inside : format.InRange (format.nearest low)) :
    (round low : Binary format).toRat? = some (format.nearest low) := by
  -- In range the rounded number is the nearest one, or a zero that stands for it.
  unfold round
  rw [dif_pos inside]
  split
  · rename_i nothing
    rw [toRat?_signedZero, nothing]
  · rfl

/-- Out of range the rounded number is the infinity of that side. -/
theorem round_of_out_of_range (out : ¬ format.InRange (format.nearest low)) :
    (round low : Binary format) = infinite (low < 0) := by
  -- This is the last case of rounding.
  unfold round
  rw [dif_neg out]

/-- Whatever is rounded lies between the two infinities. -/
theorem round_between (value : Rat) :
    (infinite true : Binary format) ≤ round value ∧ (round value : Binary format) ≤ infinite false := by
  -- A value in range rounds to a finite number, and any other to one of the infinities.
  by_cases inside : format.InRange (format.nearest value)
  · -- Every number that stands for a value does.
    rcases exact_cases (toRat?_round inside) with ⟨same, _⟩ | ⟨held, same⟩ <;>
      exact same ▸ ⟨rfl, rfl⟩
  · rw [round_of_out_of_range inside]
    cases decide (value < 0) <;> exact ⟨rfl, rfl⟩

/-- Values in one order are rounded to numbers in that order, infinities among them. -/
theorem round_mono (ordered : low ≤ high) : (round low : Binary format) ≤ round high := by
  -- Either value may be in range or out of it, and those out of it are infinities on their own side.
  have nearest : format.nearest low ≤ format.nearest high := Format.nearest_mono ordered
  by_cases lowInside : format.InRange (format.nearest low)
  · by_cases highInside : format.InRange (format.nearest high)
    · exact (le_iff (toRat?_round lowInside) (toRat?_round highInside)).2 nearest
    · -- The larger value cannot leave the range to the side that the smaller one is inside of.
      rcases nearest_out_of_range highInside with ⟨_, past⟩ | ⟨nonneg, _⟩
      · exact absurd lowInside.1 (not_lt.2 (nearest.trans past))
      · rw [round_of_out_of_range highInside, decide_eq_false (not_lt.2 nonneg)]
        exact (round_between low).2
  · rcases nearest_out_of_range lowInside with ⟨negative, _⟩ | ⟨nonneg, past⟩
    · rw [round_of_out_of_range lowInside, decide_eq_true negative]
      exact (round_between high).1
    · -- From the end of the range on both values are past it.
      have highOutside : ¬ format.InRange (format.nearest high) :=
        fun inside => absurd inside.2 (not_lt.2 (past.trans nearest))
      rw [round_of_out_of_range highOutside, decide_eq_false (not_lt.2 (nonneg.trans ordered))]
      exact (round_between low).2

/-- Answers are in the order of the exact results. -/
theorem Rounds.mono (left : first.Rounds low) (right : second.Rounds high) (ordered : low ≤ high) :
    first ≤ second := by
  -- A zero of either sign is compared as its value is.
  rcases left with rfl | ⟨rfl, nothing⟩
  · rcases right with rfl | ⟨rfl, nothing⟩
    · exact round_mono ordered
    · exact round_le nothing ordered
  · exact right.ge nothing ordered

end Binary

end PdfResize
