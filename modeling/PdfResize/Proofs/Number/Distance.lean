import PdfResize.Proofs.Number.Accuracy

/-! The distance between two numbers, which is the same from either of them. -/

namespace PdfResize

/-- Values on the two sides of zero are rounded alike. -/
theorem Format.nearest_neg (format : Format) (value : Rat) :
    format.nearest (-value) = -format.nearest value := by
  -- Rounding sets the sign aside, so the two values have one size.
  rcases lt_trichotomy value 0 with below | rfl | above
  · rw [nearest, nearest, if_neg (not_lt.2 (neg_nonneg.2 below.le)), if_pos below, neg_neg]
  · simp [nearest, nearestSize_zero]
  · rw [nearest, nearest, if_pos (neg_lt_zero.2 above), if_neg (not_lt.2 above.le), neg_neg]

namespace Binary

variable {format : Format} {number : Binary format} {value : Rat}

/-- A number is none at all, is infinite, or stands for a value. -/
theorem value_cases (number : Binary format) :
    number = nan ∨ (∃ negative, number = infinite negative) ∨ ∃ value, number.toRat? = some value := by
  -- Either zero counts as a value.
  cases number with
  | nan => exact .inl rfl
  | infinite negative => exact .inr (.inl ⟨negative, rfl⟩)
  | negativeZero => exact .inr (.inr ⟨0, rfl⟩)
  | finite value held => exact .inr (.inr ⟨value, rfl⟩)

/-! ### Sizes -/

/-- The distance of either zero is zero. -/
theorem abs_signedZero (negative : Bool) : (zero negative : Binary format).abs = zero false := by
  -- There are two zeros.
  cases negative
  · simp [zero, Binary.abs, isNegative]
  · simp [zero, Binary.abs, isNegative, neg]

/-- The distance of either infinity is infinite. -/
theorem abs_infinite (negative : Bool) :
    (infinite negative : Binary format).abs = infinite false := by
  -- There are two infinities.
  cases negative <;> rfl

/-- Opposite finite numbers are equally far from zero. -/
theorem abs_finite_neg (held : format.Holds value) (opposite : format.Holds (-value)) :
    (finite (-value) opposite : Binary format).abs = (finite value held).abs := by
  -- Of two values on the two sides of zero one has its sign changed.
  rcases lt_trichotomy value 0 with below | rfl | above
  · simp [Binary.abs, isNegative, neg, below, below.ne, below.le]
  · simp [Binary.abs, isNegative]
  · simp [Binary.abs, isNegative, neg, above, above.ne', above.le]

/-- Opposite values are rounded to numbers of one size. -/
theorem abs_round_neg (value : Rat) : (round (-value) : Binary format).abs = (round value).abs := by
  -- Opposite values have opposite nearest numbers, and both are in range or neither is.
  have opposite := format.nearest_neg value
  by_cases inRange : format.InRange (format.nearest value)
  · have inRangeNeg : format.InRange (format.nearest (-value)) := by
      rw [opposite]
      exact ⟨neg_lt_neg inRange.2, neg_lt.1 inRange.1⟩
    rw [round, dif_pos inRangeNeg, round, dif_pos inRange]
    by_cases vanishes : format.nearest value = 0
    · rw [if_pos vanishes, if_pos (by rw [opposite, vanishes, neg_zero]), abs_signedZero,
        abs_signedZero]
    · rw [if_neg vanishes, if_neg (by rw [opposite]; exact neg_ne_zero.2 vanishes)]
      simp only [opposite]
      exact abs_finite_neg _ _
  · -- The range has no more room on the other side of zero.
    have outOfRange : ¬ format.InRange (format.nearest (-value)) := by
      rw [opposite]
      rintro ⟨low, high⟩
      exact inRange ⟨neg_lt.1 high, neg_lt_neg_iff.1 low⟩
    rw [round, dif_neg outOfRange, round, dif_neg inRange, abs_infinite, abs_infinite]

/-- The size of an answer does not depend on the sign that a zero has. -/
theorem Rounds.abs_eq (rounds : number.Rounds value) : number.abs = (round value).abs := by
  -- Only a zero may have another sign than the value that is rounded, and the distance forgets it.
  rcases rounds with rfl | ⟨rfl, nothing⟩
  · rfl
  · rw [round_of_holds format.holds_zero]
    rcases exact_cases nothing with ⟨rfl, _⟩ | ⟨held, rfl⟩
    · exact abs_signedZero true
    · rfl

/-! ### Distances -/

/-- Nothing can be taken from what is no number. -/
theorem nan_sub (number : Binary format) : nan - number = nan := by
  -- Whatever is taken, the sum is no number either.
  show nan.add number.neg = nan
  cases number.neg <;> rfl

/-- What is no number can be taken from nothing. -/
theorem sub_nan (number : Binary format) : number - nan = nan := by
  -- Each kind of number is looked at.
  cases number <;> rfl

/-- An infinity is infinitely far from any number. -/
theorem abs_infinite_sub (negative : Bool) (exact : number.toRat? = some value) :
    (infinite negative - number).abs = infinite false := by
  -- Adding a finite number to an infinity leaves the infinity.
  rcases exact_cases exact with ⟨rfl, _⟩ | ⟨held, rfl⟩
  · exact abs_infinite negative
  · show ((infinite negative).add (neg (finite value held))).abs = infinite false
    rw [neg]
    split <;> exact abs_infinite negative

/-- Any number is infinitely far from an infinity. -/
theorem abs_sub_infinite (negative : Bool) (exact : number.toRat? = some value) :
    (number - infinite negative).abs = infinite false := by
  -- The opposite infinity is added, which leaves that one.
  rcases exact_cases exact with ⟨rfl, _⟩ | ⟨held, rfl⟩ <;> exact abs_infinite _

/-- The distance between two numbers is the same from either of them, whatever they are. -/
theorem abs_sub_comm (left right : Binary format) : (left - right).abs = (right - left).abs := by
  -- Each side is no number, an infinity, or stands for a value, which makes nine cases.
  rcases left.value_cases with rfl | ⟨first, rfl⟩ | ⟨first, leftExact⟩
  · rw [nan_sub, sub_nan]
  · rcases right.value_cases with rfl | ⟨second, rfl⟩ | ⟨second, rightExact⟩
    · rfl
    · cases first <;> cases second <;> rfl
    · rw [abs_infinite_sub first rightExact, abs_sub_infinite first rightExact]
  · rcases right.value_cases with rfl | ⟨second, rfl⟩ | ⟨second, rightExact⟩
    · rw [nan_sub, sub_nan]
    · rw [abs_infinite_sub second leftExact, abs_sub_infinite second leftExact]
    · -- The two differences are opposite values before they are rounded.
      rw [(rounds_sub leftExact rightExact).abs_eq, (rounds_sub rightExact leftExact).abs_eq,
        ← neg_sub, abs_round_neg]

end Binary

end PdfResize
