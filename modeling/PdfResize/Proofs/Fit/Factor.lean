import PdfResize.Proofs.Fit.Decision

/-! The factor of a shrink takes every extent of every page to its limit, up to the places that the factor keeps. -/

namespace PdfResize

namespace Scaling

/-- The overage of an extent that is from its limit on stands for a value that is not below zero. -/
theorem exists_overage {extent limit : Single} {size bound : Rat}
    (extentExact : extent.toRat? = some size) (limitExact : limit.toRat? = some bound)
    (positive : 0 < bound) (large : bound ≤ size) :
    ∃ overage, (extent - limit).toRat? = some overage ∧ 0 ≤ overage ∧ overage ≤ size :=
  -- Zero and the extent can be held, and the exact difference lies between them.
  (Binary.rounds_sub extentExact limitExact).between (Format.holds_zero _)
    (Binary.holds_of_toRat? extentExact) (by linarith) (by linarith)

/-- The fraction of an extent beyond its limit is computed to six decimal places. -/
theorem excess_error {extent limit : Single} {size bound value : Rat}
    (extentExact : extent.toRat? = some size) (limitExact : limit.toRat? = some bound)
    (positive : 0 < bound) (large : bound ≤ size)
    (exact : (excess extent limit).toRat? = some value) :
    |value - (size - bound) / size| ≤ 2 / 10 ^ 7 := by
  obtain ⟨overage, overageExact, nonneg, atMost⟩ :=
    exists_overage extentExact limitExact positive large
  have sizePositive : 0 < size := lt_of_lt_of_le positive large
  -- The overage is off by a small part of itself, so its fraction of the extent is off by no more.
  have small := Format.single_epsilon_le
  have error := Binary.sub_error extentExact limitExact overageExact
  rw [abs_of_nonneg (sub_nonneg.2 large)] at error
  have part : |overage / size - (size - bound) / size| ≤ 1 / 10 ^ 7 := by
    rw [← sub_div, abs_div, abs_of_pos sizePositive, div_le_iff₀ sizePositive]
    nlinarith
  simp only [excess] at exact
  split at exact
  · -- The quotient is rounded once more, and it is at most one.
    have rounded := (Binary.rounds_div overageExact extentExact sizePositive.ne').single_error exact (by
      rw [abs_of_nonneg (by positivity)]
      exact (div_le_one sizePositive).2 atMost)
    have triangle := abs_sub_le value (overage / size) ((size - bound) / size)
    linarith
  · -- Without an overage the extent is its limit.
    rename_i nothing
    rw [Binary.lt_iff Binary.toRat?_zero overageExact] at nothing
    have zero : overage = 0 := le_antisymm (not_lt.1 nothing) nonneg
    rw [Binary.toRat?_zero] at exact
    cases exact
    rw [zero, zero_div] at part
    linarith

/-- What the fraction leaves of the extent is the share that the limit has of it, to six decimal places. -/
theorem share_error {extent limit : Single} {size bound value : Rat}
    (extentExact : extent.toRat? = some size) (limitExact : limit.toRat? = some bound)
    (positive : 0 < bound) (large : bound ≤ size)
    (exact : (excess extent limit).toRat? = some value) :
    |(1 - value) - bound / size| ≤ 2 / 10 ^ 7 := by
  -- The fraction and the share add up to one.
  have whole : (size - bound) / size = 1 - bound / size := by
    rw [sub_div, div_self (lt_of_lt_of_le positive large).ne']
  have error := excess_error extentExact limitExact positive large exact
  rw [whole, abs_sub_comm] at error
  rwa [sub_right_comm]

variable {target page : PageSize} {pages : List PageSize} {axis : Axis}

/-- When no page falls short, a listed page does not. -/
theorem not_exceeds_of_mem (large : pages.any target.exceeds = false) (listed : page ∈ pages) :
    target.exceeds page = false :=
  -- The test of all pages covers this one.
  Bool.not_eq_true _ ▸ List.any_eq_false.1 large page listed

/-- A page that the target does not exceed reaches every limit. -/
theorem limit_le_extent {size bound : Rat} (large : target.exceeds page = false)
    (member : axis ∈ axes target page) (extentExact : axis.extent.toRat? = some size)
    (limitExact : axis.limit.toRat? = some bound) : bound ≤ size := by
  -- The height is looked at first and the width after it, as in the axes.
  simp only [PageSize.exceeds, Bool.or_eq_false_iff, decide_eq_false_iff_not] at large
  simp only [axes, List.mem_cons, List.not_mem_nil, or_false] at member
  rcases member with rfl | rfl
  · exact not_lt.1 fun less => large.1 ((Binary.lt_iff extentExact limitExact).2 less)
  · exact not_lt.1 fun less => large.2 ((Binary.lt_iff extentExact limitExact).2 less)

/-- No fraction of any axis of any page is larger than the worst one. -/
theorem excess_le_worstExcess {worst : Rat} (targetUsable : target.isUsable)
    (pagesUsable : ∀ page ∈ pages, page.isUsable)
    (exact : (worstExcess target pages).toRat? = some worst) :
    ∀ fraction ∈ excesses target pages, ∃ value, fraction.toRat? = some value ∧ value ≤ worst := by
  have values : ∀ fraction ∈ excesses target pages, ∃ value, fraction.toRat? = some value := by
    intro fraction among
    obtain ⟨value, stands, _⟩ := isFraction_of_mem_excesses targetUsable pagesUsable fraction among
    exact ⟨value, stands⟩
  -- The search goes through all fractions, and none of them is larger than what it ends with.
  obtain ⟨largest, found, _, _, below⟩ := Binary.toRat?_foldl_larger Binary.toRat?_zero values
  rw [worstExcess_eq, found] at exact
  cases exact
  intro fraction among
  obtain ⟨value, stands⟩ := values fraction among
  exact ⟨value, stands, below fraction among value stands⟩

/--
The factor takes every extent of every page to its limit.

What is missing is at most half of the last decimal place that the factor keeps, and a millionth for the
errors of the arithmetic.
-/
theorem factorFor_mul_le {factor size bound : Rat} (targetUsable : target.isUsable)
    (pagesUsable : ∀ page ∈ pages, page.isUsable) (large : pages.any target.exceeds = false)
    (factorExact : (factorFor (worstExcess target pages)).toRat? = some factor)
    (listed : page ∈ pages) (member : axis ∈ axes target page)
    (extentExact : axis.extent.toRat? = some size) (limitExact : axis.limit.toRat? = some bound) :
    factor * size ≤ bound + (1 / 20000 + 1 / 10 ^ 6) * size := by
  obtain ⟨worst, worstExact, nonneg, atMost⟩ := isFraction_worstExcess targetUsable pagesUsable
  obtain ⟨_, factorAgain, _, _, rounded⟩ := exists_factorFor worstExact nonneg atMost
  rw [factorExact] at factorAgain
  cases factorAgain
  obtain ⟨_, _, extentAgain, limitAgain, sizePositive, boundPositive⟩ :=
    exists_values_of_mem_axes targetUsable (pagesUsable page listed) member
  rw [extentExact] at extentAgain
  rw [limitExact] at limitAgain
  cases extentAgain
  cases limitAgain
  have reaches := limit_le_extent (not_exceeds_of_mem large listed) member extentExact limitExact
  -- The fraction that is taken away is at least the one that lies beyond the limit here.
  have among : excess axis.extent axis.limit ∈ excesses target pages :=
    List.mem_map.2 ⟨axis, List.mem_flatMap.2 ⟨page, listed, member⟩, rfl⟩
  obtain ⟨value, stands, below⟩ :=
    excess_le_worstExcess targetUsable pagesUsable worstExact _ among
  have close := share_error extentExact limitExact boundPositive reaches stands
  rw [abs_le] at rounded close
  -- So what the factor keeps of the extent is at most its share of the limit, up to the roundings.
  have kept : factor ≤ bound / size + (1 / 20000 + 1 / 10 ^ 6) := by linarith
  calc factor * size ≤ (bound / size + (1 / 20000 + 1 / 10 ^ 6)) * size := by gcongr
    _ = bound + (1 / 20000 + 1 / 10 ^ 6) * size := by
      rw [add_mul, div_mul_cancel₀ _ sizePositive.ne']

/-- Where there are pages, the worst fraction is that of some axis of one of them. -/
theorem exists_worst_axis {worst : Rat} (targetUsable : target.isUsable)
    (pagesUsable : ∀ page ∈ pages, page.isUsable) (nonempty : pages ≠ [])
    (exact : (worstExcess target pages).toRat? = some worst) :
    ∃ page ∈ pages, ∃ axis ∈ axes target page,
      (excess axis.extent axis.limit).toRat? = some worst := by
  -- The search for the largest has found it at some axis, unless it has never left zero.
  have fractions := isFraction_of_mem_excesses targetUsable pagesUsable
  have attained : ∃ fraction ∈ excesses target pages, fraction.toRat? = some worst := by
    obtain ⟨largest, found, attained, _⟩ :=
      Binary.toRat?_foldl_larger Binary.toRat?_zero fun fraction among =>
        let ⟨value, stands, _⟩ := fractions fraction among
        ⟨value, stands⟩
    rw [worstExcess_eq, found] at exact
    cases exact
    rcases attained with rfl | reached
    · -- The search has not left zero, and so no fraction of the first page is above it.
      obtain ⟨page, listed⟩ := List.exists_mem_of_ne_nil pages nonempty
      have among : excess page.height (target.orientedLike page).height ∈ excesses target pages :=
        List.mem_map.2 ⟨⟨page.height, (target.orientedLike page).height⟩,
          List.mem_flatMap.2 ⟨page, listed, List.mem_cons_self⟩, rfl⟩
      obtain ⟨value, stands, nonneg, _⟩ := fractions _ among
      obtain ⟨again, standsAgain, below⟩ := excess_le_worstExcess targetUsable pagesUsable
        (worstExcess_eq target pages ▸ found) _ among
      rw [stands] at standsAgain
      cases standsAgain
      exact ⟨_, among, by rw [stands, le_antisymm below nonneg]⟩
    · exact reached
  obtain ⟨fraction, among, stands⟩ := attained
  obtain ⟨axis, member, rfl⟩ := List.mem_map.1 among
  obtain ⟨page, listed, ofPage⟩ := List.mem_flatMap.1 member
  exact ⟨page, listed, axis, ofPage, stands⟩

/--
Where there are pages, the factor takes some extent of one of them no further than to its limit.

It misses the limit, on either side, by no more than it can miss it on the far side for any extent.
-/
theorem exists_factorFor_mul_close {factor : Rat} (targetUsable : target.isUsable)
    (pagesUsable : ∀ page ∈ pages, page.isUsable) (large : pages.any target.exceeds = false)
    (nonempty : pages ≠ []) (factorExact : (factorFor (worstExcess target pages)).toRat? = some factor) :
    ∃ page ∈ pages, ∃ axis ∈ axes target page, ∃ size bound : Rat,
      axis.extent.toRat? = some size ∧ axis.limit.toRat? = some bound ∧ 0 < size ∧
        |factor * size - bound| ≤ (1 / 20000 + 1 / 10 ^ 6) * size := by
  obtain ⟨worst, worstExact, nonneg, atMost⟩ := isFraction_worstExcess targetUsable pagesUsable
  obtain ⟨_, factorAgain, _, _, rounded⟩ := exists_factorFor worstExact nonneg atMost
  rw [factorExact] at factorAgain
  cases factorAgain
  obtain ⟨page, listed, axis, member, stands⟩ :=
    exists_worst_axis targetUsable pagesUsable nonempty worstExact
  obtain ⟨size, bound, extentExact, limitExact, sizePositive, boundPositive⟩ :=
    exists_values_of_mem_axes targetUsable (pagesUsable page listed) member
  refine ⟨page, listed, axis, member, size, bound, extentExact, limitExact, sizePositive, ?_⟩
  -- The fraction that is taken away is the one of this axis.
  have reaches := limit_le_extent (not_exceeds_of_mem large listed) member extentExact limitExact
  have close := share_error extentExact limitExact boundPositive reaches stands
  have near : |factor - bound / size| ≤ 1 / 20000 + 1 / 10 ^ 6 := by
    have triangle := abs_sub_le factor (1 - worst) (bound / size)
    linarith
  have scaled : factor * size - bound = (factor - bound / size) * size := by
    rw [sub_mul, div_mul_cancel₀ _ sizePositive.ne']
  rw [scaled, abs_mul, abs_of_pos sizePositive]
  gcongr

end Scaling

end PdfResize
