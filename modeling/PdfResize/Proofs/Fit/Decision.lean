import PdfResize.Fit.Decision
import PdfResize.Proofs.Number.Exactness
import PdfResize.Proofs.PageSize

/-! What the numbers of a decision can be: a size fits itself, and a factor is a fraction. -/

namespace PdfResize

/-- The numeral one stands for one. -/
theorem Single.toRat?_one : (1 : Single).toRat? = some 1 :=
  -- One has few enough digits for the format.
  Binary.toRat?_numeral (by decide) (by decide) (by decide)

/-- The numeral one stands for one. -/
theorem Double.toRat?_one : (1 : Double).toRat? = some 1 :=
  -- One has few enough digits for the format.
  Binary.toRat?_numeral (by decide) (by decide) (by decide)

namespace FitOptions

variable {options : FitOptions} {tolerance : Single}

/-- Options are allowed when the tolerance is a number from zero to below one. -/
theorem validate_eq_ok_iff : options.validate = .ok () ↔
    options.tolerance.isFinite ∧ 0 ≤ options.tolerance ∧ options.tolerance < 1 := by
  -- The check is this condition.
  unfold validate
  split
  · rename_i allowed
    exact iff_of_true rfl allowed
  · rename_i refused
    exact iff_of_false nofun refused

/-- A tolerance from zero to below one stands for such a fraction. -/
theorem exists_fraction (nonneg : 0 ≤ tolerance) (below : tolerance < 1) :
    ∃ fraction, tolerance.toRat? = some fraction ∧ 0 ≤ fraction ∧ fraction < 1 := by
  -- What lies between two finite numbers is finite, and its order is that of the exact values.
  have one := Single.toRat?_one
  obtain ⟨fraction, stands⟩ :=
    Binary.exists_toRat?_of_between Binary.toRat?_zero one nonneg (Binary.le_of_lt below)
  exact ⟨fraction, stands, (Binary.le_iff Binary.toRat?_zero stands).1 nonneg,
    (Binary.lt_iff stands one).1 below⟩

/-- The factor of the lower limit is rounded to at most one, and that of the upper limit to at least one. -/
theorem exists_factors {fraction : Rat} (stands : tolerance.toRat? = some fraction)
    (nonneg : 0 ≤ fraction) (atMost : fraction ≤ 1) : ∃ smaller larger,
      (1 - tolerance).toRat? = some smaller ∧ (1 + tolerance).toRat? = some larger ∧
        smaller ≤ 1 ∧ 1 ≤ larger := by
  -- One, two and zero can be held, so neither rounding crosses them.
  have one := Single.toRat?_one
  have two : (2 : Single).toRat? = some 2 :=
    Binary.toRat?_numeral (by decide) (by decide) (by decide)
  obtain ⟨smaller, smallerExact, _, smallerBound⟩ :=
    (Binary.rounds_sub one stands).between (Format.holds_zero _) (Binary.holds_of_toRat? one)
      (by linarith) (by linarith)
  obtain ⟨larger, largerExact, largerBound, _⟩ :=
    (Binary.rounds_add one stands).between (Binary.holds_of_toRat? one)
      (Binary.holds_of_toRat? two) (by linarith) (by linarith)
  exact ⟨smaller, larger, smallerExact, largerExact, smallerBound, largerBound⟩

/-- An extent fits itself under every tolerance that is a fraction, however it is rounded. -/
theorem extentFits_self {extent : Single} {value : Rat} (nonneg : 0 ≤ options.tolerance)
    (below : options.tolerance < 1) (exact : extent.toRat? = some value) (positive : 0 < value) :
    options.extentFits extent extent := by
  -- The extent itself can be held, so rounding the two products does not carry them across it.
  obtain ⟨fraction, stands, atLeast, less⟩ := exists_fraction nonneg below
  obtain ⟨smaller, larger, smallerExact, largerExact, smallerBound, largerBound⟩ :=
    exists_factors stands atLeast less.le
  have lower : extent * (1 - options.tolerance) ≤ extent :=
    (Binary.rounds_mul exact smallerExact).le exact (by nlinarith)
  have upper : extent ≤ extent * (1 + options.tolerance) :=
    (Binary.rounds_mul exact largerExact).ge exact (by nlinarith)
  simp [extentFits, lower, upper]

/-- A page that has been set to an upright target is within every tolerance that is a fraction. -/
theorem pageFits_orientedLike {target : PageSize} (nonneg : 0 ≤ options.tolerance)
    (below : options.tolerance < 1) (usable : target.isUsable) (upright : target.width ≤ target.height)
    (page : PageSize) : options.pageFits target (target.orientedLike page) := by
  -- The limits of such a page are its own extents.
  obtain ⟨width, height, widthExact, heightExact, widthPositive, heightPositive⟩ :=
    PageSize.exists_extents (PageSize.isUsable_orientedLike usable page)
  simp only [pageFits, PageSize.orientedLike_orientedLike usable upright, Bool.and_eq_true]
  exact ⟨extentFits_self nonneg below heightExact heightPositive,
    extentFits_self nonneg below widthExact widthPositive⟩

end FitOptions

/-- A target is larger than a page in some extent, as it applies to the page. -/
def PageSize.exceeds (target page : PageSize) : Bool :=
  let limits := target.orientedLike page
  page.height < limits.height || page.width < limits.width

/-- A number stands for a value between zero and one. -/
def Binary.IsFraction {format : Format} (number : Binary format) : Prop :=
  ∃ value, number.toRat? = some value ∧ 0 ≤ value ∧ value ≤ 1

namespace Scaling

/-- A page falls short of a target exactly when it is smaller in some extent, however little. -/
theorem fallsShort_eq_exceeds {target page : PageSize} (targetUsable : target.isUsable)
    (pageUsable : page.isUsable) : fallsShort target page = PageSize.exceeds target page := by
  -- A difference is negative exactly when the extent is below its limit.
  obtain ⟨width, height, widthExact, heightExact, _⟩ := PageSize.exists_extents pageUsable
  obtain ⟨wide, high, wideExact, highExact, _⟩ :=
    PageSize.exists_extents (PageSize.isUsable_orientedLike targetUsable page)
  simp only [fallsShort, PageSize.exceeds, Binary.sub_lt_zero_iff heightExact highExact,
    Binary.sub_lt_zero_iff widthExact wideExact]

/-- The fraction of an extent beyond its limit is a fraction. -/
theorem isFraction_excess {extent limit : Single} {size bound : Rat}
    (extentExact : extent.toRat? = some size) (limitExact : limit.toRat? = some bound)
    (sizePositive : 0 < size) (boundPositive : 0 < bound) : (excess extent limit).IsFraction := by
  -- An extent that is within its limit has nothing beyond it.
  simp only [excess]
  split
  · -- What is beyond the limit is no more than the extent itself.
    rename_i beyond
    obtain ⟨overage, overageExact, _, overageBound⟩ :=
      (Binary.rounds_sub extentExact limitExact).between
        (Format.holds_neg (Binary.holds_of_toRat? limitExact)) (Binary.holds_of_toRat? extentExact)
        (by linarith) (by linarith)
    have positive := (Binary.lt_iff Binary.toRat?_zero overageExact).1 beyond
    exact (Binary.rounds_div overageExact extentExact sizePositive.ne').between
      (Format.holds_zero _) (Binary.holds_of_toRat? Single.toRat?_one) (by positivity)
      ((div_le_one sizePositive).2 overageBound)
  · exact ⟨0, Binary.toRat?_zero, le_rfl, zero_le_one⟩

/-- An extent of a page together with its limit. -/
structure Axis where
  /-- How far the page reaches. -/
  extent : Single
  /-- How far the target lets it reach. -/
  limit : Single

/-- The two extents of a page with their limits. -/
def axes (target page : PageSize) : List Axis :=
  let limits := target.orientedLike page
  [⟨page.height, limits.height⟩, ⟨page.width, limits.width⟩]

variable {target page : PageSize} {pages : List PageSize} {axis : Axis}

/-- Of a usable page the extents are finite and above zero, and so are their limits. -/
theorem exists_values_of_mem_axes (targetUsable : target.isUsable) (pageUsable : page.isUsable)
    (member : axis ∈ axes target page) : ∃ size bound, axis.extent.toRat? = some size ∧
      axis.limit.toRat? = some bound ∧ 0 < size ∧ 0 < bound := by
  -- There are two axes, and both sides of both sizes are usable.
  obtain ⟨width, height, widthExact, heightExact, widthPositive, heightPositive⟩ :=
    PageSize.exists_extents pageUsable
  obtain ⟨wide, high, wideExact, highExact, widePositive, highPositive⟩ :=
    PageSize.exists_extents (PageSize.isUsable_orientedLike targetUsable page)
  simp only [axes, List.mem_cons, List.not_mem_nil, or_false] at member
  rcases member with rfl | rfl
  · exact ⟨height, high, heightExact, highExact, heightPositive, highPositive⟩
  · exact ⟨width, wide, widthExact, wideExact, widthPositive, widePositive⟩

/-- The fractions of all axes of all pages that lie beyond the target. -/
def excesses (target : PageSize) (pages : List PageSize) : List Single :=
  (pages.flatMap (axes target)).map fun axis => excess axis.extent axis.limit

/-- The worst excess is the largest of the excesses of all axes. -/
theorem worstExcess_eq (target : PageSize) (pages : List PageSize) :
    worstExcess target pages = (excesses target pages).foldl Binary.larger 0 := by
  -- Each page contributes its two fractions one after the other.
  unfold excesses
  rw [List.foldl_map, List.foldl_flatMap]
  rfl

/-- What lies beyond the target on any axis of any page is a fraction. -/
theorem isFraction_of_mem_excesses (targetUsable : target.isUsable)
    (pagesUsable : ∀ page ∈ pages, page.isUsable) :
    ∀ fraction ∈ excesses target pages, fraction.IsFraction := by
  -- Each excess is that of an axis of a listed page.
  intro fraction among
  obtain ⟨axis, member, rfl⟩ := List.mem_map.1 among
  obtain ⟨page, listed, ofPage⟩ := List.mem_flatMap.1 member
  obtain ⟨size, bound, extentExact, limitExact, sizePositive, boundPositive⟩ :=
    exists_values_of_mem_axes targetUsable (pagesUsable page listed) ofPage
  exact isFraction_excess extentExact limitExact sizePositive boundPositive

/-- The largest fraction of any extent beyond the target is a fraction. -/
theorem isFraction_worstExcess (targetUsable : target.isUsable)
    (pagesUsable : ∀ page ∈ pages, page.isUsable) : (worstExcess target pages).IsFraction := by
  have fractions := isFraction_of_mem_excesses targetUsable pagesUsable
  have values : ∀ fraction ∈ excesses target pages, ∃ value, fraction.toRat? = some value := by
    intro fraction among
    obtain ⟨value, stands, _⟩ := fractions fraction among
    exact ⟨value, stands⟩
  obtain ⟨largest, found, attained, _⟩ := Binary.toRat?_foldl_larger Binary.toRat?_zero values
  rw [worstExcess_eq]
  -- It is the zero that the search begins with, or one of the fractions.
  rcases attained with rfl | ⟨fraction, among, stands⟩
  · exact ⟨0, found, le_rfl, zero_le_one⟩
  · obtain ⟨value, again, nonneg, atMost⟩ := fractions fraction among
    rw [stands] at again
    cases again
    exact ⟨largest, found, nonneg, atMost⟩

/-- The number that scales a factor to its decimal places is exact. -/
theorem toRat?_scale : (Binary.raise 10 decimalPlaces : Double).toRat? = some 10000 := by
  -- The power of ten is one closed number.
  decide +kernel

/-- A fraction is rounded to four decimal places up to the errors of the arithmetic, and it stays a fraction. -/
theorem exists_roundToPlaces {number : Double} {value : Rat} (exact : number.toRat? = some value)
    (nonneg : 0 ≤ value) (atMost : value ≤ 1) :
    ∃ result, (Binary.roundToPlaces decimalPlaces number).toRat? = some result ∧
      0 ≤ result ∧ result ≤ 1 ∧ |result - value| ≤ 1 / 20000 + 2 / 10 ^ 11 := by
  have scale := toRat?_scale
  have largest := Binary.holds_of_toRat? scale
  -- Scaled up it is at most ten thousand.
  have up := Binary.rounds_mul exact scale
  obtain ⟨scaled, scaledExact, scaledNonneg, scaledBound⟩ :=
    up.between (Format.holds_zero _) largest (by linarith) (by linarith)
  have upError := up.double_error scaledExact (by rw [abs_of_nonneg] <;> linarith)
  -- Rounded to a whole number it still is, and at most a half is lost.
  have low : 0 ≤ nearestInt scaled := le_nearestInt (by simpa using scaledNonneg)
  have high : nearestInt scaled ≤ 10000 := nearestInt_le (by simpa using scaledBound)
  have lowValue : (0 : Rat) ≤ nearestInt scaled := by exact_mod_cast low
  have highValue : (nearestInt scaled : Rat) ≤ 10000 := by exact_mod_cast high
  have half := abs_nearestInt_sub_le scaled
  have nearest := Binary.rounds_nearestWhole scaledExact
  obtain ⟨whole, wholeExact, wholeNonneg, wholeBound⟩ :=
    nearest.between (Format.holds_zero _) largest lowValue highValue
  have wholeError := nearest.double_error wholeExact (by rwa [abs_of_nonneg lowValue])
  -- Scaled down it is at most one, and the half counts a ten-thousandth of itself.
  have down := Binary.rounds_div wholeExact scale (by norm_num)
  obtain ⟨result, resultExact, resultNonneg, resultBound⟩ :=
    down.between (Format.holds_zero _) (Binary.holds_of_toRat? Double.toRat?_one) (by positivity)
      (by linarith)
  have downError := down.double_error resultExact (by rw [abs_of_nonneg (by positivity)]; linarith)
  refine ⟨result, resultExact, resultNonneg, resultBound, ?_⟩
  rw [abs_le] at *
  constructor <;> linarith

/-- The factor is what a fraction leaves of one, to four decimal places, and it is a fraction itself. -/
theorem exists_factorFor {worst : Single} {value : Rat} (exact : worst.toRat? = some value)
    (nonneg : 0 ≤ value) (atMost : value ≤ 1) :
    ∃ factor, (factorFor worst).toRat? = some factor ∧ 0 ≤ factor ∧ factor ≤ 1 ∧
      |factor - (1 - value)| ≤ 1 / 20000 + 1 / 10 ^ 10 := by
  -- Widening keeps the fraction between zero and one, and so does taking it from one.
  have one := Double.toRat?_one
  have converted : (worst.convert : Double).Rounds value := Binary.rounds_convert exact
  obtain ⟨widened, widenedExact, widenedNonneg, widenedBound⟩ :=
    converted.between (Format.holds_zero _) (Binary.holds_of_toRat? one) nonneg atMost
  have widenedError := converted.double_error widenedExact (by rw [abs_of_nonneg nonneg]; linarith)
  have taken := Binary.rounds_sub one widenedExact
  obtain ⟨left, leftExact, leftNonneg, leftBound⟩ :=
    taken.between (Format.holds_zero _) (Binary.holds_of_toRat? one) (by linarith) (by linarith)
  have leftError := taken.double_error leftExact (by rw [abs_of_nonneg] <;> linarith)
  obtain ⟨factor, factorExact, factorNonneg, factorBound, roundedError⟩ :=
    exists_roundToPlaces leftExact leftNonneg leftBound
  refine ⟨factor, factorExact, factorNonneg, factorBound, ?_⟩
  rw [abs_le] at *
  constructor <;> linarith

/-- What is left when a fraction is taken away is a fraction, to the decimal places of a factor as well. -/
theorem isFraction_factorFor {worst : Single} (fraction : worst.IsFraction) :
    (factorFor worst).IsFraction := by
  -- The bounds of the factor are among what is known of its rounding.
  obtain ⟨value, exact, nonneg, atMost⟩ := fraction
  obtain ⟨factor, factorExact, factorNonneg, factorBound, _⟩ := exists_factorFor exact nonneg atMost
  exact ⟨factor, factorExact, factorNonneg, factorBound⟩

end Scaling

end PdfResize
