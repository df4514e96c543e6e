import PdfResize.Proofs.Fit.Factor
import PdfResize.Proofs.Fit.Sides

/-! The factor of a shrink is the exact share that is left, rounded once to the decimal places of a factor. -/

namespace PdfResize

namespace Scaling

/-! ### What a fraction leaves of one -/

section factor

variable {worst : Single} {ratio : Rat}

/-- Up to 53 bits in a unit that is neither too fine nor too coarse are a 64-bit number. -/
theorem holds_double {value : Rat} (whole unit : Int) (units : value = whole * 2 ^ unit)
    (short : whole.natAbs ≤ 2 ^ 53) (fine : -1074 ≤ unit) (inside : unit < 971) :
    Format.double.Holds value := by
  -- These are the bounds of the format.
  rw [units]
  exact Format.holds_of_units short fine (show unit + 53 < 1024 by omega)

/--
A fraction that is not tiny is taken from one, and the rest is scaled up, without any rounding.

The fraction counts in units of two to the power of -38, and so does the rest. As ten thousand is sixteen
times 625, the product counts in units that are sixteen times as large, and it has less than 53 bits.
-/
theorem toRat?_scaled_of_large (exact : worst.toRat? = some ratio) (large : 1 / 2 ^ 15 ≤ ratio)
    (atMost : ratio ≤ 1) : ((1 - worst.convert) * Binary.raise 10 decimalPlaces : Double).toRat? =
      some ((1 - ratio) * 10000) := by
  have power : (2 : Rat) ^ (-15 : Int) = 1 / 2 ^ 15 := by norm_num
  obtain ⟨count, counted⟩ := (Binary.holds_of_toRat? exact).2.exists_units_of_le (power ▸ large)
  have units : ratio = count * 2 ^ (-38 : Int) := counted
  have unit : (2 : Rat) ^ (-38 : Int) = 1 / 2 ^ 38 := by norm_num
  -- The fraction has between none and all of the units that one has.
  have nonneg : 0 ≤ count := by
    rw [units, unit] at large
    exact_mod_cast (by linarith : (0 : Rat) ≤ count)
  have bounded : count ≤ 2 ^ 38 := by
    rw [units, unit] at atMost
    exact_mod_cast (by linarith : (count : Rat) ≤ 2 ^ 38)
  have ratioHeld : Format.double.Holds ratio :=
    holds_double count (-38) units (by omega) (by omega) (by omega)
  have restHeld : Format.double.Holds (1 - ratio) := by
    refine holds_double (2 ^ 38 - count) (-38) ?_ (by omega) (by omega) (by omega)
    rw [units]
    push_cast
    ring
  have productHeld : Format.double.Holds ((1 - ratio) * 10000) := by
    refine holds_double (625 * (2 ^ 38 - count)) (-34) ?_ (by omega) (by omega) (by omega)
    rw [units]
    push_cast
    ring
  -- So the fraction, the rest and the product are the exact ones.
  have widened := (Binary.rounds_convert exact).toRat?_of_holds ratioHeld
  have rest := (Binary.rounds_sub Double.toRat?_one widened).toRat?_of_holds restHeld
  exact (Binary.rounds_mul rest toRat?_scale).toRat?_of_holds productHeld

/-- A tiny fraction leaves next to all of ten thousand, however what it leaves is rounded. -/
theorem exists_scaled_of_small (exact : worst.toRat? = some ratio) (nonneg : 0 ≤ ratio)
    (small : ratio ≤ 1 / 2 ^ 15) :
    ∃ scaled, ((1 - worst.convert) * Binary.raise 10 decimalPlaces : Double).toRat? = some scaled ∧
      (1 - 1 / 2 ^ 15) * 10000 ≤ scaled ∧ scaled ≤ 10000 := by
  have tinyHeld : Format.double.Holds (1 / 2 ^ 15) :=
    holds_double 1 (-15) (by norm_num) (by omega) (by omega) (by omega)
  have restHeld : Format.double.Holds (1 - 1 / 2 ^ 15) :=
    holds_double (2 ^ 15 - 1) (-15) (by norm_num) (by omega) (by omega) (by omega)
  have productHeld : Format.double.Holds ((1 - 1 / 2 ^ 15) * 10000) :=
    holds_double (625 * (2 ^ 15 - 1)) (-11) (by norm_num) (by omega) (by omega) (by omega)
  -- No answer passes the number that bounds the exact result.
  obtain ⟨widened, widenedExact, widenedNonneg, widenedBound⟩ :=
    (Binary.rounds_convert exact).between (Format.holds_zero _) tinyHeld nonneg small
  obtain ⟨rest, restExact, restBound, restAtMost⟩ :=
    (Binary.rounds_sub Double.toRat?_one widenedExact).between restHeld
      (Binary.holds_of_toRat? Double.toRat?_one) (by linarith) (by linarith)
  exact (Binary.rounds_mul restExact toRat?_scale).between productHeld
    (Binary.holds_of_toRat? toRat?_scale) (by linarith) (by linarith)

/-- What a fraction leaves of one, scaled up, is nearest to the whole number that the exact rest is nearest to. -/
theorem exists_scaled (exact : worst.toRat? = some ratio) (nonneg : 0 ≤ ratio) (atMost : ratio ≤ 1) :
    ∃ scaled, ((1 - worst.convert) * Binary.raise 10 decimalPlaces : Double).toRat? = some scaled ∧
      nearestInt scaled = nearestInt (10000 * (1 - ratio)) := by
  -- A large ratio is scaled without an error, and next to a small one both values round to ten thousand.
  rw [mul_comm 10000]
  rcases le_total (1 / 2 ^ 15) ratio with large | small
  · exact ⟨_, toRat?_scaled_of_large exact large atMost, rfl⟩
  · -- Both are less than a half below ten thousand.
    have roundedUp {value : Rat} (above : (1 - 1 / 2 ^ 15) * 10000 ≤ value)
        (below : value ≤ 10000) : nearestInt value = 10000 :=
      nearestInt_of_near_below (by exact_mod_cast below) (by push_cast; linarith)
    obtain ⟨scaled, stands, above, below⟩ := exists_scaled_of_small exact nonneg small
    exact ⟨scaled, stands, (roundedUp above below).trans
      (roundedUp (by linarith) (by linarith)).symm⟩

/-- A fraction leaves between none and all of the ten-thousandths. -/
theorem places_bounds (nonneg : 0 ≤ ratio) (atMost : ratio ≤ 1) :
    0 ≤ nearestInt (10000 * (1 - ratio)) ∧ nearestInt (10000 * (1 - ratio)) ≤ 10000 :=
  -- The value that is rounded lies between the same two integers.
  ⟨le_nearestInt (by push_cast; linarith), nearestInt_le (by push_cast; linarith)⟩

/-- The factor is what a fraction leaves of one, rounded to a whole number of ten-thousandths once. -/
theorem rounds_factorFor (exact : worst.toRat? = some ratio) (nonneg : 0 ≤ ratio) (atMost : ratio ≤ 1) :
    (factorFor worst).Rounds (nearestInt (10000 * (1 - ratio)) / 10000) := by
  obtain ⟨scaled, stands, same⟩ := exists_scaled exact nonneg atMost
  -- The whole number is at most ten thousand and so a number of the format.
  obtain ⟨low, high⟩ := places_bounds nonneg atMost
  have held : Format.double.Holds (nearestInt (10000 * (1 - ratio))) :=
    holds_double (nearestInt (10000 * (1 - ratio))) 0 (by simp) (by omega) (by omega) (by omega)
  have whole := Binary.rounds_nearestWhole stands
  rw [same] at whole
  exact Binary.rounds_div (whole.toRat?_of_holds held) toRat?_scale (by norm_num)

/-- The factor is zero exactly when what the fraction leaves is rounded to no ten-thousandth at all. -/
theorem isZero_factorFor_iff (exact : worst.toRat? = some ratio) (nonneg : 0 ≤ ratio)
    (atMost : ratio ≤ 1) : (factorFor worst).isZero ↔ nearestInt (10000 * (1 - ratio)) = 0 := by
  -- The factor is a number of ten-thousandths, rounded once more.
  have rounds := rounds_factorFor exact nonneg atMost
  obtain ⟨low, high⟩ := places_bounds nonneg atMost
  generalize nearestInt (10000 * (1 - ratio)) = places at rounds low high ⊢
  constructor
  · -- One ten-thousandth or more is above a number of the format, and is not rounded below it.
    intro zero
    by_contra something
    have atLeast : (1 : Rat) ≤ places := by exact_mod_cast (by omega : 1 ≤ places)
    have bounded : (places : Rat) ≤ 10000 := by exact_mod_cast high
    have held : Format.double.Holds (1 / 2 ^ 14) :=
      holds_double 1 (-14) (by norm_num) (by omega) (by omega) (by omega)
    obtain ⟨factor, stands, above, _⟩ :=
      rounds.between held (Binary.holds_of_toRat? Double.toRat?_one) (by linarith) (by linarith)
    rw [Binary.isZero, stands, beq_iff_eq, Option.some.injEq] at zero
    linarith
  · rintro rfl
    rw [Int.cast_zero, zero_div] at rounds
    rw [Binary.isZero, rounds.toRat?_of_holds (Format.holds_zero _)]
    rfl

/-- A factor that is not zero is the number nearest to the ten-thousandths that are left. -/
theorem factorFor_eq_round (exact : worst.toRat? = some ratio) (nonneg : 0 ≤ ratio) (atMost : ratio ≤ 1)
    (something : nearestInt (10000 * (1 - ratio)) ≠ 0) :
    factorFor worst = .round (nearestInt (10000 * (1 - ratio)) / 10000) := by
  -- Only a zero could have been written in another way.
  rcases rounds_factorFor exact nonneg atMost with same | ⟨nothing, _⟩
  · exact same
  · have zero : (nearestInt (10000 * (1 - ratio)) : Rat) = 0 := by linarith
    exact absurd (by exact_mod_cast zero) something

end factor

/-! ### The largest quotient -/

/-- What an extent has beyond its limit, divided by the extent, where each of the two steps is rounded. -/
def Axis.quotient (axis : Axis) : Single := (axis.extent - axis.limit) / axis.extent

/-- The exact value of the largest quotient of any axis of any page, or zero when no quotient is above zero. -/
structure LargestQuotient (target : PageSize) (pages : List PageSize) (ratio : Rat) : Prop where
  /-- It is zero at least. -/
  nonneg : 0 ≤ ratio
  /-- It is the value of some quotient, unless it is zero. -/
  attained : ratio = 0 ∨
    ∃ page ∈ pages, ∃ axis ∈ axes target page, axis.quotient.toRat? = some ratio
  /-- No quotient has a larger value. -/
  above : ∀ page ∈ pages, ∀ axis ∈ axes target page,
    ∃ value, axis.quotient.toRat? = some value ∧ value ≤ ratio

instance (target : PageSize) (pages : List PageSize) (ratio : Rat) :
    Decidable (LargestQuotient target pages ratio) :=
  decidable_of_iff (0 ≤ ratio ∧
    (ratio = 0 ∨ ∃ page ∈ pages, ∃ axis ∈ axes target page, axis.quotient.toRat? = some ratio) ∧
    ∀ page ∈ pages, ∀ axis ∈ axes target page, axis.quotient.toRat?.any fun value => value ≤ ratio) <| by
    -- The quotients are compared one by one.
    simp only [Option.any_eq_true, decide_eq_true_eq]
    exact ⟨fun ⟨nonneg, attained, above⟩ => ⟨nonneg, attained, above⟩,
      fun ⟨nonneg, attained, above⟩ => ⟨nonneg, attained, above⟩⟩

variable {target page : PageSize} {pages : List PageSize} {axis : Axis}
  {size bound value ratio other : Rat}

/-- There is one largest quotient. -/
theorem LargestQuotient.unique (largest : LargestQuotient target pages ratio)
    (again : LargestQuotient target pages other) : ratio = other := by
  -- Each of the two is zero or the value of a quotient, and the other one is not below it.
  have below {first second : Rat} (one : LargestQuotient target pages first)
      (two : LargestQuotient target pages second) : first ≤ second := by
    rcases one.attained with rfl | ⟨page, listed, axis, member, stands⟩
    · exact two.nonneg
    · obtain ⟨value, same, atMost⟩ := two.above page listed axis member
      cases stands.symm.trans same
      exact atMost
  exact le_antisymm (below largest again) (below again largest)

/-- The fraction of an extent beyond its limit is the quotient, for an extent that reaches its limit. -/
theorem toRat?_quotient (extentExact : axis.extent.toRat? = some size)
    (limitExact : axis.limit.toRat? = some bound) (positive : 0 < bound) (large : bound ≤ size)
    (exact : (excess axis.extent axis.limit).toRat? = some value) : axis.quotient.toRat? = some value := by
  -- The fraction is the quotient unless nothing is beyond the limit, and then both are zero.
  obtain ⟨overage, overageExact, nonneg, _⟩ := exists_overage extentExact limitExact positive large
  simp only [excess] at exact
  split at exact
  · exact exact
  · -- Without an overage the quotient is zero over the extent, and the fraction is zero.
    rename_i nothing
    rw [Binary.lt_iff Binary.toRat?_zero overageExact] at nothing
    have zero : overage = 0 := le_antisymm (not_lt.1 nothing) nonneg
    have rounds := Binary.rounds_div overageExact extentExact (lt_of_lt_of_le positive large).ne'
    rw [zero, zero_div] at rounds
    rw [Binary.toRat?_zero] at exact
    cases exact
    exact rounds.toRat?_of_holds (Format.holds_zero _)

/-- The excess of an axis of a listed page is its quotient. -/
theorem toRat?_quotient_of_mem (targetUsable : target.isUsable)
    (pagesUsable : ∀ page ∈ pages, page.isUsable) (large : pages.any target.exceeds = false)
    (listed : page ∈ pages) (member : axis ∈ axes target page)
    (exact : (excess axis.extent axis.limit).toRat? = some value) :
    axis.quotient.toRat? = some value := by
  -- No page falls short, so each extent reaches its limit.
  obtain ⟨size, bound, extentExact, limitExact, _, positive⟩ :=
    exists_values_of_mem_axes targetUsable (pagesUsable page listed) member
  exact toRat?_quotient extentExact limitExact positive
    (limit_le_extent (not_exceeds_of_mem large listed) member extentExact limitExact) exact

/-- The worst fraction of pages that reach all their limits is the largest quotient. -/
theorem largestQuotient_worstExcess (targetUsable : target.isUsable)
    (pagesUsable : ∀ page ∈ pages, page.isUsable) (large : pages.any target.exceeds = false)
    (exact : (worstExcess target pages).toRat? = some ratio) : LargestQuotient target pages ratio := by
  -- The three parts are that the fraction is not negative, that it is reached, and that none is above it.
  refine ⟨?_, ?_, ?_⟩
  · obtain ⟨value, stands, nonneg, _⟩ := isFraction_worstExcess targetUsable pagesUsable
    cases exact.symm.trans stands
    exact nonneg
  · by_cases none : pages = []
    · -- Without pages the search ends with the zero that it begins with.
      subst none
      exact .inl (Option.some.inj (exact.symm.trans Binary.toRat?_zero))
    · obtain ⟨page, listed, axis, member, stands⟩ :=
        exists_worst_axis targetUsable pagesUsable none exact
      exact .inr ⟨page, listed, axis, member,
        toRat?_quotient_of_mem targetUsable pagesUsable large listed member stands⟩
  · intro page listed axis member
    have among : excess axis.extent axis.limit ∈ excesses target pages :=
      List.mem_map.2 ⟨axis, List.mem_flatMap.2 ⟨page, listed, member⟩, rfl⟩
    obtain ⟨value, stands, below⟩ := excess_le_worstExcess targetUsable pagesUsable exact _ among
    exact ⟨value, toRat?_quotient_of_mem targetUsable pagesUsable large listed member stands, below⟩

end Scaling

namespace Document

variable {document : Document} {target : PageSize} {measured : List MeasuredPage}

/-- When every axis reaches its limit, no size falls short. -/
theorem any_exceeds_eq_false (found : document.measuredPages = .ok measured)
    (large : ∀ page ∈ measured, ∀ axis ∈ Scaling.axes target page.size, ¬ axis.extent < axis.limit) :
    document.sizes.any target.exceeds = false := by
  -- The sizes are those of the measured pages.
  rw [sizes_eq found, List.any_eq_false]
  intro size inside
  obtain ⟨page, listed, rfl⟩ := List.mem_map.1 inside
  rw [Scaling.exceeds_eq_any, List.any_eq_true]
  rintro ⟨axis, member, less⟩
  exact large page listed axis member (of_decide_eq_true less)

/--
The factor of a document that has to shrink is computed as if it were rounded only once.

Of the largest quotient of any page, the exact rest of one is brought to the nearest whole number of
ten-thousandths, a half going to the even one. The factor is the 64-bit number nearest to so many
ten-thousandths, and without any the target is too small.
-/
theorem requiredScaling_rounds_once (usable : target.isUsable)
    (found : document.measuredPages = .ok measured)
    (large : ∀ page ∈ measured, ∀ axis ∈ Scaling.axes target page.size, ¬ axis.extent < axis.limit) :
    ∃ ratio, Scaling.LargestQuotient target (measured.map (·.size)) ratio ∧
      let places := nearestInt (10000 * (1 - ratio))
      (1 ≤ places ∧ document.requiredScaling target = .ok (.shrink (.round (places / 10000))) ∨
        places = 0 ∧ document.requiredScaling target = .error (.target (.tooSmall target))) := by
  -- The worst fraction that is computed is the largest quotient, and whether the factor is zero is decided
  -- by the places.
  have pagesUsable := usable_of_measuredPages found
  have inside := any_exceeds_eq_false found large
  obtain ⟨ratio, exact, nonneg, atMost⟩ := Scaling.isFraction_worstExcess usable pagesUsable
  rw [requiredScaling_of_measuredPages usable found, inside, sizes_eq found]
  rw [sizes_eq found] at inside
  refine ⟨ratio, Scaling.largestQuotient_worstExcess usable pagesUsable inside exact, ?_⟩
  by_cases nothing : nearestInt (10000 * (1 - ratio)) = 0
  · have zero := (Scaling.isZero_factorFor_iff exact nonneg atMost).2 nothing
    exact .inr ⟨nothing, by simp [zero]⟩
  · have low := (Scaling.places_bounds nonneg atMost).1
    have nonzero := mt (Scaling.isZero_factorFor_iff exact nonneg atMost).1 nothing
    refine .inl ⟨by omega, ?_⟩
    rw [← Scaling.factorFor_eq_round exact nonneg atMost nothing]
    simp [nonzero]

/-- A page of 320 to 640 points, of which a target that is 310 points wide leaves a tie. -/
def tiedPage : Document :=
  ofKids (.array [.integer 0, .integer 0, .integer 320, .integer 640])
    [.dictionary [(ascii "Type", .name (ascii "Page")), (ascii "Parent", .reference ⟨2, 0⟩)]]

/-- A page that is a thirty-second too wide leaves 9687 ten-thousandths and a half, which go up to 9688. -/
theorem tiedPage_rounds_once :
    (∃ measured, tiedPage.measuredPages = .ok measured ∧ measured.map (·.size) = [⟨320, 640⟩]) ∧
      (∀ axis ∈ Scaling.axes ⟨310, 640⟩ ⟨320, 640⟩, ¬ axis.extent < axis.limit) ∧
      Scaling.LargestQuotient ⟨310, 640⟩ [⟨320, 640⟩] (1 / 32) ∧
      nearestInt (10000 * (1 - 1 / 32)) = 9688 ∧
      tiedPage.requiredScaling ⟨310, 640⟩ = .ok (.shrink (.round (9688 / 10000))) := by
  -- The quotient lies halfway between two places and goes to the even one.
  have sized : tiedPage.measuredPages.toOption.any fun pages =>
      pages.map (·.size) = [⟨320, 640⟩] := by
    decide +kernel
  obtain ⟨measured, found, checked⟩ := exists_ok_of_any sized
  have sizes := of_decide_eq_true checked
  have reaches : ∀ axis ∈ Scaling.axes ⟨310, 640⟩ ⟨320, 640⟩, ¬ axis.extent < axis.limit := by
    decide +kernel
  have largest : Scaling.LargestQuotient ⟨310, 640⟩ [⟨320, 640⟩] (1 / 32) := by decide +kernel
  have usable : PageSize.isUsable ⟨310, 640⟩ := by decide +kernel
  have large : ∀ page ∈ measured, ∀ axis ∈ Scaling.axes ⟨310, 640⟩ page.size,
      ¬ axis.extent < axis.limit := by
    intro page listed
    have size : page.size ∈ measured.map (·.size) := List.mem_map_of_mem listed
    rw [sizes, List.mem_singleton] at size
    rw [size]
    exact reaches
  obtain ⟨ratio, same, outcome⟩ := requiredScaling_rounds_once usable found large
  rw [sizes] at same
  cases same.unique largest
  have tie : nearestInt (10000 * (1 - 1 / 32)) = 9688 := by decide +kernel
  rw [tie] at outcome
  rcases outcome with ⟨_, shrinks⟩ | ⟨nothing, _⟩
  · exact ⟨⟨measured, found, sizes⟩, reaches, largest, tie, shrinks⟩
  · cases nothing

end Document

end PdfResize
