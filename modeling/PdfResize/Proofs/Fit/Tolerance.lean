import PdfResize.Proofs.Document.Isolating
import PdfResize.Proofs.Fit.Sides
import PdfResize.Proofs.Number.Monotone

/-! The tolerance over its whole range: a larger one lets more pages through, and zero only those of the exact size. -/

namespace PdfResize

namespace FitOptions

variable {options tight loose : FitOptions} {tolerance extent limit : Single} {bound : Rat}
  {target page : PageSize}

/-! ### One extent -/

/-- A tolerance is accepted when it is a number from zero to below one. -/
theorem withTolerance_eq_ok_iff : withTolerance tolerance = .ok options ↔
    options = ⟨tolerance⟩ ∧ tolerance.isFinite ∧ 0 ≤ tolerance ∧ tolerance < 1 := by
  -- The tolerance is checked and then kept as it is.
  have validated := @validate_eq_ok_iff ⟨tolerance⟩
  simp only [withTolerance, bind, Except.bind, ← validated]
  cases (⟨tolerance⟩ : FitOptions).validate with
  | error cause => simp
  | ok _ => simp [pure, Except.pure, eq_comm]

/-- No tolerance at all is accepted, with either sign of the zero. -/
theorem accepted_of_zero (zero : tolerance.toRat? = some 0) :
    tolerance.isFinite ∧ 0 ≤ tolerance ∧ tolerance < 1 :=
  -- Either zero is the exact value zero, which is all that the bounds look at.
  ⟨Option.isSome_of_eq_some zero, (Binary.le_iff Binary.toRat?_zero zero).2 le_rfl,
    (Binary.lt_iff zero Single.toRat?_one).2 zero_lt_one⟩

/-- An extent within a tolerance of its limit is within every larger one, although the bounds are rounded. -/
theorem extentFits_mono (nonneg : 0 ≤ tight.tolerance) (ordered : tight.tolerance ≤ loose.tolerance)
    (below : loose.tolerance < 1) (exact : limit.toRat? = some bound) (positive : 0 < bound)
    (fits : tight.extentFits extent limit) : loose.extentFits extent limit := by
  have one := Single.toRat?_one
  obtain ⟨high, looseExact, highNonneg, highBelow⟩ :=
    exists_fraction (Binary.atMost_trans nonneg ordered) below
  obtain ⟨low, tightExact⟩ :=
    Binary.exists_toRat?_of_between Binary.toRat?_zero looseExact nonneg ordered
  have lowNonneg := (Binary.le_iff Binary.toRat?_zero tightExact).1 nonneg
  have lowHigh := (Binary.le_iff tightExact looseExact).1 ordered
  obtain ⟨tightSmaller, tightLarger, tightSmallerExact, tightLargerExact, _⟩ :=
    exists_factors tightExact lowNonneg (by linarith)
  obtain ⟨looseSmaller, looseLarger, looseSmallerExact, looseLargerExact, _⟩ :=
    exists_factors looseExact highNonneg highBelow.le
  -- Each of the two roundings keeps the order: that of the factor, and that of the bound.
  have smaller : looseSmaller ≤ tightSmaller :=
    (Binary.le_iff looseSmallerExact tightSmallerExact).1
      ((Binary.rounds_sub one looseExact).mono (Binary.rounds_sub one tightExact) (by linarith))
  have larger : tightLarger ≤ looseLarger :=
    (Binary.le_iff tightLargerExact looseLargerExact).1
      ((Binary.rounds_add one tightExact).mono (Binary.rounds_add one looseExact) (by linarith))
  have lower : limit * (1 - loose.tolerance) ≤ limit * (1 - tight.tolerance) :=
    (Binary.rounds_mul exact looseSmallerExact).mono (Binary.rounds_mul exact tightSmallerExact)
      (by gcongr)
  have upper : limit * (1 + tight.tolerance) ≤ limit * (1 + loose.tolerance) :=
    (Binary.rounds_mul exact tightLargerExact).mono (Binary.rounds_mul exact looseLargerExact)
      (by gcongr)
  simp only [extentFits, Bool.and_eq_true, decide_eq_true_eq] at fits ⊢
  exact ⟨Binary.atMost_trans lower fits.1, Binary.atMost_trans fits.2 upper⟩

/-- Without any tolerance both bounds have the value of the limit. -/
theorem toRat?_bounds_of_zero (zero : tolerance.toRat? = some 0) (exact : limit.toRat? = some bound) :
    (limit * (1 - tolerance)).toRat? = some bound ∧ (limit * (1 + tolerance)).toRat? = some bound := by
  -- Both factors are one, and a limit times one is held as it is.
  have one := Single.toRat?_one
  have smaller := Binary.rounds_sub one zero
  have larger := Binary.rounds_add one zero
  rw [sub_zero] at smaller
  rw [add_zero] at larger
  have lower := Binary.rounds_mul exact (smaller.toRat?_of_holds (Binary.holds_of_toRat? one))
  have upper := Binary.rounds_mul exact (larger.toRat?_of_holds (Binary.holds_of_toRat? one))
  rw [mul_one] at lower upper
  have held := Binary.holds_of_toRat? exact
  exact ⟨lower.toRat?_of_holds held, upper.toRat?_of_holds held⟩

/-- Without any tolerance an extent has to be its limit. -/
theorem extentFits_of_zero_iff (zero : options.tolerance.toRat? = some 0)
    (exact : limit.toRat? = some bound) (positive : 0 < bound) :
    options.extentFits extent limit ↔ extent = limit := by
  constructor
  · intro fits
    obtain ⟨lower, upper⟩ := toRat?_bounds_of_zero zero exact
    simp only [extentFits, Bool.and_eq_true, decide_eq_true_eq] at fits
    -- The extent lies between two numbers of one value, and so has that value.
    obtain ⟨value, stands⟩ := Binary.exists_toRat?_of_between lower upper fits.1 fits.2
    have same : value = bound := le_antisymm ((Binary.le_iff stands upper).1 fits.2)
      ((Binary.le_iff lower stands).1 fits.1)
    exact Binary.eq_of_toRat? stands (same ▸ exact) (same ▸ positive.ne')
  · rintro rfl
    obtain ⟨_, nonneg, below⟩ := accepted_of_zero zero
    exact extentFits_self nonneg below exact positive

/-! ### Both extents of a page -/

/-- A page measures what the target asks of it when each extent is its limit. -/
theorem eq_orientedLike_iff : page = target.orientedLike page ↔
    ∀ axis ∈ Scaling.axes target page, axis.extent = axis.limit := by
  -- The axes have the two extents of the page beside those of its limits.
  generalize limits : target.orientedLike page = wanted
  cases page
  cases wanted
  simp [Scaling.axes, limits, and_comm]

end FitOptions

namespace Document

variable {document : Document} {options tight loose : FitOptions} {target : PageSize}
  {measured : List MeasuredPage} {page : MeasuredPage} {axis : Scaling.Axis} {tolerance other : Single}

section Measured

variable (usable : target.isUsable) (found : document.measuredPages = .ok measured)

include usable found

/-- A document fits when every extent of every page fits its limit. -/
theorem isWithin_iff : document.isWithin options target = .ok true ↔ ∀ page ∈ measured,
    ∀ axis ∈ Scaling.axes target page.size, options.extentFits axis.extent axis.limit := by
  -- The sizes are those of the measured pages, and a page fits when its axes do.
  rw [isWithin_of_measuredPages usable found, sizes_eq found]
  simp [Scaling.pageFits_eq_all]

/-- The limit of every axis of a measured page is a positive number. -/
theorem exists_limit (listed : page ∈ measured) (member : axis ∈ Scaling.axes target page.size) :
    ∃ bound, axis.limit.toRat? = some bound ∧ 0 < bound := by
  -- Only usable sizes are measured, and the target is usable however it is turned.
  have pageUsable := usable_of_measuredPages found page.size (List.mem_map_of_mem listed)
  obtain ⟨_, bound, _, exact, _, positive⟩ :=
    Scaling.exists_values_of_mem_axes usable pageUsable member
  exact ⟨bound, exact, positive⟩

/-- A document that fits within a tolerance fits within every larger one. -/
theorem isWithin_mono (ordered : tolerance ≤ other)
    (tightAccepted : FitOptions.withTolerance tolerance = .ok tight)
    (looseAccepted : FitOptions.withTolerance other = .ok loose)
    (within : document.isWithin tight target = .ok true) :
    document.isWithin loose target = .ok true := by
  -- Each axis is within the tighter tolerance, and its band lies in the looser one.
  obtain ⟨rfl, _, nonneg, _⟩ := FitOptions.withTolerance_eq_ok_iff.1 tightAccepted
  obtain ⟨rfl, _, _, below⟩ := FitOptions.withTolerance_eq_ok_iff.1 looseAccepted
  rw [isWithin_iff usable found] at within ⊢
  intro page listed axis member
  obtain ⟨bound, exact, positive⟩ := exists_limit usable found listed member
  exact FitOptions.extentFits_mono nonneg ordered below exact positive (within page listed axis member)

/-- Pages of the exact size fit within every tolerance. -/
theorem isWithin_of_exact (accepted : FitOptions.withTolerance tolerance = .ok options)
    (same : ∀ page ∈ measured, page.size = target.orientedLike page.size) :
    document.isWithin options target = .ok true := by
  obtain ⟨rfl, _, nonneg, below⟩ := FitOptions.withTolerance_eq_ok_iff.1 accepted
  rw [isWithin_iff usable found]
  intro page listed axis member
  obtain ⟨bound, exact, positive⟩ := exists_limit usable found listed member
  -- Every extent is its limit, which fits itself.
  rw [FitOptions.eq_orientedLike_iff.1 (same page listed) axis member]
  exact FitOptions.extentFits_self nonneg below exact positive

/-- Without any tolerance only pages of the exact size fit. -/
theorem isWithin_of_zero_iff (zero : options.tolerance.toRat? = some 0) :
    document.isWithin options target = .ok true ↔
      ∀ page ∈ measured, page.size = target.orientedLike page.size := by
  -- Axis by axis both sides say that an extent is its limit.
  rw [isWithin_iff usable found]
  refine forall₂_congr fun page listed => ?_
  rw [FitOptions.eq_orientedLike_iff]
  refine forall₂_congr fun axis member => ?_
  obtain ⟨bound, exact, positive⟩ := exists_limit usable found listed member
  exact FitOptions.extentFits_of_zero_iff zero exact positive

/-- A document fits when each of its pages does by itself. -/
theorem isWithin_iff_alone : document.isWithin options target = .ok true ↔
    ∀ page ∈ measured, (document.alone page.id).isWithin options target = .ok true := by
  rw [isWithin_iff usable found]
  refine forall₂_congr fun page listed => ?_
  -- By itself the page is the only one that is asked, about the same size.
  rw [isWithin_iff usable (measuredPages_alone found listed)]
  simp

end Measured

/--
The tolerance is well-behaved for every usable target and every document with pages that measure.

A document that fits within one tolerance fits within every larger one. With pages of the exact size, which for a
page that is not upright is the turned target, it fits within every tolerance, and within none at all only such a
document does, where zero has either sign. There is an answer for every document, and it is that of its pages
taken alone: for each of them, of the document with no other page, where the page measures the same.
-/
theorem isWithin_tolerance (usable : target.isUsable) (found : document.measuredPages = .ok measured) :
    (∀ tolerance other tight loose, tolerance ≤ other → FitOptions.withTolerance tolerance = .ok tight →
      FitOptions.withTolerance other = .ok loose → document.isWithin tight target = .ok true →
        document.isWithin loose target = .ok true) ∧
    (∀ tolerance options, FitOptions.withTolerance tolerance = .ok options →
      (∀ page ∈ measured, page.size =
        if page.size.width < page.size.height then target else ⟨target.height, target.width⟩) →
        document.isWithin options target = .ok true) ∧
    (∀ zero, zero.isZero → ∃ options, FitOptions.withTolerance zero = .ok options ∧
      (document.isWithin options target = .ok true ↔ ∀ page ∈ measured, page.size =
        if page.size.width < page.size.height then target else ⟨target.height, target.width⟩)) ∧
    (∀ options, ∃ within, document.isWithin options target = .ok within ∧ (within = true ↔
      ∀ page ∈ measured, (document.alone page.id).isWithin options target = .ok true)) ∧
    ∀ page ∈ measured, (document.alone page.id).measuredPages = .ok [⟨⟨1, page.id⟩, page.size⟩] := by
  -- The size that is asked of a page is the target as it applies to the page.
  have limits (size : PageSize) :
      (if size.width < size.height then target else ⟨target.height, target.width⟩) =
        target.orientedLike size := by
    simp only [PageSize.orientedLike, PageSize.isPortrait, PageSize.turned, decide_eq_true_eq]
  simp only [limits]
  refine ⟨?_, ?_, ?_, ?_, fun page listed => measuredPages_alone found listed⟩
  · intro tolerance other tight loose ordered tightAccepted looseAccepted within
    exact isWithin_mono usable found ordered tightAccepted looseAccepted within
  · intro tolerance options accepted same
    exact isWithin_of_exact usable found accepted same
  · intro zero nothing
    have stands : zero.toRat? = some 0 := eq_of_beq nothing
    exact ⟨⟨zero⟩, FitOptions.withTolerance_eq_ok_iff.2 ⟨rfl, FitOptions.accepted_of_zero stands⟩,
      isWithin_of_zero_iff usable found stands⟩
  · intro options
    refine ⟨_, isWithin_of_measuredPages usable found, ?_⟩
    rw [← isWithin_iff_alone usable found, isWithin_of_measuredPages usable found]
    simp

/-- An upright page of the exact size, and one on its side that is a little too long. -/
def nearbyPages : Document :=
  ofKids (.array [.integer 0, .integer 0, .integer 500, .integer 600])
    [.dictionary [(ascii "Type", .name (ascii "Page")), (ascii "Parent", .reference ⟨2, 0⟩)],
      .dictionary [(ascii "Type", .name (ascii "Page")),
        (ascii "MediaBox", .array [.integer 0, .integer 0, .integer 603, .integer 500])]]

/-- The two pages that are near the target have these sizes. -/
theorem measuredPages_nearbyPages : nearbyPages.measuredPages =
    .ok [⟨⟨1, ⟨3, 0⟩⟩, ⟨500, 600⟩⟩, ⟨⟨2, ⟨4, 0⟩⟩, ⟨603, 500⟩⟩] := by
  -- Both boxes are read.
  decide +kernel

/-- The longer side is within a hundredth of its limit, and so within a quarter, but it is not exact. -/
theorem nearbyPages_tolerance :
    nearbyPages.measuredPages = .ok [⟨⟨1, ⟨3, 0⟩⟩, ⟨500, 600⟩⟩, ⟨⟨2, ⟨4, 0⟩⟩, ⟨603, 500⟩⟩] ∧
      FitOptions.withTolerance 0.01 = .ok ⟨0.01⟩ ∧ FitOptions.withTolerance 0.25 = .ok ⟨0.25⟩ ∧
      nearbyPages.isWithin ⟨0.01⟩ ⟨500, 600⟩ = .ok true ∧
      nearbyPages.isWithin ⟨0.25⟩ ⟨500, 600⟩ = .ok true ∧
      nearbyPages.isWithin ⟨0⟩ ⟨500, 600⟩ ≠ .ok true ∧
      (nearbyPages.alone ⟨4, 0⟩).measuredPages = .ok [⟨⟨1, ⟨4, 0⟩⟩, ⟨603, 500⟩⟩] ∧
      (nearbyPages.alone ⟨4, 0⟩).isWithin ⟨0.01⟩ ⟨500, 600⟩ = .ok true ∧
      (nearbyPages.alone ⟨4, 0⟩).isWithin ⟨0.01⟩ ⟨600, 500⟩ ≠ .ok true := by
  have found := measuredPages_nearbyPages
  have hundredth : FitOptions.withTolerance 0.01 = .ok ⟨0.01⟩ := by decide +kernel
  have quarter : FitOptions.withTolerance 0.25 = .ok ⟨0.25⟩ := by decide +kernel
  have within : nearbyPages.isWithin ⟨0.01⟩ ⟨500, 600⟩ = .ok true := by decide +kernel
  have second : ⟨⟨2, ⟨4, 0⟩⟩, ⟨603, 500⟩⟩ ∈
      [(⟨⟨1, ⟨3, 0⟩⟩, ⟨500, 600⟩⟩ : MeasuredPage), ⟨⟨2, ⟨4, 0⟩⟩, ⟨603, 500⟩⟩] :=
    List.mem_cons_of_mem _ List.mem_cons_self
  have usable : PageSize.isUsable ⟨500, 600⟩ := by decide +kernel
  -- The target that lies on its side stands upright for the second page, which does not.
  have turned : (nearbyPages.alone ⟨4, 0⟩).isWithin ⟨0.01⟩ ⟨600, 500⟩ ≠ .ok true := by decide +kernel
  obtain ⟨grows, _, zero, each, alone⟩ := isWithin_tolerance usable found
  have loose := grows 0.01 0.25 _ _ (by decide +kernel) hundredth quarter within
  -- The second page is what an exact document does not have.
  have inexact : nearbyPages.isWithin ⟨0⟩ ⟨500, 600⟩ ≠ .ok true := by
    obtain ⟨options, accepted, exact⟩ := zero 0 (by decide +kernel)
    obtain ⟨rfl, _⟩ := FitOptions.withTolerance_eq_ok_iff.1 accepted
    intro fits
    exact absurd (exact.1 fits ⟨⟨2, ⟨4, 0⟩⟩, ⟨603, 500⟩⟩ second) (by decide +kernel)
  -- What is answered for the document is answered for the second page by itself as well.
  have single : (nearbyPages.alone ⟨4, 0⟩).isWithin ⟨0.01⟩ ⟨500, 600⟩ = .ok true := by
    obtain ⟨fits, answered, pages⟩ := each ⟨0.01⟩
    cases within.symm.trans answered
    exact pages.1 rfl ⟨⟨2, ⟨4, 0⟩⟩, ⟨603, 500⟩⟩ second
  exact ⟨found, hundredth, quarter, within, loose, inexact,
    alone ⟨⟨2, ⟨4, 0⟩⟩, ⟨603, 500⟩⟩ second, single, turned⟩

end Document

end PdfResize
