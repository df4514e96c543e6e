import PdfResize.Proofs.Fit.Branches

/-! A decision looks at nothing but the pairs of sides that pages have, however pages are turned, ordered or repeated. -/

namespace PdfResize

/-- The two sides of a size, the shorter one first. -/
def PageSize.sides (size : PageSize) : Single × Single :=
  if size.width < size.height then (size.width, size.height) else (size.height, size.width)

namespace Scaling

variable {options : FitOptions} {target page : PageSize} {axis : Axis} {pages others : List PageSize}

/-- However a page is turned, its longer side has the height of the target as its limit, and its shorter one the width. -/
theorem mem_axes_iff : axis ∈ axes target page ↔
    axis = ⟨page.sides.2, target.height⟩ ∨ axis = ⟨page.sides.1, target.width⟩ := by
  -- A page that is not upright has the turned target as its limits, so the two turns cancel.
  unfold axes PageSize.orientedLike PageSize.sides PageSize.isPortrait
  by_cases upright : page.width < page.height
  · simp [upright]
  · simp [upright, PageSize.turned, or_comm]

/-- A page fits when both of its axes do. -/
theorem pageFits_eq_all : options.pageFits target page =
    (axes target page).all fun axis => options.extentFits axis.extent axis.limit := by
  -- There are two axes, and the test looks at both.
  simp [FitOptions.pageFits, axes]

/-- A page falls short when one of its axes does. -/
theorem exceeds_eq_any : target.exceeds page =
    (axes target page).any fun axis => axis.extent < axis.limit := by
  -- There are two axes, and the test looks at both.
  simp [PageSize.exceeds, axes]

/-- Pages with the same pairs of sides have the same axes. -/
theorem mem_flatMap_axes_congr
    (same : ∀ sides, sides ∈ pages.map PageSize.sides ↔ sides ∈ others.map PageSize.sides)
    (axis : Axis) : axis ∈ pages.flatMap (axes target) ↔ axis ∈ others.flatMap (axes target) := by
  -- An axis is named by a pair of sides, whichever page has the pair.
  have named : ∀ sizes : List PageSize, axis ∈ sizes.flatMap (axes target) ↔
      ∃ sides ∈ sizes.map PageSize.sides,
        axis = ⟨sides.2, target.height⟩ ∨ axis = ⟨sides.1, target.width⟩ := by
    intro sizes
    simp [List.mem_flatMap, mem_axes_iff]
  simp only [named, same]

section decision

variable (same : ∀ sides, sides ∈ pages.map PageSize.sides ↔ sides ∈ others.map PageSize.sides)

include same

/-- Pages with the same pairs of sides fit all or not all together. -/
theorem all_pageFits_congr : pages.all (options.pageFits target) = others.all (options.pageFits target) := by
  -- The test is one of all axes, and the two lists have the same axes.
  have flat : ∀ sizes : List PageSize, sizes.all (options.pageFits target) =
      (sizes.flatMap (axes target)).all fun axis => options.extentFits axis.extent axis.limit := by
    intro sizes
    rw [List.all_flatMap]
    exact congrArg sizes.all (funext fun _ => pageFits_eq_all)
  rw [flat, flat, Bool.eq_iff_iff, List.all_eq_true, List.all_eq_true]
  simp only [mem_flatMap_axes_congr same]

/-- Among pages with the same pairs of sides some fall short or none, together. -/
theorem any_exceeds_congr : pages.any target.exceeds = others.any target.exceeds := by
  -- The test is one of some axis, and the two lists have the same axes.
  have flat : ∀ sizes : List PageSize, sizes.any target.exceeds =
      (sizes.flatMap (axes target)).any fun axis => axis.extent < axis.limit := by
    intro sizes
    rw [List.any_flatMap]
    exact congrArg sizes.any (funext fun _ => exceeds_eq_any)
  rw [flat, flat, Bool.eq_iff_iff, List.any_eq_true, List.any_eq_true]
  simp only [mem_flatMap_axes_congr same]

/-- The worst fraction is the same number, as the largest of the same fractions. -/
theorem worstExcess_congr (targetUsable : target.isUsable)
    (pagesUsable : ∀ size ∈ pages, size.isUsable) :
    worstExcess target pages = worstExcess target others := by
  -- The largest of a list depends on its members alone.
  rw [worstExcess_eq, worstExcess_eq]
  refine Binary.foldl_larger_congr ?_ ?_
  · intro fraction among
    obtain ⟨value, stands, _⟩ := isFraction_of_mem_excesses targetUsable pagesUsable fraction among
    exact ⟨value, stands⟩
  · intro fraction
    simp only [excesses, List.mem_map, mem_flatMap_axes_congr same]

end decision

end Scaling

namespace Document

/--
Documents whose pages have the same pairs of sides are decided alike, for every target and every tolerance.

It does not matter in which order the pages come, how often a pair occurs or which pages lie on their side.
-/
theorem decision_eq_of_sides {first second : Document} {firstPages secondPages : List MeasuredPage}
    (firstFound : first.measuredPages = .ok firstPages)
    (secondFound : second.measuredPages = .ok secondPages)
    (same : ∀ sides, sides ∈ firstPages.map (·.size.sides) ↔ sides ∈ secondPages.map (·.size.sides))
    (options : FitOptions) (target : PageSize) :
    first.isWithin options target = second.isWithin options target ∧
      first.requiredScaling target = second.requiredScaling target := by
  cases usable : target.isUsable with
  | false =>
    -- Such a target is refused for every document.
    rw [isWithin_of_not_isUsable usable, isWithin_of_not_isUsable usable,
      requiredScaling_of_not_isUsable usable, requiredScaling_of_not_isUsable usable]
    exact ⟨rfl, rfl⟩
  | true =>
    have sides : ∀ sides, sides ∈ first.sizes.map PageSize.sides ↔
        sides ∈ second.sizes.map PageSize.sides := by
      rw [sizes_eq firstFound, sizes_eq secondFound, List.map_map, List.map_map]
      exact same
    have firstUsable := usable_of_measuredPages firstFound
    rw [← sizes_eq firstFound] at firstUsable
    rw [isWithin_of_measuredPages usable firstFound, isWithin_of_measuredPages usable secondFound,
      requiredScaling_of_measuredPages usable firstFound,
      requiredScaling_of_measuredPages usable secondFound, Scaling.all_pageFits_congr sides,
      Scaling.any_exceeds_congr sides, Scaling.worstExcess_congr sides usable firstUsable]
    exact ⟨rfl, rfl⟩

/-- An upright page, and one with a media box of its own that lies on its side. -/
def mixedPages : Document :=
  ofKids (.array [.integer 0, .integer 0, .integer 500, .integer 600])
    [.dictionary [(ascii "Type", .name (ascii "Page")), (ascii "Parent", .reference ⟨2, 0⟩)],
      .dictionary [(ascii "Type", .name (ascii "Page")),
        (ascii "MediaBox", .array [.integer 0, .integer 0, .integer 400, .integer 300])]]

/-- The same pairs of sides the other way round, where one page is listed under two ids. -/
def turnedPages : Document :=
  ofKids (.array [.integer 0, .integer 0, .integer 600, .integer 500])
    [.dictionary [(ascii "Type", .name (ascii "Page")),
        (ascii "MediaBox", .array [.integer 100, .integer 0, .integer 400, .integer 400])],
      .dictionary [(ascii "Type", .name (ascii "Page")), (ascii "Parent", .reference ⟨2, 0⟩)],
      .reference ⟨3, 0⟩]

/-- Documents with the same pairs of sides, turned, repeated and in another order, are decided alike. -/
theorem mixedPages_decision_eq :
    (∃ pages, mixedPages.measuredPages = .ok pages ∧ pages.map (·.size) = [⟨500, 600⟩, ⟨400, 300⟩]) ∧
      (∃ pages, turnedPages.measuredPages = .ok pages ∧
        pages.map (·.size) = [⟨300, 400⟩, ⟨600, 500⟩, ⟨300, 400⟩]) ∧
      mixedPages.isWithin {} ⟨250, 300⟩ = .ok false ∧ turnedPages.isWithin {} ⟨250, 300⟩ = .ok false ∧
      mixedPages.requiredScaling ⟨250, 300⟩ = .ok (.shrink 0.5) ∧
      turnedPages.requiredScaling ⟨250, 300⟩ = .ok (.shrink 0.5) := by
  have mixed : mixedPages.measuredPages.toOption.any fun pages =>
      pages.map (·.size) = [⟨500, 600⟩, ⟨400, 300⟩] := by
    decide +kernel
  have turned : turnedPages.measuredPages.toOption.any fun pages =>
      pages.map (·.size) = [⟨300, 400⟩, ⟨600, 500⟩, ⟨300, 400⟩] := by
    decide +kernel
  obtain ⟨mixedMeasured, mixedFound, mixedChecked⟩ := exists_ok_of_any mixed
  obtain ⟨turnedMeasured, turnedFound, turnedChecked⟩ := exists_ok_of_any turned
  have mixedSizes := of_decide_eq_true mixedChecked
  have turnedSizes := of_decide_eq_true turnedChecked
  -- Both have the pairs of 500 and 600 and of 300 and 400.
  have same : ∀ sides, sides ∈ mixedMeasured.map (·.size.sides) ↔
      sides ∈ turnedMeasured.map (·.size.sides) := by
    have mixedSides : mixedMeasured.map (·.size.sides) = [(500, 600), (300, 400)] := by
      have known : ([⟨500, 600⟩, ⟨400, 300⟩] : List PageSize).map PageSize.sides =
          [(500, 600), (300, 400)] := by
        decide +kernel
      rw [← known, ← mixedSizes, List.map_map]
      rfl
    have turnedSides : turnedMeasured.map (·.size.sides) = [(300, 400), (500, 600), (300, 400)] := by
      have known : ([⟨300, 400⟩, ⟨600, 500⟩, ⟨300, 400⟩] : List PageSize).map PageSize.sides =
          [(300, 400), (500, 600), (300, 400)] := by
        decide +kernel
      rw [← known, ← turnedSizes, List.map_map]
      rfl
    intro sides
    rw [mixedSides, turnedSides]
    simp [or_comm]
  obtain ⟨within, scaling⟩ := decision_eq_of_sides mixedFound turnedFound same {} ⟨250, 300⟩
  have mixedWithin : mixedPages.isWithin {} ⟨250, 300⟩ = .ok false := by decide +kernel
  have mixedScaling : mixedPages.requiredScaling ⟨250, 300⟩ = .ok (.shrink 0.5) := by decide +kernel
  exact ⟨⟨_, mixedFound, mixedSizes⟩, ⟨_, turnedFound, turnedSizes⟩, mixedWithin,
    within ▸ mixedWithin, mixedScaling, scaling ▸ mixedScaling⟩

end Document

end PdfResize
