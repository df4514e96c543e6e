import Mathlib.Data.Real.Basic
import PdfResize.Proofs.Document.Region
import PdfResize.Proofs.Fit.Factor
import PdfResize.Proofs.Fit.Reaching

/-! Shrinking takes every point of a page into the new boxes, as seen from the lower left corner of the old one. -/

namespace PdfResize

namespace Region

/-- A point lies in a rectangle, sides included. -/
def Contains (region : Region) (x y : ℝ) : Prop :=
  (region.left ≤ x ∧ x ≤ region.right) ∧ region.bottom ≤ y ∧ y ≤ region.top

/-- A rectangle in another place. -/
def moved (region : Region) (x y : Rat) : Region :=
  ⟨region.left + x, region.bottom + y, region.right + x, region.top + y⟩

/-- A rectangle with some slack on each side. -/
def widened (region : Region) (slack : Rat) : Region :=
  ⟨region.left - slack, region.bottom - slack, region.right + slack, region.top + slack⟩

/-- Scaling takes a rectangle into one of these extents when it takes its own extents to no more. -/
theorem contains_moved_ofExtents {old : Region} {scale width height slack : Rat} (nonneg : 0 ≤ scale)
    (slackNonneg : 0 ≤ slack) (wide : scale * (old.right - old.left) ≤ width + slack)
    (high : scale * (old.top - old.bottom) ≤ height + slack) {x y : ℝ} (inside : old.Contains x y) :
    (((ofExtents width height).moved (scale * old.left) (scale * old.bottom)).widened slack).Contains
      (scale * x) (scale * y) := by
  obtain ⟨⟨fromLeft, toRight⟩, fromBottom, toTop⟩ := inside
  have factor : (0 : ℝ) ≤ scale := by exact_mod_cast nonneg
  have room : (0 : ℝ) ≤ slack := by exact_mod_cast slackNonneg
  have across : (scale : ℝ) * (old.right - old.left) ≤ width + slack := by exact_mod_cast wide
  have upwards : (scale : ℝ) * (old.top - old.bottom) ≤ height + slack := by exact_mod_cast high
  -- Every point keeps its distance from the corner, scaled, and the far sides are no further away.
  have xNear := mul_le_mul_of_nonneg_left fromLeft factor
  have xFar := mul_le_mul_of_nonneg_left toRight factor
  have yNear := mul_le_mul_of_nonneg_left fromBottom factor
  have yFar := mul_le_mul_of_nonneg_left toTop factor
  simp only [Contains, widened, moved, ofExtents]
  push_cast
  refine ⟨⟨?_, ?_⟩, ?_, ?_⟩ <;> linarith

end Region

namespace Document

variable {document result : Document} {options : FitOptions} {target : PageSize} {factor : Double}

/-- The factor that is written into a page is a fraction and differs little from the one that is reported. -/
theorem exists_inserted {reported : Rat} (exact : factor.toRat? = some reported) (nonneg : 0 ≤ reported)
    (atMost : reported ≤ 1) : ∃ inserted, (factor.convert : Single).toRat? = some inserted ∧
      0 ≤ inserted ∧ inserted ≤ 1 ∧ inserted ≤ reported + 1 / 10 ^ 7 := by
  -- The two ends of the interval are numbers of the smaller format, and the conversion rounds between them.
  have converted : (factor.convert : Single).Rounds reported := Binary.rounds_convert exact
  obtain ⟨inserted, stands, insertedNonneg, insertedBound⟩ :=
    converted.between (Format.holds_zero _) (Binary.holds_of_toRat? Single.toRat?_one) nonneg atMost
  have error := converted.single_error stands (by rwa [abs_of_nonneg nonneg])
  have above := (abs_le.1 error).2
  exact ⟨inserted, stands, insertedNonneg, insertedBound, by linarith⟩

/-- An extent that is scaled by nearly the factor reaches its limit, up to a ten-thousandth of the extent. -/
theorem scaled_extent_le {reported scale extent size bound larger : Rat} (nonneg : 0 ≤ scale)
    (atMost : scale ≤ 1) (near : scale ≤ reported + 1 / 10 ^ 7) (positive : 0 < size)
    (fits : reported * size ≤ bound + (1 / 20000 + 1 / 10 ^ 6) * size)
    (measured : extent ≤ (1 + 1 / 10 ^ 6) * size) (atLeast : size ≤ larger) :
    scale * extent ≤ bound + larger / 10000 := by
  -- The scaling is at most one, so what was not measured of the extent stays as small as it was.
  calc scale * extent ≤ scale * ((1 + 1 / 10 ^ 6) * size) := by gcongr
    _ = scale * size + scale * (1 / 10 ^ 6 * size) := by ring
    _ ≤ (reported + 1 / 10 ^ 7) * size + 1 * (1 / 10 ^ 6 * size) := by gcongr
    _ ≤ bound + larger / 10000 := by linarith

/--
Shrinking takes every point of a page into its new media box, moved to where its old corner is taken.

The scaling keeps the origin in its place, and so a page whose lower left corner is there is taken into the
new box itself. This holds for the factor as it is reported and as it is written into the page, up to a
ten-thousandth of the larger extent of the page on each side.
-/
theorem fit_scaledDown_contains (numbered : document.IsNumbered)
    (room : document.maxId + 2 * document.pages.length < UInt32.size)
    (fitted : document.fit options target = (.ok (.scaledDown factor), result))
    (page : Page) (listed : page ∈ document.pages) :
    ∃ (old new : Region) (width height reported inserted : Rat),
      document.region? page.id = some old ∧ result.region? page.id = some new ∧
      (∃ size, document.pageSize page.number page.id = .ok size ∧
        size.width.toRat? = some width ∧ size.height.toRat? = some height) ∧
      factor.toRat? = some reported ∧ (factor.convert : Single).toRat? = some inserted ∧
      ∀ scale ∈ [reported, inserted], ∀ x y : ℝ, old.Contains x y →
        ((new.moved (scale * old.left) (scale * old.bottom)).widened
          (max width height / 10000)).Contains (scale * x) (scale * y) := by
  obtain ⟨usable, measured, streams, found, fits⟩ := fitsPages_of_fit numbered room fitted rfl
  obtain ⟨size, member, sized⟩ := exists_measured found listed
  obtain ⟨old, width, height, oldRegion, measures⟩ := region?_of_pageSize sized
  -- The new box is the target as it applies to the page.
  obtain ⟨entries, there, boxes⟩ := fits.dictionary member sized
  obtain ⟨wide, high, wideExact, highExact, widePositive, highPositive⟩ :=
    PageSize.exists_extents (PageSize.isUsable_orientedLike usable size)
  have newRegion := region?_of_rectangle there (boxes .media) wideExact highExact widePositive.le
    highPositive.le
  -- The factor is the one that the worst page asks for, and this page is no worse.
  obtain ⟨large, taken⟩ := factor_of_fit fitted
  rw [sizes_eq found] at large taken
  have pagesUsable := usable_of_measuredPages found
  have among : size ∈ measured.map (·.size) := List.mem_map_of_mem member
  obtain ⟨reported, exact, nonneg, atMost⟩ :=
    Scaling.isFraction_factorFor (Scaling.isFraction_worstExcess usable pagesUsable)
  have fitsHeight := Scaling.factorFor_mul_le usable pagesUsable large exact among
    List.mem_cons_self measures.height_eq highExact
  have fitsWidth := Scaling.factorFor_mul_le usable pagesUsable large exact among
    (List.mem_cons_of_mem _ List.mem_cons_self) measures.width_eq wideExact
  rw [← taken] at exact
  obtain ⟨inserted, insertedExact, insertedNonneg, insertedBound, near⟩ :=
    exists_inserted exact nonneg atMost
  refine ⟨old, _, width, height, reported, inserted, oldRegion, newRegion,
    ⟨size, sized, measures.width_eq, measures.height_eq⟩, exact, insertedExact, ?_⟩
  intro scale which x y inside
  -- All that counts of either scale is that it is a fraction and hardly above the reported factor.
  have close : 0 ≤ scale ∧ scale ≤ 1 ∧ scale ≤ reported + 1 / 10 ^ 7 := by
    simp only [List.mem_cons, List.not_mem_nil, or_false] at which
    rcases which with rfl | rfl
    · exact ⟨nonneg, atMost, by linarith⟩
    · exact ⟨insertedNonneg, insertedBound, near⟩
  obtain ⟨scaleNonneg, scaleBound, scaleNear⟩ := close
  refine Region.contains_moved_ofExtents scaleNonneg ?_ ?_ ?_ inside
  · have positive := measures.width_pos
    positivity
  · exact scaled_extent_le scaleNonneg scaleBound scaleNear measures.width_pos fitsWidth measures.wide
      (le_max_left _ _)
  · exact scaled_extent_le scaleNonneg scaleBound scaleNear measures.height_pos fitsHeight
      measures.high (le_max_right _ _)

/-- A page whose media box begins far from the origin. -/
def offsetPage : Document :=
  ofKids (.array [.integer 1000, .integer 1000, .integer 2000, .integer 2200])
    [.dictionary [(ascii "Type", .name (ascii "Page")), (ascii "Parent", .reference ⟨2, 0⟩)]]

/-- A page whose box is off the origin shrinks into the region moved by its old corner. -/
theorem offsetPage_fit_scaledDown_contains :
    offsetPage.IsNumbered ∧ offsetPage.maxId + 2 * offsetPage.pages.length < UInt32.size ∧
      (offsetPage.fit {} ⟨500, 600⟩).1 = .ok (.scaledDown 0.5) ∧
      (⟨1, ⟨3, 0⟩⟩ : Page) ∈ offsetPage.pages ∧
      Region.Contains ⟨1000, 1000, 2000, 2200⟩ 2000 2200 ∧
      Region.Contains ⟨500 - 12 / 100, 500 - 12 / 100, 1000 + 12 / 100, 1100 + 12 / 100⟩ 1000 1100 := by
  have numbered : offsetPage.IsNumbered := isNumbered_ofKids _ _
  have room : offsetPage.maxId + 2 * offsetPage.pages.length < UInt32.size := by decide +kernel
  have shrinks : (offsetPage.fit {} ⟨500, 600⟩).1 = .ok (.scaledDown 0.5) := by decide +kernel
  have listed : (⟨1, ⟨3, 0⟩⟩ : Page) ∈ offsetPage.pages := by decide +kernel
  have corner : Region.Contains ⟨1000, 1000, 2000, 2200⟩ 2000 2200 := by
    norm_num [Region.Contains]
  obtain ⟨old, new, width, height, reported, inserted, oldRegion, newRegion, ⟨size, sized, wide, high⟩,
    exact, _, contains⟩ := fit_scaledDown_contains numbered room (Prod.ext shrinks rfl) _ listed
  -- What the theorem is about is known here, number by number.
  have oldKnown : offsetPage.region? ⟨3, 0⟩ = some ⟨1000, 1000, 2000, 2200⟩ := by decide +kernel
  have newKnown : (offsetPage.fit {} ⟨500, 600⟩).2.region? ⟨3, 0⟩ = some ⟨0, 0, 500, 600⟩ := by
    decide +kernel
  have sizeKnown : offsetPage.pageSize 1 ⟨3, 0⟩ = .ok ⟨1000, 1200⟩ := by decide +kernel
  have wideKnown : (1000 : Single).toRat? = some 1000 := by decide +kernel
  have highKnown : (1200 : Single).toRat? = some 1200 := by decide +kernel
  have factorKnown : (0.5 : Double).toRat? = some (1 / 2) := by decide +kernel
  rw [oldKnown] at oldRegion
  rw [newKnown] at newRegion
  rw [sizeKnown] at sized
  cases sized
  rw [wideKnown] at wide
  rw [highKnown] at high
  rw [factorKnown] at exact
  cases oldRegion
  cases newRegion
  cases wide
  cases high
  cases exact
  have inside := contains _ List.mem_cons_self _ _ corner
  refine ⟨numbered, room, shrinks, listed, corner, ?_⟩
  norm_num [Region.Contains, Region.widened, Region.moved] at inside ⊢

/-- Two pages, the first of which has a number that is not given out yet. -/
def lowMaxId : Document where
  objects := Store.ofEntries
    [(⟨1, 0⟩, .dictionary [(ascii "Pages", .reference ⟨2, 0⟩)]),
      (⟨2, 0⟩, .dictionary [(ascii "Kids", .array [.reference ⟨5, 0⟩, .reference ⟨9, 0⟩])]),
      (⟨5, 0⟩, .dictionary [(ascii "Type", .name (ascii "Page")),
        (ascii "MediaBox", .array [.integer 0, .integer 0, .integer 1000, .integer 1200])]),
      (⟨9, 0⟩, .dictionary [(ascii "Type", .name (ascii "Page")),
        (ascii "MediaBox", .array [.integer 0, .integer 0, .integer 1000, .integer 1200])])]
  trailer := [(ascii "Root", .reference ⟨1, 0⟩)]
  maxId := 2

/-- A page with coordinates that have more digits than are read of them. -/
def longCoordinates : Document :=
  ofKids (.array [.integer 16777219, .integer 0, .integer 16777225, .integer 6])
    [.dictionary [(ascii "Type", .name (ascii "Page")), (ascii "Parent", .reference ⟨2, 0⟩)]]

/--
What a page shows may end up outside its new media box, for one of three reasons.

The old box does not begin at the origin; the page is stored under a number that is given to a stream; or
the corners of the old box are further apart than the coordinates that are read for them.
-/
theorem offsetPage_not_contained :
    (offsetPage.fit {} ⟨500, 600⟩).1 = .ok (.scaledDown 0.5) ∧
    offsetPage.region? ⟨3, 0⟩ = some ⟨1000, 1000, 2000, 2200⟩ ∧
    (offsetPage.fit {} ⟨500, 600⟩).2.region? ⟨3, 0⟩ = some ⟨0, 0, 500, 600⟩ ∧
    Region.Contains ⟨1000, 1000, 2000, 2200⟩ 2000 2200 ∧
    ¬ (Region.widened ⟨0, 0, 500, 600⟩ (1200 / 10000)).Contains (0.5 * 2000) (0.5 * 2200) ∧
    (lowMaxId.fit {} ⟨500, 600⟩).1 = .ok (.scaledDown 0.5) ∧
    (⟨1, ⟨5, 0⟩⟩ : Page) ∈ lowMaxId.pages ∧
    (lowMaxId.fit {} ⟨500, 600⟩).2.region? ⟨5, 0⟩ = none ∧
    (longCoordinates.fit {} ⟨2, 3⟩).1 = .ok (.scaledDown 0.5) ∧
    longCoordinates.mediaBox? ancestorLimit ⟨3, 0⟩ =
      some [.integer 16777219, .integer 0, .integer 16777225, .integer 6] ∧
    (longCoordinates.fit {} ⟨2, 3⟩).2.region? ⟨3, 0⟩ = some ⟨0, 0, 2, 3⟩ ∧
    ¬ (0.5 : Rat) * (16777225 - 16777219) ≤ 2 + 6 / 10000 := by
  -- The two documents and the sums that leave the box are evaluated.
  refine ⟨by decide +kernel, by decide +kernel, by decide +kernel, ?_, ?_, by decide +kernel,
    by decide +kernel, by decide +kernel, by decide +kernel, rfl, by decide +kernel, by norm_num⟩
  · norm_num [Region.Contains]
  · norm_num [Region.Contains, Region.widened]

end Document

end PdfResize
