import PdfResize.Proofs.Document.PageBox
import PdfResize.Proofs.Number.Accuracy

/-! The exact rectangle that the media box of a page describes, and how close the measured size is to it. -/

namespace PdfResize

/-- A rectangle in the plane, with its sides along the axes. -/
structure Region where
  left : Rat
  bottom : Rat
  right : Rat
  top : Rat
deriving DecidableEq

namespace Region

/-- The rectangle between two opposite corners, whichever they are. -/
def between (x1 y1 x2 y2 : Rat) : Region := ⟨min x1 x2, min y1 y2, max x1 x2, max y1 y2⟩

/-- The rectangle of an extent from the origin on. -/
def ofExtents (width height : Rat) : Region := ⟨0, 0, width, height⟩

/-- The region between the origin and a corner above it has the extents of that corner. -/
theorem between_origin {width height : Rat} (wide : 0 ≤ width) (high : 0 ≤ height) :
    between 0 0 width height = ofExtents width height := by
  -- Neither extent is negative, so the origin is the lower corner.
  simp [between, ofExtents, wide, high]

end Region

/-- A measured size has the extents of a rectangle, up to a millionth of them. -/
structure PageSize.Measures (size : PageSize) (region : Region) (width height : Rat) : Prop where
  width_eq : size.width.toRat? = some width
  height_eq : size.height.toRat? = some height
  width_pos : 0 < width
  height_pos : 0 < height
  wide : region.right - region.left ≤ (1 + 1 / 10 ^ 6) * width
  high : region.top - region.bottom ≤ (1 + 1 / 10 ^ 6) * height

namespace Document

/-- The rectangle of the media box of a page, between the corners with the coordinates as they are read. -/
def region? (document : Document) (id : ObjectId) : Option Region := do
  match ← (← document.corners? id).mapM Binary.toRat? with
  | [x1, y1, x2, y2] => some (.between x1 y1 x2 y2)
  | _ => none

variable {document : Document} {number : Nat} {id : ObjectId} {page : Dictionary} {size : PageSize}

/-- The distance of two coordinates is measured up to a millionth. -/
theorem distance_le {left right : Single} {extent : Rat}
    (measured : (right - left).abs.toRat? = some extent) : ∃ first second,
      left.toRat? = some first ∧ right.toRat? = some second ∧
        max first second - min first second ≤ (1 + 1 / 10 ^ 6) * extent := by
  obtain ⟨second, first, rightExact, leftExact, error⟩ := Binary.abs_sub_error measured
  refine ⟨first, second, leftExact, rightExact, ?_⟩
  have small := Format.single_epsilon_le
  have nonneg := abs_nonneg (second - first)
  rw [max_sub_min_eq_abs]
  -- What is measured misses less than a ten-millionth of the distance.
  have missed := (abs_le.1 error).1
  nlinarith

/-- A page that can be measured has a rectangle, and its size is that of the rectangle. -/
theorem region?_of_pageSize (sized : document.pageSize number id = .ok size) :
    ∃ region width height, document.region? id = some region ∧
      size.Measures region width height := by
  obtain ⟨x1, y1, x2, y2, corners, rfl, usable⟩ := pageSize_eq_ok_iff.1 sized
  obtain ⟨width, height, wide, high, widthPositive, heightPositive⟩ := PageSize.exists_extents usable
  -- Extents with a value can only lie between coordinates with values.
  obtain ⟨left, right, leftExact, rightExact, across⟩ := distance_le wide
  obtain ⟨bottom, top, bottomExact, topExact, upwards⟩ := distance_le high
  refine ⟨.between left bottom right top, width, height, ?_, wide, high, widthPositive,
    heightPositive, across, upwards⟩
  simp [region?, corners, leftExact, bottomExact, rightExact, topExact]

/-- A page with a rectangle from the origin on as its own media box has that rectangle. -/
theorem region?_of_rectangle {width height : Rat} (found : document.dictionary id = .ok page)
    (box : page.get? PageBox.media.key = some size.rectangle)
    (widthExact : size.width.toRat? = some width) (heightExact : size.height.toRat? = some height)
    (wide : 0 ≤ width) (high : 0 ≤ height) :
    document.region? id = some (.ofExtents width height) := by
  -- The four corners are found, and the two that are not zero stand for the extents.
  simp [region?, corners?_of_rectangle found box, widthExact, heightExact,
    Region.between_origin wide high]

end Document

end PdfResize
