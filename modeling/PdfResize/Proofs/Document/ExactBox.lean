import Mathlib.Data.List.Forall2
import PdfResize.Proofs.Document.PageBox

/-! The numbers in the media box of a page as they are written, before they are rounded to be measured. -/

namespace PdfResize

/-- The number that an object is, be it whole or not. -/
def Object.exactNumber? : Object → Option Rat
  | integer value => some value
  | real value => value.toRat?
  | _ => none

/-- A number that can be a coordinate is read as itself, whichever way it is written. -/
theorem Object.exists_number {object : Object} {value : Rat} (exact : object.exactNumber? = some value)
    (held : Format.single.Holds value) :
    ∃ number, object.number? = some number ∧ number.toRat? = some value := by
  cases object with
  | real number => exact ⟨number, rfl, exact⟩
  | integer whole =>
    -- A whole number is rounded, but only to itself.
    cases exact
    refine ⟨_, rfl, ?_⟩
    rw [Binary.ofInt, Binary.round_of_holds held]
    rfl
  | _ => cases exact

/-- The distance of a number from zero is the number, if it is above zero. -/
theorem Single.abs_sub_eq {origin reach extent : Single} {value : Rat} (zero : origin.toRat? = some 0)
    (reached : reach.toRat? = some value) (exact : extent.toRat? = some value) (positive : 0 < value) :
    (reach - origin).abs = extent := by
  -- The difference does not have to be rounded.
  have held := Binary.holds_of_toRat? exact
  obtain ⟨distance, there, above, below⟩ :=
    (Binary.rounds_sub reached zero).between held held (by simp) (by simp)
  cases le_antisymm below above
  rw [Binary.eq_of_toRat? there exact positive.ne']
  exact Binary.abs_of_pos ((Binary.lt_iff Binary.toRat?_zero exact).2 positive)

namespace Document

variable {document : Document} {number : Nat} {id : ObjectId} {page : Dictionary} {size : PageSize}
  {width height : Rat}

/-- The number that an object, or what it leads to, is. -/
def exactCoordinate? (document : Document) (object : Object) : Option Rat := do
  (← (document.value object).toOption).exactNumber?

/-- The numbers in the media box of a page. -/
def exactBox? (document : Document) (id : ObjectId) : Option (List Rat) := do
  (← document.mediaBox? ancestorLimit id).mapM document.exactCoordinate?

/-- A coordinate whose exact value can be held is read as that value. -/
theorem exists_coordinate {object : Object} {value : Rat}
    (exact : document.exactCoordinate? object = some value) (held : Format.single.Holds value) :
    ∃ number, document.coordinate? object = some number ∧ number.toRat? = some value := by
  -- Both readings follow the same object, and differ only in how they take its number.
  unfold exactCoordinate? at exact
  unfold coordinate?
  obtain ⟨found, there, exact⟩ := Option.bind_eq_some_iff.1 exact
  obtain ⟨number, read, stands⟩ := Object.exists_number exact held
  exact ⟨number, Option.bind_eq_some_iff.2 ⟨found, there, read⟩, stands⟩

/-- Numbers that can all be coordinates are all read as themselves. -/
theorem exists_coordinates {objects : List Object} {values : List Rat}
    (exact : objects.mapM document.exactCoordinate? = some values)
    (held : ∀ value ∈ values, Format.single.Holds value) :
    ∃ numbers, objects.mapM document.coordinate? = some numbers ∧
      List.Forall₂ (fun number value => number.toRat? = some value) numbers values := by
  -- By induction on the objects, each of which is read on its own.
  induction objects generalizing values with
  | nil =>
    cases exact
    exact ⟨[], rfl, .nil⟩
  | cons object rest ih =>
    rw [List.mapM_cons] at exact ⊢
    obtain ⟨value, first, exact⟩ := Option.bind_eq_some_iff.1 exact
    obtain ⟨later, others, same⟩ := Option.bind_eq_some_iff.1 exact
    cases same
    obtain ⟨number, read, stands⟩ := exists_coordinate first (held value List.mem_cons_self)
    obtain ⟨numbers, reads, stand⟩ := ih others fun value among => held value (List.mem_cons_of_mem _ among)
    exact ⟨number :: numbers, by simp [read, reads], .cons stands stand⟩

/-- A page with the rectangle of a size as its own media box has zeros and the extents in it. -/
theorem exactBox?_of_rectangle (found : document.dictionary id = .ok page)
    (box : page.get? PageBox.media.key = some size.rectangle)
    (wide : size.width.toRat? = some width) (high : size.height.toRat? = some height) :
    document.exactBox? id = some [0, 0, width, height] := by
  -- The box is in the page's own entries, and its two lower numbers are zero.
  have zero : (0 : Single).toRat? = some 0 := Binary.toRat?_zero
  rw [exactBox?, ancestorLimit, mediaBox?_of_entry found box, items?_rectangle]
  simp [value, exactCoordinate?, Object.exactNumber?, Except.toOption, wide, high, zero]

/-- A page with zeros and the extents of a usable size in its media box has that size. -/
theorem pageSize_of_exactBox (usable : size.isUsable) (wide : size.width.toRat? = some width)
    (high : size.height.toRat? = some height)
    (exact : document.exactBox? id = some [0, 0, width, height]) :
    document.pageSize number id = .ok size := by
  have held : ∀ value ∈ [0, 0, width, height], Format.single.Holds value := by
    simp [Binary.holds_of_toRat? wide, Binary.holds_of_toRat? high, Format.holds_zero]
  obtain ⟨objects, box, exact⟩ := Option.bind_eq_some_iff.1 exact
  obtain ⟨numbers, read, stand⟩ := exists_coordinates exact held
  -- There are four coordinates, with these values.
  simp only [List.forall₂_cons_right_iff, List.forall₂_nil_right_iff] at stand
  obtain ⟨x1, _, left, ⟨y1, _, bottom, ⟨x2, _, right, ⟨y2, _, top, rfl, rfl⟩, rfl⟩, rfl⟩, rfl⟩ := stand
  obtain ⟨across, upwards, wideAgain, highAgain, widthPositive, heightPositive⟩ :=
    PageSize.exists_extents usable
  cases wide.symm.trans wideAgain
  cases high.symm.trans highAgain
  refine pageSize_eq_ok_iff.2 ⟨x1, y1, x2, y2, Option.bind_eq_some_iff.2 ⟨objects, box, read⟩, ?_, usable⟩
  rw [sizeBetween, Single.abs_sub_eq left right wide widthPositive,
    Single.abs_sub_eq bottom top high heightPositive]

end Document

end PdfResize
