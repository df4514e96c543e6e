import PdfResize.Proofs.Fit.Fitted

/-! A fit that changes a document reaches its target on every page, so that another fit finds nothing to do. -/

namespace PdfResize.Document

variable {document result : Document} {options : FitOptions} {target : PageSize} {outcome : Outcome}

/-- A fit that changes a document has fitted all pages. -/
theorem fitsPages_of_fit (numbered : document.IsNumbered)
    (room : document.maxId + 2 * document.pages.length < UInt32.size)
    (fitted : document.fit options target = (.ok outcome, result)) (changed : outcome.isChanged) :
    target.isUsable ∧ ∃ measured streams, document.measuredPages = .ok measured ∧
      FitsPages streams target document measured result := by
  -- The document has been grown or shrunk, and the invariant is carried along either pass.
  obtain ⟨usable, measured, found, branch⟩ := fit_eq_ok_cases fitted
  refine ⟨usable, measured, ?_⟩
  rcases branch with ⟨rfl, _⟩ | ⟨_, passed⟩ | ⟨factor, _, passed⟩
  · cases changed
  · -- Growing adds no streams, and every step succeeds.
    refine ⟨0, found, eachPage_holds ?_ (.start numbered) passed⟩
    intro done page rest current later split fits taken
    obtain ⟨grown, same, advanced⟩ := fits.grow found split
    rw [taken] at same
    cases same
    exact advanced
  · refine ⟨2, found, eachPage_holds ?_ (.start numbered) passed⟩
    intro done page rest current later split fits taken
    exact fits.shrink found split room taken

/--
A page that inherits its media box, the same page under another id, and a page below the first one.

All of them are measured through the first page, whose boxes a fit sets before it comes to the others.
-/
def sharedPage : Document :=
  ofKids (.array [.integer 500, .integer 600, .integer 0, .integer 0])
    [.dictionary [(ascii "Type", .name (ascii "Page")), (ascii "Parent", .reference ⟨2, 0⟩)],
      .reference ⟨3, 0⟩,
      .dictionary [(ascii "Type", .name (ascii "Page")), (ascii "Parent", .reference ⟨3, 0⟩)]]

/-- The document with an alias is numbered. -/
theorem isNumbered_sharedPage : sharedPage.IsNumbered := isNumbered_ofKids _ _

/-- The document with an alias has room for its streams. -/
theorem sharedPage_room : sharedPage.maxId + 2 * sharedPage.pages.length < UInt32.size := by
  -- It has three pages and few objects.
  decide

/-- A target of half the size shrinks the page, and a larger one lets its boxes grow. -/
theorem sharedPage_outcomes : (sharedPage.fit {} ⟨250, 300⟩).1 = .ok (.scaledDown 0.5) ∧
    (sharedPage.fit {} ⟨600, 700⟩).1 = .ok .scaledUp := by
  -- Both runs are evaluated.
  decide +kernel

/-- The document with an alias is halved for a target of half its size. -/
theorem sharedPage_shrinks : (sharedPage.fit {} ⟨250, 300⟩).1 = .ok (.scaledDown 0.5) :=
  -- This is the first of the two runs.
  sharedPage_outcomes.1

/-- Pages that a fit has changed measure the target as it applies to their old sizes. -/
theorem FitsPages.sizes_eq {measured : List MeasuredPage} {streams : Nat}
    (fits : FitsPages streams target document measured result) (usable : target.isUsable)
    (found : document.measuredPages = .ok measured) (samePages : result.pages = document.pages) :
    ∃ again, result.measuredPages = .ok again ∧
      result.sizes = measured.map fun page => target.orientedLike page.size := by
  obtain ⟨pages, sized⟩ := measuredPages_eq_ok_iff.1 found
  -- The same pages are listed, each with its new size.
  have remeasured : result.measuredPages =
      .ok (measured.map fun page => ⟨page.toPage, target.orientedLike page.size⟩) := by
    rw [measuredPages_eq_ok_iff, samePages, ← pages]
    refine ⟨by simp, ?_⟩
    intro page member
    obtain ⟨old, inside, rfl⟩ := List.mem_map.1 member
    exact fits.pageSize usable inside (sized old inside) old.number
  refine ⟨_, remeasured, ?_⟩
  rw [Document.sizes_eq remeasured, List.map_map]
  rfl

/--
A document that has been fitted to an upright target is left alone by another fit to it.

The pages have to be listed as before, which they are unless the walk through them was cut short.
-/
theorem fit_idempotent (numbered : document.IsNumbered)
    (room : document.maxId + 2 * document.pages.length < UInt32.size)
    (upright : target.width ≤ target.height) (nonneg : 0 ≤ options.tolerance)
    (below : options.tolerance < 1) (fitted : document.fit options target = (.ok outcome, result))
    (samePages : result.pages = document.pages) :
    result.fit options target = (.ok .unchanged, result) := by
  by_cases changed : outcome.isChanged = true
  · -- The pages are measured again, and none of them is outside the tolerance.
    obtain ⟨usable, measured, streams, found, fits⟩ := fitsPages_of_fit numbered room fitted changed
    obtain ⟨again, remeasured, sizes⟩ := fits.sizes_eq usable found samePages
    rw [fit_of_measuredPages usable remeasured, if_pos]
    -- Every page now has a size that the target applies to as it did before.
    rw [sizes, List.all_map, List.all_eq_true]
    intro page _
    exact FitOptions.pageFits_orientedLike nonneg below usable upright page.size
  · -- Nothing was done, so the same happens again.
    obtain ⟨_, _, _, branch⟩ := fit_eq_ok_cases fitted
    rcases branch with ⟨rfl, rfl⟩ | ⟨rfl, _⟩ | ⟨factor, rfl, _⟩
    · exact fitted
    · exact absurd rfl changed
    · exact absurd rfl changed

/-- A second fit leaves the document with an alias as the first has left it. -/
theorem sharedPage_fit_idempotent :
    sharedPage.IsNumbered ∧ sharedPage.maxId + 2 * sharedPage.pages.length < UInt32.size ∧
      (250 : Single) ≤ 300 ∧ 0 ≤ ({} : FitOptions).tolerance ∧ ({} : FitOptions).tolerance < 1 ∧
      (sharedPage.fit {} ⟨250, 300⟩).1 = .ok (.scaledDown 0.5) ∧
      (sharedPage.fit {} ⟨250, 300⟩).2.pages = sharedPage.pages ∧
      (sharedPage.fit {} ⟨250, 300⟩).2.fit {} ⟨250, 300⟩ =
        (.ok .unchanged, (sharedPage.fit {} ⟨250, 300⟩).2) := by
  -- What the theorem asks of target, tolerance and pages is evaluated.
  have upright : (250 : Single) ≤ 300 := by decide +kernel
  have nonneg : 0 ≤ ({} : FitOptions).tolerance := by decide +kernel
  have below : ({} : FitOptions).tolerance < 1 := by decide +kernel
  have samePages : (sharedPage.fit {} ⟨250, 300⟩).2.pages = sharedPage.pages := by decide +kernel
  exact ⟨isNumbered_sharedPage, sharedPage_room, upright, nonneg, below, sharedPage_shrinks, samePages,
    fit_idempotent isNumbered_sharedPage sharedPage_room upright nonneg below
      (Prod.ext sharedPage_shrinks rfl) samePages⟩

end PdfResize.Document
