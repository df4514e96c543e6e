import PdfResize.Proofs.Fit.Branches
import PdfResize.Proofs.Fit.Passes

/-! What a fit can fail with: what already keeps a document from being checked, or else a target or a page. -/

namespace PdfResize

/-- The page that an operation is refused for, if it is refused for one. -/
def OperationError.page? : OperationError → Option ObjectId
  | tolerance _ | factor _ | save _ => none
  | page id _ | contents id _ | contentsType id | contentsMalformed id => some id

/-- The page that an operation on it is refused for. -/
def FitError.refusedPage? : FitError → Option ObjectId
  | operation cause => cause.page?
  | load _ | invalidGeometry _ _ | missingMediaBox _ | target _ => none

/-- An error that refuses a page is that of an operation. -/
theorem FitError.exists_operation {error : FitError} {id : ObjectId}
    (refused : error.refusedPage? = some id) : ∃ cause, error = .operation cause := by
  -- No other error names a page that is refused.
  cases error with
  | operation cause => exact ⟨cause, rfl⟩
  | _ => cases refused

namespace Document

variable {document later result : Document} {id : ObjectId} {options : FitOptions} {target size : PageSize}
  {wrapping : Wrapping} {factor : Single} {page : MeasuredPage} {error : FitError}

/-! ### Steps that fail -/

/-- Contents that cannot be read refuse their page. -/
theorem refusedPage?_of_contents_error (failed : document.contents id = .error error) :
    error.refusedPage? = some id := by
  -- Each branch that answers no list refuses an operation on the page.
  unfold contents at failed
  grind [FitError.refusedPage?, OperationError.page?]

/-- A wrap that fails refuses its page. -/
theorem refusedPage?_of_wrapContent_error
    (failed : document.wrapContent id wrapping = (.error error, later)) :
    error.refusedPage? = some id := by
  -- The contents are read first, and the page is looked up once more after the streams are added.
  unfold wrapContent at failed
  split at failed
  · rename_i unread
    cases failed
    exact refusedPage?_of_contents_error unread
  · -- The page may be lost between the two look-ups when numbers have come round.
    simp only at failed
    split at failed
    · cases failed
    · cases failed
      rfl

/-- Boxes that cannot be set refuse their page. -/
theorem refusedPage?_of_setPageBoxes_error (failed : document.setPageBoxes id size = .error error) :
    error.refusedPage? = some id := by
  -- The cause is wrapped as the error of an operation on this page.
  unfold setPageBoxes at failed
  cases changed : document.modifyDictionary id fun page => page.setBoxes size with
  | ok boxed =>
    rw [changed] at failed
    cases failed
  | error cause =>
    rw [changed] at failed
    cases failed
    rfl

/-- A page that does not grow is what the operation is refused for, whatever the document is like. -/
theorem refusedPage?_of_growPage_error
    (failed : growPage target document page = (.error error, later)) :
    error.refusedPage? = some page.id := by
  -- Growing a page sets its boxes and does nothing else.
  unfold growPage at failed
  split at failed
  · cases failed
  · rename_i refused
    cases failed
    exact refusedPage?_of_setPageBoxes_error refused

/-- A page that does not shrink is what the operation is refused for, whatever the document is like. -/
theorem refusedPage?_of_shrinkPage_error
    (failed : shrinkPage target factor document page = (.error error, later)) :
    error.refusedPage? = some page.id := by
  -- Shrinking a page sets its boxes and then wraps its contents, and either may fail.
  unfold shrinkPage at failed
  split at failed
  · exact refusedPage?_of_wrapContent_error failed
  · rename_i refused
    cases failed
    exact refusedPage?_of_setPageBoxes_error refused

/-! ### A check -/

/-- A page has no size for want of a rectangle to measure, or because what is measured is not usable. -/
theorem pageSize_error_cases {number : Nat} (failed : document.pageSize number id = .error error) :
    error = .missingMediaBox number ∨
      ∃ size, size.isUsable = false ∧ error = .invalidGeometry number size := by
  -- Only four coordinates are measured, and only then can the size be one that is not usable.
  unfold pageSize at failed
  simp only at failed
  split at failed
  · split at failed
    · cases failed
    · rename_i unusable
      cases failed
      exact .inr ⟨_, Bool.not_eq_true _ ▸ unusable, rfl⟩
  · cases failed
    exact .inl rfl

/-- Pages are not measured for one of them, which has no rectangle to measure or no usable size. -/
theorem exists_page_of_measuredPages_error (failed : document.measuredPages = .error error) :
    ∃ page ∈ document.pages, error = .missingMediaBox page.number ∨
      ∃ size, size.isUsable = false ∧ error = .invalidGeometry page.number size := by
  -- It is the first page without a size.
  obtain ⟨page, listed, fault⟩ := List.exists_of_findSome?_eq_some (measuredPages_eq_error_iff.1 failed)
  exact ⟨page, listed, pageSize_error_cases (failure?_eq_some_iff.1 fault)⟩

/-- A check fails for a target that is not usable, or for a page that is not measured. -/
theorem isWithin_eq_error_cases (failed : document.isWithin options target = .error error) :
    target.isUsable = false ∧ error = .target (.unusable target) ∨
      document.measuredPages = .error error := by
  -- The test fails at the target, at a page, or not at all.
  cases usable : target.isUsable with
  | false =>
    rw [isWithin_of_not_isUsable usable] at failed
    cases failed
    exact .inl ⟨rfl, rfl⟩
  | true =>
    cases found : document.measuredPages with
    | error reason =>
      rw [isWithin_of_measuredPages_error usable found] at failed
      cases failed
      exact .inr rfl
    | ok measured =>
      rw [isWithin_of_measuredPages usable found] at failed
      cases failed

/-- A document is checked when the target is usable and all pages are measured. -/
theorem exists_measuredPages_of_isWithin {within : Bool}
    (checked : document.isWithin options target = .ok within) :
    target.isUsable ∧ ∃ measured, document.measuredPages = .ok measured ∧
      within = document.sizes.all (options.pageFits target) := by
  -- A test that gives an answer has passed the target and every page.
  cases usable : target.isUsable with
  | false =>
    rw [isWithin_of_not_isUsable usable] at checked
    cases checked
  | true =>
    refine ⟨rfl, ?_⟩
    cases found : document.measuredPages with
    | error error =>
      rw [isWithin_of_measuredPages_error usable found] at checked
      cases checked
    | ok measured =>
      rw [isWithin_of_measuredPages usable found] at checked
      cases checked
      exact ⟨measured, rfl, rfl⟩

/-! ### A fit -/

/-- A pass over the measured pages fails for one of the pages, if each of its steps fails for its own. -/
theorem exists_refusedPage_of_eachPage {step : Document → MeasuredPage → Except FitError Unit × Document}
    {measured : List MeasuredPage} (found : document.measuredPages = .ok measured)
    (steps : ∀ {current page later}, step current page = (.error error, later) →
      error.refusedPage? = some page.id)
    (failed : document.eachPage step measured = (.error error, result)) :
    ∃ page ∈ document.pages, error.refusedPage? = some page.id := by
  -- A pass that fails has stopped at one of its pages, and that page is listed.
  obtain ⟨done, page, rest, current, split, _, stopped⟩ := exists_stop_of_eachPage failed
  refine ⟨page.toPage, ?_, steps stopped⟩
  rw [← (measuredPages_eq_ok_iff.1 found).1, split]
  exact List.mem_map_of_mem (List.mem_append_right done List.mem_cons_self)

/-- A fit of a document outside the tolerance changes it, finds the target too small, or is refused for a page. -/
theorem fit_of_not_isWithin (outside : document.isWithin options target = .ok false) :
    (∃ outcome, (document.fit options target).1 = .ok outcome ∧ outcome.isChanged) ∨
      (document.fit options target).1 = .error (.target (.tooSmall target)) ∨
      ∃ page ∈ document.pages, ∃ error, (document.fit options target).1 = .error error ∧
        error.refusedPage? = some page.id := by
  obtain ⟨usable, measured, found, sized⟩ := exists_measuredPages_of_isWithin outside
  -- A pass either succeeds with its outcome or is refused for one of its pages.
  have pass : ∀ {step : Document → MeasuredPage → Except FitError Unit × Document} (reached : Outcome),
      reached.isChanged →
      (∀ {error current page later}, step current page = (.error error, later) →
        error.refusedPage? = some page.id) →
      (∃ outcome, ((document.eachPage step measured).1.map fun _ => reached) = .ok outcome ∧
        outcome.isChanged) ∨
      ∃ page ∈ document.pages, ∃ error,
        ((document.eachPage step measured).1.map fun _ => reached) = .error error ∧
          error.refusedPage? = some page.id := by
    intro step reached changed steps
    cases ended : (document.eachPage step measured).1 with
    | ok _ => exact .inl ⟨reached, rfl, changed⟩
    | error error =>
      obtain ⟨page, listed, refused⟩ :=
        exists_refusedPage_of_eachPage found (fun failed => steps failed) (Prod.ext ended rfl)
      exact .inr ⟨page, listed, error, rfl, refused⟩
  rw [fit_of_measuredPages usable found, ← sized, if_neg Bool.false_ne_true]
  simp only
  split
  · exact (pass .scaledUp rfl refusedPage?_of_growPage_error).imp_right .inr
  · split
    · exact .inr (.inl rfl)
    · exact (pass _ rfl refusedPage?_of_shrinkPage_error).imp_right .inr

end Document

end PdfResize
