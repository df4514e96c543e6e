import PdfResize.Proofs.Fit.Faults
import PdfResize.Proofs.Fit.Framing
import PdfResize.Proofs.Fit.Verdict

/-! Shrinking that fails keeps what it has done: the pages before the one that stops it, and the boxes of that one. -/

namespace PdfResize.Document

variable {document start current later result : Document} {stored : ObjectId} {target : PageSize}
  {factor : Single} {entries : Dictionary}
  {measured done rest : List MeasuredPage} {page : MeasuredPage} {error : FitError}

/-! ### Steps that fail -/

/-- A page that does not shrink has content that cannot be read, and by then its boxes are set. -/
theorem eq_boxed_of_shrinkPage_error (numbered : document.IsNumbered)
    (room : document.maxId + 2 < UInt32.size)
    (found : document.resolve page.id = .ok (stored, .dictionary entries))
    (failed : shrinkPage target factor document page = (.error error, later)) :
    later = document.boxed stored entries (target.orientedLike page.size) ∧
      later.contents page.id = .error error := by
  cases read : (document.boxed stored entries (target.orientedLike page.size)).contents page.id with
  | ok items =>
    -- Content that is read is wrapped.
    rw [shrinkPage_eq numbered room found read] at failed
    cases failed
  | error reason =>
    rw [shrinkPage_of_contents_error found read] at failed
    cases failed
    exact ⟨rfl, read⟩

/-! ### Where shrinking stops -/

/--
Shrinking has stopped at a page, where the pages before it have left `current`.

As long as numbers are given out upwards, the content of the page is what stopped it. Then the pages before
it have changed like those of a fit, and of the page itself only the boxes have.
-/
structure StopsAt (target : PageSize) (factor : Single) (start : Document) (done : List MeasuredPage)
    (current : Document) (page : MeasuredPage) (error : FitError) (result : Document) : Prop where
  /-- All pages before it have been shrunk. -/
  passed : start.eachPage (shrinkPage target factor) done = (.ok (), current)
  /-- The page has not been shrunk. -/
  stopped : shrinkPage target factor current page = (.error error, result)
  operation : ∃ cause, error = .operation cause
  before : start.IsNumbered → start.maxId + 2 * start.pages.length < UInt32.size →
    Frame fitKeys (start.IsPlaceOf done) (2 * done.length) start current
  here : start.IsNumbered → start.maxId + 2 * start.pages.length < UInt32.size →
    result.contents page.id = .error error ∧ ∃ stored, start.place? page.id = some stored ∧
      Frame PageBox.keys (· = stored) 0 current result ∧
      result.HasBoxes stored (target.orientedLike page.size)

/-- Shrinking the measured pages fails only by stopping at one of them. -/
theorem exists_stopsAt_of_eachPage (found : start.measuredPages = .ok measured)
    (failed : start.eachPage (shrinkPage target factor) measured = (.error error, result)) :
    ∃ done page rest current, measured = done ++ page :: rest ∧
      StopsAt target factor start done current page error result := by
  -- The pass has gone through the pages before, and what it has made of them is known.
  obtain ⟨done, page, rest, current, split, passed, stopped⟩ := exists_stop_of_eachPage failed
  refine ⟨done, page, rest, current, split, passed, stopped,
    FitError.exists_operation (refusedPage?_of_shrinkPage_error stopped), ?_, ?_⟩
  · intro numbered room
    exact (fitsPages_of_eachPage_shrinkPage found split numbered room passed).2
  · intro numbered room
    obtain ⟨fits, _⟩ := fitsPages_of_eachPage_shrinkPage found split numbered room passed
    obtain ⟨stored, _, entries, resolved, there, _⟩ := fits.next found split
    obtain ⟨rfl, unread⟩ := eq_boxed_of_shrinkPage_error fits.numbered (fits.room found split room)
      there stopped
    exact ⟨unread, stored, place?_of_resolve resolved, frame_boxed there _,
      (fitsPage_boxed fits.numbered there _).boxes⟩

/--
What shrinking all pages leaves of a document when it fails with an error.

It was refused before anything was done, or it has stopped at one of the measured pages.
-/
def FailsWith (document : Document) (target : PageSize) (factor : Double) (error : FitError)
    (result : Document) : Prop :=
  (target.isUsable = false ∨ ¬ (0 < factor ∧ factor ≤ 1) ∨ document.measuredPages = .error error) ∧
    result = document ∨
  ∃ measured done page rest current, document.measuredPages = .ok measured ∧
    measured = done ++ page :: rest ∧
    StopsAt target factor.convert document done current page error result

/-- A scaling down that fails has been refused at once or has stopped at a page. -/
theorem failsWith_of_scaleDown {factor : Double}
    (failed : document.scaleDown factor target = (.error error, result)) :
    document.FailsWith target factor error result := by
  unfold scaleDown PageSize.validate validateFactor at failed
  -- Target, factor and sizes are looked at in this order, before the first page is changed.
  by_cases usable : target.isUsable = true
  · by_cases allowed : 0 < factor ∧ factor ≤ 1
    · cases found : document.measuredPages with
      | error reason =>
        simp only [usable, allowed, found, bind, Except.bind, if_true] at failed
        cases failed
        exact .inl ⟨.inr (.inr found), rfl⟩
      | ok measured =>
        simp only [usable, allowed, found, bind, Except.bind, if_true] at failed
        obtain ⟨done, page, rest, current, split, stops⟩ := exists_stopsAt_of_eachPage found failed
        exact .inr ⟨measured, done, page, rest, current, found, split, stops⟩
    · simp only [usable, allowed, bind, Except.bind, if_true, if_false] at failed
      cases failed
      exact .inl ⟨.inr (.inl allowed), rfl⟩
  · simp only [usable, bind, Except.bind] at failed
    cases failed
    exact .inl ⟨.inl (Bool.eq_false_of_not_eq_true usable), rfl⟩

/-- A fit that is to shrink the pages fails exactly as shrinking them does. -/
theorem scaleDown_of_fit_error {options : FitOptions} {factor : Double}
    (within : document.isWithin options target = .ok false)
    (scaling : document.requiredScaling target = .ok (.shrink factor))
    (failed : document.fit options target = (.error error, result)) :
    document.scaleDown factor target = (.error error, result) := by
  -- The fit has taken this branch, and an error is passed on as it is.
  have branch : document.fit options target =
      ((document.scaleDown factor target).1.map fun _ => .scaledDown factor,
        (document.scaleDown factor target).2) := by
    unfold fit
    rw [within, scaling]
    rfl
  rw [branch] at failed
  cases shrunk : document.scaleDown factor target with
  | mk answer left =>
    rw [shrunk] at failed
    cases answer with
    | ok _ => cases failed
    | error reason =>
      cases failed
      rfl

/--
Shrinking that fails changes nothing if it is refused, and else it keeps what it has done.

It is refused for its target, its factor or a page without a size. Behind that it stops at the first page
that does not shrink. The pages before it are shrunk for good, its own boxes are set around the content
that could not be read, and nothing else has changed. A fit that is to shrink the pages fails in the same way.
-/
theorem scaleDown_stops {factor : Double} :
    (∀ error result, document.scaleDown factor target = (.error error, result) →
      document.FailsWith target factor error result) ∧
    ∀ options error result, document.isWithin options target = .ok false →
      document.requiredScaling target = .ok (.shrink factor) →
      document.fit options target = (.error error, result) →
      document.FailsWith target factor error result := by
  -- A fit that has to shrink fails as its scaling down does.
  constructor
  · intro error result failed
    exact failsWith_of_scaleDown failed
  · intro options error result within scaling failed
    exact failsWith_of_scaleDown (scaleDown_of_fit_error within scaling failed)

/-- Shrinking the document with a faulty page stops at that page. -/
theorem faultyPage_scaleDown_stops :
    (faultyPage.scaleDown 0.5 ⟨250, 300⟩).1 = .error (.operation (.contentsMalformed ⟨4, 0⟩)) ∧
      faultyPage.isWithin {} ⟨250, 300⟩ = .ok false ∧
      faultyPage.requiredScaling ⟨250, 300⟩ = .ok (.shrink 0.5) ∧
      (faultyPage.fit {} ⟨250, 300⟩).1 = .error (.operation (.contentsMalformed ⟨4, 0⟩)) ∧
      faultyPage.FailsWith ⟨250, 300⟩ 0.5 (.operation (.contentsMalformed ⟨4, 0⟩))
        (faultyPage.scaleDown 0.5 ⟨250, 300⟩).2 ∧
      faultyPage.FailsWith ⟨250, 300⟩ 0.5 (.operation (.contentsMalformed ⟨4, 0⟩))
        (faultyPage.fit {} ⟨250, 300⟩).2 := by
  -- Both runs are evaluated, and the theorem describes what they leave.
  have failed : (faultyPage.scaleDown 0.5 ⟨250, 300⟩).1 =
      .error (.operation (.contentsMalformed ⟨4, 0⟩)) := by
    decide +kernel
  have within : faultyPage.isWithin {} ⟨250, 300⟩ = .ok false := by decide +kernel
  have scaling : faultyPage.requiredScaling ⟨250, 300⟩ = .ok (.shrink 0.5) := by decide +kernel
  have fitFailed : (faultyPage.fit {} ⟨250, 300⟩).1 =
      .error (.operation (.contentsMalformed ⟨4, 0⟩)) := by
    decide +kernel
  exact ⟨failed, within, scaling, fitFailed, scaleDown_stops.1 _ _ (Prod.ext failed rfl),
    scaleDown_stops.2 _ _ _ within scaling (Prod.ext fitFailed rfl)⟩

/-- Shrinking that is stopped by the second page has shrunk the first one and added two streams for it. -/
theorem faultyPage_not_restored :
    (faultyPage.scaleDown 0.5 ⟨250, 300⟩).1 = .error (.operation (.contentsMalformed ⟨4, 0⟩)) ∧
      faultyPage.pageSize 1 ⟨3, 0⟩ = .ok ⟨500, 600⟩ ∧
      (faultyPage.scaleDown 0.5 ⟨250, 300⟩).2.pageSize 1 ⟨3, 0⟩ = .ok ⟨250, 300⟩ ∧
      (faultyPage.scaleDown 0.5 ⟨250, 300⟩).2 ≠ faultyPage ∧
      (faultyPage.fit {} ⟨250, 300⟩).1 = .error (.operation (.contentsMalformed ⟨4, 0⟩)) ∧
      (faultyPage.fit {} ⟨250, 300⟩).2 ≠ faultyPage := by
  -- Numbers that have been given out tell the documents apart.
  have before : faultyPage.maxId = 4 := by decide
  have scaled : (faultyPage.scaleDown 0.5 ⟨250, 300⟩).2.maxId = 6 := by decide +kernel
  have fitted : (faultyPage.fit {} ⟨250, 300⟩).2.maxId = 6 := by decide +kernel
  refine ⟨by decide +kernel, by decide +kernel, by decide +kernel, ?_, by decide +kernel, ?_⟩
  · intro same
    rw [same, before] at scaled
    cases scaled
  · intro same
    rw [same, before] at fitted
    cases fitted

end PdfResize.Document
