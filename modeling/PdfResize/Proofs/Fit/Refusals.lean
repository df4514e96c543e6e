import PdfResize.Proofs.Fit.Edits
import PdfResize.Proofs.Fit.Stopping

/-! What fails leaves the document as it was, unless it is a shrink that has already begun. -/

namespace PdfResize

/-- An operation is refused for its target, for a page without a size or for its factor. -/
inductive FitError.IsRefusal : FitError → Prop where
  | target (cause : TargetError) : IsRefusal (.target cause)
  | invalidGeometry (page : Nat) (size : PageSize) : IsRefusal (.invalidGeometry page size)
  | missingMediaBox (page : Nat) : IsRefusal (.missingMediaBox page)
  | factor (value : Double) : IsRefusal (.operation (.factor value))

/-- A refusal names no page. -/
theorem FitError.IsRefusal.refusedPage?_eq_none {error : FitError} (refusal : error.IsRefusal) :
    error.refusedPage? = none := by
  -- None of these errors is about an operation on a page.
  cases refusal <;> rfl

namespace Document

variable {document start current result : Document} {id : ObjectId} {options : FitOptions}
  {target : PageSize} {factor : Double} {measured : List MeasuredPage} {wrapping : Wrapping}
  {error : FitError}

/-! ### Boxes -/

/-- Boxes can be set one after another wherever there were dictionaries at the start. -/
theorem exists_editAll_boxes (rewrites : Rewrites PageBox.keys (fun _ => True) start current)
    {changes : List (ObjectId × PageSize)}
    (dictionaries : ∀ change ∈ changes, ∃ page, start.dictionary change.1 = .ok page) :
    ∃ boxed, current.editAll (changes.map fun change => .boxes change.1 change.2) = (.ok (), boxed) := by
  induction changes generalizing current with
  | nil => exact ⟨current, rfl⟩
  | cons change rest ih =>
    -- The dictionary is where it was, however many boxes have been set since.
    obtain ⟨page, found⟩ := dictionaries change List.mem_cons_self
    obtain ⟨stored, resolved⟩ := exists_resolve_of_dictionary found
    obtain ⟨later, there, _⟩ := rewrites.resolve_dictionary resolved
    have step := (rewrites_setBoxes there change.2).mono (fun _ among => among) fun _ _ => trivial
    rw [List.map_cons, editAll_cons, edit_boxes, setPageBoxes_eq there]
    exact ih (rewrites.trans step) fun other among => dictionaries other (List.mem_cons_of_mem _ among)

/-- The pages that were measured lead to dictionaries. -/
theorem exists_dictionary_of_mem_pages (found : document.measuredPages = .ok measured) {page : Page}
    (listed : page ∈ document.pages) : ∃ entries, document.dictionary page.id = .ok entries := by
  -- Every listed page has been measured, and its size is read from its dictionary.
  obtain ⟨_, _, sized⟩ := exists_measured found listed
  exact (usable_of_pageSize sized).2

/-- Setting the boxes of measured pages never stops between two of them. -/
theorem exists_eachPage_growPage (found : document.measuredPages = .ok measured) :
    ∃ grown, document.eachPage (growPage target) measured = (.ok (), grown) := by
  rw [eachPage_growPage_eq]
  -- The pass is a row of boxes that are set, one change for each page.
  have edits : growEdits target measured =
      (measured.map fun page => (page.id, target.orientedLike page.size)).map
        fun change => .boxes change.1 change.2 := by
    rw [List.map_map, growEdits, ← List.map_eq_flatMap]
    rfl
  rw [edits]
  refine exists_editAll_boxes (.refl _ _ document) ?_
  intro change among
  obtain ⟨page, member, rfl⟩ := List.mem_map.1 among
  exact (usable_of_pageSize ((measuredPages_eq_ok_iff.1 found).2 page member)).2

/-- Growing the pages fails only before the first of them is changed. -/
theorem eq_of_scaleUp_error (failed : document.scaleUp target = (.error error, result)) :
    result = document ∧ (target.isUsable = false ∨ document.measuredPages = .error error) := by
  unfold scaleUp PageSize.validate at failed
  -- Once all pages are measured, nothing is left that could fail.
  by_cases usable : target.isUsable = true
  · cases found : document.measuredPages with
    | error reason =>
      simp only [usable, found, bind, Except.bind, if_true] at failed
      cases failed
      exact ⟨rfl, .inr rfl⟩
    | ok measured =>
      obtain ⟨grown, passed⟩ : ∃ grown, document.eachPage (growPage target) measured = (.ok (), grown) :=
        exists_eachPage_growPage found
      simp only [usable, found, passed, bind, Except.bind, if_true] at failed
      cases failed
  · simp only [usable, bind, Except.bind] at failed
    cases failed
    exact ⟨rfl, .inl (Bool.eq_false_of_not_eq_true usable)⟩

/-! ### Shrinking and fitting -/

/-- Shrinking that is refused has not begun. -/
theorem eq_of_scaleDown_refusal (failed : document.scaleDown factor target = (.error error, result))
    (refusal : error.IsRefusal) : result = document := by
  -- Scaling down fails before the first page or at one of them.
  rcases failsWith_of_scaleDown failed with ⟨_, same⟩ | ⟨_, _, _, _, _, _, _, stops⟩
  · exact same
  · -- Shrinking that has begun stops for an operation on a page.
    have stopped := refusedPage?_of_shrinkPage_error stops.stopped
    rw [refusal.refusedPage?_eq_none] at stopped
    cases stopped

/-- A fit that fails has left the document alone, or it was shrinking the pages. -/
theorem fit_error_cases (failed : document.fit options target = (.error error, result)) :
    result = document ∨ ∃ factor, document.scaleDown factor target = (.error error, result) := by
  -- Neither the check nor the decision touches the document, and growing fails before its first page.
  cases within : document.isWithin options target with
  | error reason =>
    rw [fit_of_isWithin_error within] at failed
    cases failed
    exact .inl rfl
  | ok fits =>
    cases fits with
    | true =>
      rw [fit_of_isWithin within] at failed
      cases failed
    | false =>
      cases scaling : document.requiredScaling target with
      | error reason =>
        simp only [fit, within, scaling, bind, Except.bind] at failed
        cases failed
        exact .inl rfl
      | ok decided =>
        cases decided with
        | shrink factor => exact .inr ⟨factor, scaleDown_of_fit_error within scaling failed⟩
        | grow =>
          simp only [fit, within, scaling, bind, Except.bind, pure, Except.pure] at failed
          cases grown : document.scaleUp target with
          | mk answer left =>
            rw [grown] at failed
            cases answer with
            | ok _ => cases failed
            | error reason =>
              cases failed
              exact .inl (eq_of_scaleUp_error grown).1

/-- A fit that is refused changes nothing. -/
theorem eq_of_fit_refusal (failed : document.fit options target = (.error error, result))
    (refusal : error.IsRefusal) : result = document := by
  -- A fit fails before it changes anything or while it scales down.
  rcases fit_error_cases failed with same | ⟨factor, shrinking⟩
  · exact same
  · exact eq_of_scaleDown_refusal shrinking refusal

/-! ### Content -/

/-- Wrapping content fails only before its streams are added. -/
theorem eq_of_wrapContent_error (numbered : document.IsNumbered)
    (room : document.maxId + 2 < UInt32.size)
    (failed : document.wrapContent id wrapping = (.error error, result)) : result = document := by
  cases read : document.contents id with
  | error reason =>
    rw [wrapContent_of_contents_error read] at failed
    cases failed
    rfl
  | ok items =>
    -- A page whose content is read is still found when the streams are there.
    obtain ⟨stored, entries, found, _⟩ := exists_resolve_of_contents read
    rw [wrapContent_eq numbered room found read] at failed
    cases failed

/--
Everything but a shrink that has begun fails without a trace.

Growing fails only before its first page, as boxes can be set at every measured page, whatever boxes have
been set before. What is refused for its target, its factor or a page without a size is refused before the
first change, and content that cannot be wrapped has been given no stream.
-/
theorem failures_leave_document (document : Document) :
    (∀ target error result, document.scaleUp target = (.error error, result) →
      result = document ∧ (target.isUsable = false ∨ document.measuredPages = .error error)) ∧
    (∀ id size error result, document.edit (.boxes id size) = (.error error, result) →
      result = document) ∧
    (∀ measured, document.measuredPages = .ok measured →
      ∀ changes : List (Page × PageSize), (∀ change ∈ changes, change.1 ∈ document.pages) →
        ∃ boxed, document.editAll (changes.map fun change => .boxes change.1.id change.2) =
          (.ok (), boxed)) ∧
    (∀ factor target error result, document.scaleDown factor target = (.error error, result) →
      error.IsRefusal → result = document) ∧
    (∀ options target error result, document.fit options target = (.error error, result) →
      error.IsRefusal → result = document) ∧
    (document.IsNumbered → document.maxId + 2 < UInt32.size →
      (∀ id wrapping error result, document.wrapContent id wrapping = (.error error, result) →
        result = document) ∧
      ∀ id factor error result, document.scaleContent id factor = (.error error, result) →
        result = document) := by
  refine ⟨fun _ _ _ => eq_of_scaleUp_error, ?_, ?_, fun _ _ _ _ => eq_of_scaleDown_refusal,
    fun _ _ _ _ => eq_of_fit_refusal, ?_⟩
  · intro id size error result failed
    rw [edit_boxes] at failed
    cases boxed : document.setPageBoxes id size with
    | ok later =>
      rw [boxed] at failed
      cases failed
    | error reason =>
      rw [boxed] at failed
      cases failed
      rfl
  · intro measured found changes listed
    -- Every page that is listed leads to a dictionary.
    have dictionaries : ∀ change ∈ changes.map fun change => (change.1.id, change.2),
        ∃ entries, document.dictionary change.1 = .ok entries := by
      intro change among
      obtain ⟨one, member, rfl⟩ := List.mem_map.1 among
      exact exists_dictionary_of_mem_pages found (listed one member)
    have boxed := exists_editAll_boxes (.refl _ _ document) dictionaries
    rwa [List.map_map] at boxed
  · intro numbered room
    constructor
    · exact fun _ _ _ _ => eq_of_wrapContent_error numbered room
    · exact fun _ _ _ _ => eq_of_wrapContent_error numbered room

/-- Each way of failing leaves the document with a faulty page as it was. -/
theorem faultyPage_failures_leave_document :
    (faultyPage.scaleUp ⟨0, 300⟩).2 = faultyPage ∧
      (faultyPage.edit (.boxes ⟨9, 0⟩ ⟨250, 300⟩)).2 = faultyPage ∧
      (∃ boxed, faultyPage.editAll [.boxes ⟨3, 0⟩ ⟨250, 300⟩, .boxes ⟨4, 0⟩ ⟨0, 0⟩,
        .boxes ⟨3, 0⟩ ⟨500, 600⟩] = (.ok (), boxed)) ∧
      (faultyPage.scaleDown 2 ⟨250, 300⟩).2 = faultyPage ∧
      (faultyPage.fit {} ⟨0, 300⟩).2 = faultyPage ∧
      (faultyPage.wrapContent ⟨4, 0⟩ ⟨[], []⟩).2 = faultyPage ∧
      (faultyPage.scaleContent ⟨4, 0⟩ 1).2 = faultyPage := by
  obtain ⟨grow, boxes, pages, shrink, fit, content⟩ := failures_leave_document faultyPage
  obtain ⟨wrap, scale⟩ := content (isNumbered_ofKids _ _) (by decide)
  -- Each of these fails, and each for a reason of its own.
  have unusable : (faultyPage.scaleUp ⟨0, 300⟩).1 = .error (.target (.unusable ⟨0, 300⟩)) := by
    decide +kernel
  have missing : (faultyPage.edit (.boxes ⟨9, 0⟩ ⟨250, 300⟩)).1 =
      .error (.operation (.page ⟨9, 0⟩ .missing)) := by
    decide +kernel
  have measured : faultyPage.measuredPages =
      .ok [⟨⟨1, ⟨3, 0⟩⟩, ⟨500, 600⟩⟩, ⟨⟨2, ⟨4, 0⟩⟩, ⟨500, 600⟩⟩] := by
    decide +kernel
  have listed : ∀ change ∈ [((⟨1, ⟨3, 0⟩⟩ : Page), (⟨250, 300⟩ : PageSize)), (⟨2, ⟨4, 0⟩⟩, ⟨0, 0⟩),
      (⟨1, ⟨3, 0⟩⟩, ⟨500, 600⟩)], change.1 ∈ faultyPage.pages := by
    decide +kernel
  have enlarging : (faultyPage.scaleDown 2 ⟨250, 300⟩).1 = .error (.operation (.factor 2)) := by
    decide +kernel
  have refused : (faultyPage.fit {} ⟨0, 300⟩).1 = .error (.target (.unusable ⟨0, 300⟩)) := by
    decide +kernel
  have unwrapped : (faultyPage.wrapContent ⟨4, 0⟩ ⟨[], []⟩).1 =
      .error (.operation (.contentsMalformed ⟨4, 0⟩)) := by
    decide +kernel
  have unscaled : (faultyPage.scaleContent ⟨4, 0⟩ 1).1 =
      .error (.operation (.contentsMalformed ⟨4, 0⟩)) := by
    decide +kernel
  exact ⟨(grow _ _ _ (Prod.ext unusable rfl)).1, boxes _ _ _ _ (Prod.ext missing rfl),
    pages _ measured _ listed, shrink _ _ _ _ (Prod.ext enlarging rfl) (.factor 2),
    fit _ _ _ _ (Prod.ext refused rfl) (.target _), wrap _ _ _ _ (Prod.ext unwrapped rfl),
    scale _ _ _ _ (Prod.ext unscaled rfl)⟩

end Document

end PdfResize
