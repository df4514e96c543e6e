import PdfResize.Proofs.Fit.Faults
import PdfResize.Proofs.Fit.Fitted
import PdfResize.Proofs.Fit.Places
import PdfResize.Proofs.Fit.Tolerance

/-! What a fit answers is decided by the document as it was, although faults are found only between changes. -/

namespace PdfResize.Document

variable {document start current : Document} {options : FitOptions} {target : PageSize}
  {id stored : ObjectId} {measured done rest : List MeasuredPage} {page : MeasuredPage}
  {entries old : Dictionary} {factor : Single}

/-- The page in a place lists its content itself. -/
def HasList (document : Document) (stored : ObjectId) : Prop :=
  ∃ (page : Dictionary) (items : List Object),
    document.objects.get? stored = some (.dictionary page) ∧
      page.get? (ascii "Contents") = some (.array items)

/-- After some pages have shrunk, each of them lists its content itself. -/
structure ShrinksPages (target : PageSize) (before : Document) (done : List MeasuredPage)
    (after : Document) : Prop extends FitsPages 2 target before done after where
  /-- The pages list their content themselves. -/
  lists : ∀ {page stored}, page ∈ done → before.place? page.id = some stored → after.HasList stored

/-- A page without references to new numbers keeps the fault of its content, or its lack of one. -/
theorem ShrinksPages.contentsFault?_boxed (shrinks : ShrinksPages target start done current)
    (references : start.ReferencesNumbered)
    (resolved : start.resolve id = .ok (stored, .dictionary old))
    (there : current.resolve id = .ok (stored, .dictionary entries))
    (clean : ∀ earlier ∈ done, start.contentsFault? earlier.id = none) (size : PageSize) :
    (current.boxed stored entries size).contentsFault? id = start.contentsFault? id := by
  have found := dictionary_of_resolve resolved
  have boxedFound := dictionary_of_resolve (resolve_boxed there size)
  have unset := entries.get?_setBoxes_other size contents_not_mem_keys
  by_cases touched : ∃ earlier ∈ done, start.place? earlier.id = some stored
  · -- An earlier page in this place had no fault, and by now it lists its content itself.
    obtain ⟨earlier, member, same⟩ := touched
    have earlierFound := dictionary_of_resolve (resolve_eq_of_place? resolved same)
    obtain ⟨items, had⟩ := contentsFault?_eq_none_iff.1 (clean earlier member)
    have before : start.contentsFault? id = none :=
      contentsFault?_eq_none_iff.2 ⟨items, had.of_dictionary (found.trans earlierFound.symm)⟩
    obtain ⟨listing, list, present, listed⟩ := shrinks.lists member same
    rw [get?_of_resolve there] at present
    cases present
    rw [before, contentsFault?_eq_none_iff]
    refine ⟨list, _, boxedFound, ?_⟩
    rw [unset, listed]
    exact .direct list
  · -- The page is as it was but for its boxes, and so is everything that its content refers to.
    have untouched : entries = old := shrinks.eq_of_untouched resolved there
      fun earlier member same => touched ⟨earlier, member, same⟩
    subst untouched
    have rewrites := shrinks.rewrites_boxed there size
    unfold contentsFault?
    simp only [boxedFound, found, unset]
    refine rewrites.entryFault? references ?_
    intro content entry
    -- The entry is one of a stored dictionary, whose references are to old numbers.
    refine references stored _ (get?_of_resolve resolved) content ?_
    exact Object.mem_references_of_get? entry (List.mem_singleton_self content)

section pass

variable (found : start.measuredPages = .ok measured)

include found

/-- Shrinking takes the next page along unless its content had a fault at the start, which is then the error. -/
theorem ShrinksPages.advance (shrinks : ShrinksPages target start done current)
    (references : start.ReferencesNumbered)
    (room : start.maxId + 2 * start.pages.length < UInt32.size)
    (split : measured = done ++ page :: rest)
    (clean : ∀ earlier ∈ done, start.contentsFault? earlier.id = none) :
    match start.contentsFault? page.id with
    | none => ∃ later, shrinkPage target factor current page = (.ok (), later) ∧
        ShrinksPages target start (done ++ [page]) later
    | some error => (shrinkPage target factor current page).1 = .error error := by
  obtain ⟨stored, old, entries, resolved, there, alike⟩ := shrinks.next found split
  have located := place?_of_resolve resolved
  have kept := shrinks.contentsFault?_boxed references resolved there clean
    (target.orientedLike page.size)
  cases fault : start.contentsFault? page.id with
  | none =>
    rw [fault] at kept
    obtain ⟨items, had⟩ := contentsFault?_eq_none_iff.1 kept
    obtain ⟨later, shrunk, step⟩ : ∃ later, shrinkPage target factor current page = (.ok (), later) ∧
        ShrinksPage factor stored (target.orientedLike page.size) items current later :=
      shrinkPage_of_contents shrinks.numbered (shrinks.room found split room) there
        (contents_eq_ok_iff.2 had)
    refine ⟨later, shrunk, shrinks.toFitsPages.advance located alike step.toFitsPage, ?_⟩
    intro other place member same
    -- The list in this place is the new one, and lists in other places are those of earlier pages.
    by_cases here : place = stored
    · obtain ⟨listing, present, listed⟩ := step.list
      exact here ▸ ⟨listing, _, present, listed⟩
    · rcases List.mem_append.1 member with earlier | last
      · obtain ⟨listing, list, present, listed⟩ := shrinks.lists earlier same
        exact ⟨listing, list, step.rewrites.kept present here, listed⟩
      · rw [List.mem_singleton.1 last, located] at same
        cases same
        exact absurd rfl here
  | some error =>
    rw [fault] at kept
    rw [shrinkPage_of_contents_error there (contents_eq_error_iff.2 kept)]

/-- Growing all pages always succeeds. -/
theorem eachPage_growPage_result (numbered : start.IsNumbered) :
    (start.eachPage (growPage target) measured).1 = .ok () := by
  -- No step of growing has a fault.
  have begin : FitsPages 0 target start [] start := .start numbered
  have result : (start.eachPage (growPage target) measured).1 =
      match measured.findSome? fun _ => none with
      | none => .ok ()
      | some error => .error error := by
    refine eachPage_result ?_ begin
    intro done page rest current split _ fits
    exact fits.grow found split
  have clean : measured.findSome? (fun _ => (none : Option FitError)) = none :=
    List.findSome?_eq_none_iff.2 fun _ _ => rfl
  rw [result, clean]

/-- Shrinking all pages ends with the first fault that the content of a page had at the start. -/
theorem eachPage_shrinkPage_result (numbered : start.IsNumbered) (references : start.ReferencesNumbered)
    (room : start.maxId + 2 * start.pages.length < UInt32.size) :
    (start.eachPage (shrinkPage target factor) measured).1 =
      match start.pages.findSome? fun page => start.contentsFault? page.id with
      | none => .ok ()
      | some error => .error error := by
  -- The faults are those of the document at the start, in the order of its pages.
  have begin : ShrinksPages target start [] start :=
    ⟨.start numbered, fun member => absurd member List.not_mem_nil⟩
  rw [← (measuredPages_eq_ok_iff.1 found).1, List.findSome?_map]
  refine eachPage_result ?_ begin
  intro done page rest current split clean shrinks
  exact shrinks.advance found references room split clean

end pass

/-! ### The decision -/

/--
Both extents of a page are within a tolerance of the target, which is turned for a page that is not upright.

Each bound is a product of two rounded numbers, and is rounded itself.
-/
def IsNear (tolerance : Single) (target page : PageSize) : Prop :=
  let limits : PageSize :=
    if page.width < page.height then target else ⟨target.height, target.width⟩
  (limits.width * (1 - tolerance) ≤ page.width ∧ page.width ≤ limits.width * (1 + tolerance)) ∧
    limits.height * (1 - tolerance) ≤ page.height ∧ page.height ≤ limits.height * (1 + tolerance)

/-- Some extent of a page is below that of the target, which is turned for a page that is not upright. -/
def IsShort (target page : PageSize) : Prop :=
  let limits : PageSize :=
    if page.width < page.height then target else ⟨target.height, target.width⟩
  page.width < limits.width ∨ page.height < limits.height

instance (tolerance : Single) (target page : PageSize) : Decidable (IsNear tolerance target page) :=
  inferInstanceAs (Decidable ((_ ∧ _) ∧ _ ∧ _))

instance (target page : PageSize) : Decidable (IsShort target page) :=
  inferInstanceAs (Decidable (_ ∨ _))

/-- Some page is not near the target and none is short of it, so that the worst quotient has to be taken away. -/
structure HasToShrink (document : Document) (tolerance : Single) (target : PageSize)
    (measured : List MeasuredPage) (ratio : Rat) : Prop where
  /-- The target can be fitted to. -/
  usable : target.isUsable
  /-- All pages have a size. -/
  found : document.measuredPages = .ok measured
  /-- The document cannot stay as it is. -/
  far : ∃ page ∈ measured, ¬ IsNear tolerance target page.size
  /-- There is nothing that has to grow. -/
  large : ∀ page ∈ measured, ¬ IsShort target page.size
  /-- Of what the pages have beyond the target, this is the largest share. -/
  largest : Scaling.LargestQuotient target (measured.map (·.size)) ratio

/-- A page has a fault, and no page that comes before it has one. -/
def IsFirstFault (document : Document) (fault? : Page → Option FitError) (page : Page)
    (error : FitError) : Prop :=
  ∃ done rest, document.pages = done ++ page :: rest ∧ (∀ earlier ∈ done, fault? earlier = none) ∧
    fault? page = some error

/--
What is decided about a document as it is before anything is changed.

The steps are those of the constructors in their order, and each of them says that no step before it applies.
-/
inductive Decides (document : Document) (tolerance : Single) (target : PageSize) :
    Except FitError Outcome → Prop where
  /-- A target with an extent that is not finite or not above zero is refused. -/
  | unusable
    (unusable : ¬ ((target.width.isFinite ∧ 0 < target.width) ∧
      target.height.isFinite ∧ 0 < target.height)) :
    Decides document tolerance target (.error (.target (.unusable target)))
  /-- The first page without a size is reported, for its box or for what the box measures. -/
  | unmeasured {page : Page} {error : FitError} (usable : target.isUsable)
    (first : document.IsFirstFault document.sizeFault? page error)
    (kind : error = .missingMediaBox page.number ∨ ∃ size, error = .invalidGeometry page.number size) :
    Decides document tolerance target (.error error)
  /-- A document with all its pages near the target stays. -/
  | unchanged {measured : List MeasuredPage} (usable : target.isUsable)
    (found : document.measuredPages = .ok measured)
    (near : ∀ page ∈ measured, IsNear tolerance target page.size) :
    Decides document tolerance target (.ok .unchanged)
  /-- A document with a page that is short of the target grows, whatever its contents are. -/
  | scaledUp {measured : List MeasuredPage} (usable : target.isUsable)
    (found : document.measuredPages = .ok measured)
    (far : ∃ page ∈ measured, ¬ IsNear tolerance target page.size)
    (short : ∃ page ∈ measured, IsShort target page.size) :
    Decides document tolerance target (.ok .scaledUp)
  /-- A document of which not a single ten-thousandth would be left is not shrunk. -/
  | tooSmall {measured : List MeasuredPage} {ratio : Rat}
    (shrinks : document.HasToShrink tolerance target measured ratio)
    (nothing : nearestInt (10000 * (1 - ratio)) = 0) :
    Decides document tolerance target (.error (.target (.tooSmall target)))
  /-- The first page with malformed contents is reported, as an operation on it that is refused. -/
  | malformed {measured : List MeasuredPage} {ratio : Rat} {page : Page} {error : FitError}
    (shrinks : document.HasToShrink tolerance target measured ratio)
    (something : nearestInt (10000 * (1 - ratio)) ≠ 0)
    (first : document.IsFirstFault (fun page => document.contentsFault? page.id) page error)
    (kind : ∃ cause, error = .operation cause ∧ cause.page? = some page.id) :
    Decides document tolerance target (.error error)
  /-- Any other document shrinks to what the largest quotient leaves of one, in whole ten-thousandths. -/
  | scaledDown {measured : List MeasuredPage} {ratio : Rat}
    (shrinks : document.HasToShrink tolerance target measured ratio)
    (something : nearestInt (10000 * (1 - ratio)) ≠ 0)
    (sound : ∀ page ∈ document.pages, document.contentsFault? page.id = none) :
    Decides document tolerance target
      (.ok (.scaledDown (.round (nearestInt (10000 * (1 - ratio)) / 10000))))

/-- The page with the first fault has it. -/
theorem IsFirstFault.fault {fault? : Page → Option FitError} {page : Page} {error : FitError}
    (first : document.IsFirstFault fault? page error) : fault? page = some error :=
  -- This is the last part of what a first fault is.
  let ⟨_, _, _, _, fault⟩ := first
  fault

/-- The first fault is what a search through the pages finds. -/
theorem exists_isFirstFault_iff {fault? : Page → Option FitError} {error : FitError} :
    (∃ page, document.IsFirstFault fault? page error) ↔ document.pages.findSome? fault? = some error := by
  -- A search for the first fault splits the list at the page that has it.
  rw [List.findSome?_eq_some_iff]
  constructor
  · rintro ⟨page, done, rest, split, clean, fault⟩
    exact ⟨done, page, rest, split, fault, clean⟩
  · rintro ⟨done, page, rest, split, fault, clean⟩
    exact ⟨page, done, rest, split, clean, fault⟩

section Decision

variable {measured : List MeasuredPage} {ratio : Rat} {answer : Except FitError Outcome}

/-- The tolerance test of a page asks whether it is near the target. -/
theorem pageFits_iff {page : PageSize} :
    options.pageFits target page ↔ IsNear options.tolerance target page := by
  -- The test takes the height first, and the limits by the orientation of the page.
  simp only [FitOptions.pageFits, FitOptions.extentFits, Bool.and_eq_true, decide_eq_true_eq, IsNear,
    PageSize.orientedLike, PageSize.isPortrait, PageSize.turned]
  exact and_comm

/-- A target exceeds the pages that are short of it. -/
theorem exceeds_iff {page : PageSize} : target.exceeds page ↔ IsShort target page := by
  -- The test asks about the two sides in the other order.
  simp only [PageSize.exceeds, Bool.or_eq_true, decide_eq_true_eq, IsShort, PageSize.orientedLike,
    PageSize.isPortrait, PageSize.turned]
  exact or_comm

/-- All sizes fit when every measured page is near the target. -/
theorem all_pageFits_iff (found : document.measuredPages = .ok measured) :
    document.sizes.all (options.pageFits target) ↔
      ∀ page ∈ measured, IsNear options.tolerance target page.size := by
  -- The sizes are those of the measured pages.
  rw [sizes_eq found, List.all_map, List.all_eq_true]
  simp only [Function.comp_apply, pageFits_iff]

/-- Some size falls short when a measured page is short of the target. -/
theorem any_exceeds_iff (found : document.measuredPages = .ok measured) :
    document.sizes.any target.exceeds ↔ ∃ page ∈ measured, IsShort target page.size := by
  -- The sizes are those of the measured pages.
  rw [sizes_eq found, List.any_map, List.any_eq_true]
  simp only [Function.comp_apply, exceeds_iff]

namespace HasToShrink

variable (shrinks : document.HasToShrink options.tolerance target measured ratio)

include shrinks

/-- No test of the pages as a whole finds one that fits or one that is too small. -/
theorem tests : document.sizes.all (options.pageFits target) = false ∧
    document.sizes.any target.exceeds = false := by
  -- The two tests of the fit have been restated above.
  rw [← Bool.not_eq_true, ← Bool.not_eq_true, all_pageFits_iff shrinks.found,
    any_exceeds_iff shrinks.found]
  constructor
  · intro near
    obtain ⟨page, listed, far⟩ := shrinks.far
    exact far (near page listed)
  · rintro ⟨page, listed, short⟩
    exact shrinks.large page listed short

/-- The worst fraction that is computed has the value of the largest quotient, as there is only one. -/
theorem worst : (Scaling.worstExcess target document.sizes).toRat? = some ratio ∧
    0 ≤ ratio ∧ ratio ≤ 1 := by
  -- Quotients have one largest value, and the worst fraction is a largest quotient too.
  have pagesUsable := usable_of_measuredPages shrinks.found
  have large := shrinks.tests.2
  obtain ⟨value, exact, nonneg, atMost⟩ := Scaling.isFraction_worstExcess shrinks.usable pagesUsable
  rw [sizes_eq shrinks.found] at large ⊢
  cases (Scaling.largestQuotient_worstExcess shrinks.usable pagesUsable large exact).unique
    shrinks.largest
  exact ⟨exact, nonneg, atMost⟩

/-- The factor that is computed is zero exactly when no ten-thousandth is left. -/
theorem isZero_iff : (Scaling.factorFor (Scaling.worstExcess target document.sizes)).isZero ↔
    nearestInt (10000 * (1 - ratio)) = 0 := by
  -- Rounding the factor is known for every worst fraction.
  obtain ⟨exact, nonneg, atMost⟩ := shrinks.worst
  exact Scaling.isZero_factorFor_iff exact nonneg atMost

/-- Any other factor that is computed is the number nearest to the ten-thousandths that are left. -/
theorem factor_eq (something : nearestInt (10000 * (1 - ratio)) ≠ 0) :
    Scaling.factorFor (Scaling.worstExcess target document.sizes) =
      .round (nearestInt (10000 * (1 - ratio)) / 10000) := by
  -- Rounding the factor is known for every worst fraction.
  obtain ⟨exact, nonneg, atMost⟩ := shrinks.worst
  exact Scaling.factorFor_eq_round exact nonneg atMost something

end HasToShrink

/-- Pages that are not all near the target, and not one of them short of it, have a largest quotient to lose. -/
theorem exists_hasToShrink (usable : target.isUsable) (found : document.measuredPages = .ok measured)
    (far : ∃ page ∈ measured, ¬ IsNear options.tolerance target page.size)
    (large : ∀ page ∈ measured, ¬ IsShort target page.size) :
    ∃ ratio, document.HasToShrink options.tolerance target measured ratio := by
  -- The worst fraction that is computed is a largest quotient.
  have inside : document.sizes.any target.exceeds = false := by
    rw [← Bool.not_eq_true, any_exceeds_iff found]
    rintro ⟨page, listed, short⟩
    exact large page listed short
  have pagesUsable := usable_of_measuredPages found
  obtain ⟨ratio, exact, _⟩ := Scaling.isFraction_worstExcess usable pagesUsable
  rw [sizes_eq found] at inside
  have largest := Scaling.largestQuotient_worstExcess usable pagesUsable inside exact
  exact ⟨ratio, usable, found, far, large, largest⟩

/-- One of the last three steps decides about a document that has to shrink. -/
theorem HasToShrink.exists_decides
    (shrinks : document.HasToShrink options.tolerance target measured ratio) :
    ∃ answer, document.Decides options.tolerance target answer := by
  -- First comes what would be left of the pages, then the first fault of their contents.
  by_cases nothing : nearestInt (10000 * (1 - ratio)) = 0
  · exact ⟨_, .tooSmall shrinks nothing⟩
  · cases fault : document.pages.findSome? fun page => document.contentsFault? page.id with
    | none => exact ⟨_, .scaledDown shrinks nothing (List.findSome?_eq_none_iff.1 fault)⟩
    | some error =>
      obtain ⟨page, first⟩ := exists_isFirstFault_iff.2 fault
      have refused := refusedPage?_of_contents_error (contents_eq_error_iff.2 first.fault)
      obtain ⟨cause, rfl⟩ := FitError.exists_operation refused
      exact ⟨_, .malformed shrinks nothing first ⟨cause, rfl, refused⟩⟩

/-- Something is decided about every document, whatever its tolerance and its target are. -/
theorem exists_decides (document : Document) (options : FitOptions) (target : PageSize) :
    ∃ answer, document.Decides options.tolerance target answer := by
  -- The steps are tried in their order, and where one does not decide, the next one can be reached.
  by_cases usable : target.isUsable
  · cases found : document.measuredPages with
    | error error =>
      obtain ⟨page, first⟩ := exists_isFirstFault_iff.2 (measuredPages_eq_error_iff.1 found)
      refine ⟨_, .unmeasured usable first ?_⟩
      rcases pageSize_error_cases (failure?_eq_some_iff.1 first.fault) with missing | ⟨size, _, invalid⟩
      · exact .inl missing
      · exact .inr ⟨size, invalid⟩
    | ok measured =>
      by_cases near : ∀ page ∈ measured, IsNear options.tolerance target page.size
      · exact ⟨_, .unchanged usable found near⟩
      · have far : ∃ page ∈ measured, ¬ IsNear options.tolerance target page.size := by
          simpa using near
        by_cases short : ∃ page ∈ measured, IsShort target page.size
        · exact ⟨_, .scaledUp usable found far short⟩
        · have large : ∀ page ∈ measured, ¬ IsShort target page.size :=
            fun page listed below => short ⟨page, listed, below⟩
          obtain ⟨ratio, shrinks⟩ := exists_hasToShrink usable found far large
          exact shrinks.exists_decides
  · exact ⟨_, .unusable (mt PageSize.isUsable_iff.2 usable)⟩

section Fit

variable (numbered : document.IsNumbered) (references : document.ReferencesNumbered)
  (room : document.maxId + 2 * document.pages.length < UInt32.size)

include numbered references room

/-- A document that has to shrink and can be is refused for the contents that it had, or shrinks by the factor. -/
theorem HasToShrink.fit_eq (shrinks : document.HasToShrink options.tolerance target measured ratio)
    (something : nearestInt (10000 * (1 - ratio)) ≠ 0) :
    (document.fit options target).1 =
      match document.pages.findSome? fun page => document.contentsFault? page.id with
      | none => .ok (.scaledDown (.round (nearestInt (10000 * (1 - ratio)) / 10000)))
      | some error => .error error := by
  obtain ⟨far, large⟩ := shrinks.tests
  have nonzero := mt shrinks.isZero_iff.1 something
  rw [← shrinks.factor_eq something, fit_of_measuredPages shrinks.usable shrinks.found]
  -- The contents are looked at page by page while the document changes.
  simp only [far, large, nonzero, Bool.false_eq_true, if_false,
    eachPage_shrinkPage_result shrinks.found numbered references room]
  cases document.pages.findSome? fun page => document.contentsFault? page.id with
  | none => rfl
  | some error => rfl

/-- A fit answers whatever is decided about the document as it was. -/
theorem Decides.fit_eq (decides : document.Decides options.tolerance target answer) :
    (document.fit options target).1 = answer := by
  cases decides with
  | unusable unusable =>
    rw [fit_of_not_isUsable (Bool.eq_false_of_not_eq_true (mt PageSize.isUsable_iff.1 unusable))]
  | unmeasured usable first _ =>
    -- The first page without a size ends the measuring.
    have fault := exists_isFirstFault_iff.1 ⟨_, first⟩
    rw [fit_of_measuredPages_error usable (measuredPages_eq_error_iff.2 fault)]
  | unchanged usable found near =>
    rw [fit_of_measuredPages usable found, if_pos ((all_pageFits_iff found).2 near)]
  | scaledUp usable found far short =>
    have outside : ¬ document.sizes.all (options.pageFits target) := by
      rw [all_pageFits_iff found]
      intro near
      obtain ⟨page, listed, apart⟩ := far
      exact apart (near page listed)
    rw [fit_of_measuredPages usable found, if_neg outside, if_pos ((any_exceeds_iff found).2 short),
      eachPage_growPage_result found numbered]
    rfl
  | tooSmall shrinks nothing =>
    obtain ⟨far, large⟩ := shrinks.tests
    have zero := shrinks.isZero_iff.2 nothing
    simp only [fit_of_measuredPages shrinks.usable shrinks.found, far, large, zero,
      Bool.false_eq_true, if_false, if_true]
  | malformed shrinks something first _ =>
    rw [shrinks.fit_eq numbered references room something, exists_isFirstFault_iff.1 ⟨_, first⟩]
  | scaledDown shrinks something sound =>
    rw [shrinks.fit_eq numbered references room something, List.findSome?_eq_none_iff.2 sound]

/--
A fit answers what is decided about the document as it was, and nothing else.

For every document, target and tolerance the decision has one answer, although faults of the contents are only
found between changes to the document.
-/
theorem fit_eq_iff_decides :
    (document.fit options target).1 = answer ↔ document.Decides options.tolerance target answer := by
  -- One direction is that each step is what a fit does; the other needs that some step always decides.
  constructor
  · -- Something is decided, and the fit answers that.
    rintro rfl
    obtain ⟨answer, decides⟩ := exists_decides document options target
    exact (decides.fit_eq numbered references room).symm ▸ decides
  · exact Decides.fit_eq numbered references room

end Fit

end Decision

/-- A page without a media box. -/
def boxlessPage : Document :=
  ofKids .null [.dictionary [(ascii "Type", .name (ascii "Page")), (ascii "Parent", .reference ⟨2, 0⟩)]]

/-- A page without content, and a page behind it whose content entry is a number. -/
def faultyPage : Document :=
  ofKids (.array [.integer 0, .integer 0, .integer 500, .integer 600])
    [.dictionary [(ascii "Type", .name (ascii "Page")), (ascii "Parent", .reference ⟨2, 0⟩)],
      .dictionary [(ascii "Type", .name (ascii "Page")), (ascii "Parent", .reference ⟨2, 0⟩),
        (ascii "Contents", .integer 7)]]

/--
Each step of the decision, on a document to which those before it do not apply.

Growing and a target that is too small come before malformed contents. The pages that stay, and those that shrink
for a tie of half a ten-thousandth, are an upright one and one on its side.
-/
theorem faultyPage_decides :
    (boxlessPage.IsNumbered ∧ boxlessPage.ReferencesNumbered ∧
      boxlessPage.maxId + 2 * boxlessPage.pages.length < UInt32.size) ∧
    (faultyPage.IsNumbered ∧ faultyPage.ReferencesNumbered ∧
      faultyPage.maxId + 2 * faultyPage.pages.length < UInt32.size) ∧
    (nearbyPages.IsNumbered ∧ nearbyPages.ReferencesNumbered ∧
      nearbyPages.maxId + 2 * nearbyPages.pages.length < UInt32.size) ∧
    (boxlessPage.fit {} ⟨0, 600⟩).1 = .error (.target (.unusable ⟨0, 600⟩)) ∧
    (boxlessPage.fit {} ⟨500, 600⟩).1 = .error (.missingMediaBox 1) ∧
    (nearbyPages.fit {} ⟨500, 600⟩).1 = .ok .unchanged ∧
    (faultyPage.fit {} ⟨500, 700⟩).1 = .ok .scaledUp ∧
    (faultyPage.fit {} ⟨0.0078125, 0.0078125⟩).1 =
      .error (.target (.tooSmall ⟨0.0078125, 0.0078125⟩)) ∧
    (faultyPage.fit {} ⟨250, 300⟩).1 = .error (.operation (.contentsMalformed ⟨4, 0⟩)) ∧
    (nearbyPages.fit {} ⟨484.375, 600⟩).1 = .ok (.scaledDown (.round (9688 / 10000))) := by
  have boxless : boxlessPage.IsNumbered ∧ boxlessPage.ReferencesNumbered ∧
      boxlessPage.maxId + 2 * boxlessPage.pages.length < UInt32.size :=
    ⟨isNumbered_ofKids _ _, referencesNumbered_ofKids (by decide) (by decide), by decide +kernel⟩
  have faulty : faultyPage.IsNumbered ∧ faultyPage.ReferencesNumbered ∧
      faultyPage.maxId + 2 * faultyPage.pages.length < UInt32.size :=
    ⟨isNumbered_ofKids _ _, referencesNumbered_ofKids (by decide) (by decide), by decide +kernel⟩
  have nearby : nearbyPages.IsNumbered ∧ nearbyPages.ReferencesNumbered ∧
      nearbyPages.maxId + 2 * nearbyPages.pages.length < UInt32.size :=
    ⟨isNumbered_ofKids _ _, referencesNumbered_ofKids (by decide) (by decide), by decide +kernel⟩
  -- A fit of such a document answers what is decided about it with the tolerance that options have by default.
  have answers {document : Document} {target answer} (ordinary : document.IsNumbered ∧
      document.ReferencesNumbered ∧ document.maxId + 2 * document.pages.length < UInt32.size)
      (decides : document.Decides 0.01 target answer) : (document.fit {} target).1 = answer :=
    (fit_eq_iff_decides ordinary.1 ordinary.2.1 ordinary.2.2).2 decides
  have found : faultyPage.measuredPages =
      .ok [⟨⟨1, ⟨3, 0⟩⟩, ⟨500, 600⟩⟩, ⟨⟨2, ⟨4, 0⟩⟩, ⟨500, 600⟩⟩] := by
    decide +kernel
  have unmeasured : boxlessPage.IsFirstFault boxlessPage.sizeFault? ⟨1, ⟨3, 0⟩⟩ (.missingMediaBox 1) :=
    ⟨[], [], by decide +kernel, by decide +kernel, by decide +kernel⟩
  have malformed : faultyPage.IsFirstFault (fun page => faultyPage.contentsFault? page.id) ⟨2, ⟨4, 0⟩⟩
      (.operation (.contentsMalformed ⟨4, 0⟩)) :=
    ⟨[⟨1, ⟨3, 0⟩⟩], [], by decide +kernel, by decide +kernel, by decide +kernel⟩
  have vanishes : faultyPage.HasToShrink 0.01 ⟨0.0078125, 0.0078125⟩ _ (8388499 / 8388608) :=
    ⟨by decide +kernel, found, by decide +kernel, by decide +kernel, by decide +kernel⟩
  have halves : faultyPage.HasToShrink 0.01 ⟨250, 300⟩ _ (1 / 2) :=
    ⟨by decide +kernel, found, by decide +kernel, by decide +kernel, by decide +kernel⟩
  have shrinks : nearbyPages.HasToShrink 0.01 ⟨484.375, 600⟩ _ (1 / 32) :=
    ⟨by decide +kernel, measuredPages_nearbyPages, by decide +kernel, by decide +kernel,
      by decide +kernel⟩
  -- The share that is left is a tie, and goes to the even ten-thousandth.
  have places : nearestInt (10000 * (1 - 1 / 32)) = 9688 := by decide +kernel
  have scaled := answers nearby (.scaledDown shrinks (by decide +kernel) (by decide +kernel))
  rw [places] at scaled
  exact ⟨boxless, faulty, nearby, answers boxless (.unusable (by decide +kernel)),
    answers boxless (.unmeasured (by decide +kernel) unmeasured (.inl rfl)),
    answers nearby (.unchanged (by decide +kernel) measuredPages_nearbyPages (by decide +kernel)),
    answers faulty (.scaledUp (by decide +kernel) found (by decide +kernel) (by decide +kernel)),
    answers faulty (.tooSmall vanishes (by decide +kernel)),
    answers faulty (.malformed halves (by decide +kernel) malformed ⟨_, rfl, rfl⟩), scaled⟩

end PdfResize.Document
