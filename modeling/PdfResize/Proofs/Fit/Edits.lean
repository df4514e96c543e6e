import PdfResize.Fit.Apply

/-! Whatever is asked of a document is done as a row of edits to single pages, up to the first that fails. -/

namespace PdfResize

/-- One change to one page. -/
inductive Edit where
  /-- All boxes of a page are set to a size. -/
  | boxes (id : ObjectId) (size : PageSize)
  /-- The content of a page is put between the two streams that scale it. -/
  | scaling (id : ObjectId) (factor : Single)

/-- Something that is asked of a document. -/
inductive Request where
  /-- Fit the pages to a target. -/
  | fit (options : FitOptions) (target : PageSize)
  /-- Fit the pages to a sheet of A4. -/
  | fitA4 (options : FitOptions)
  /-- Set the boxes of all pages and scale their content. -/
  | scaleDown (factor : Double) (target : PageSize)
  /-- Set the boxes of all pages. -/
  | scaleUp (target : PageSize)
  /-- Scale the content of one page. -/
  | scaleContent (id : ObjectId) (factor : Single)

namespace Document

/-- What an edit does, and the document it leaves behind. -/
def edit (document : Document) : Edit → Except FitError Unit × Document
  | .boxes id size =>
    match document.setPageBoxes id size with
    | .ok boxed => (.ok (), boxed)
    | .error error => (.error error, document)
  | .scaling id factor => document.scaleContent id factor

/-- Make edits one after another; the first that fails ends this, and earlier ones stay made. -/
def editAll : Document → List Edit → Except FitError Unit × Document
  | document, [] => (.ok (), document)
  | document, first :: rest =>
    match document.edit first with
    | (.ok (), edited) => editAll edited rest
    | (.error error, edited) => (.error error, edited)

/-- The edits that growing the pages comes to. -/
def growEdits (target : PageSize) (pages : List MeasuredPage) : List Edit :=
  pages.flatMap fun page => [.boxes page.id (target.orientedLike page.size)]

/-- The edits that shrinking the pages comes to. -/
def shrinkEdits (target : PageSize) (factor : Single) (pages : List MeasuredPage) : List Edit :=
  pages.flatMap fun page =>
    [.boxes page.id (target.orientedLike page.size), .scaling page.id factor]

/-- The edits that setting the boxes of all pages comes to. -/
def scaleUpEdits (document : Document) (target : PageSize) : List Edit :=
  match target.validate, document.measuredPages with
  | .ok (), .ok measured => growEdits target measured
  | _, _ => []

/-- The edits that scaling all pages comes to. -/
def scaleDownEdits (document : Document) (factor : Double) (target : PageSize) : List Edit :=
  match target.validate, validateFactor factor, document.measuredPages with
  | .ok (), .ok (), .ok measured => shrinkEdits target factor.convert measured
  | _, _, _ => []

/-- The edits that a fit comes to, none when the pages fit or the fit is refused. -/
def fitEdits (document : Document) (options : FitOptions) (target : PageSize) : List Edit :=
  match document.isWithin options target, document.requiredScaling target with
  | .ok false, .ok .grow => document.scaleUpEdits target
  | .ok false, .ok (.shrink factor) => document.scaleDownEdits factor target
  | _, _ => []

/-- The edits that a request comes to, all chosen before the first of them is made. -/
def edits (document : Document) : Request → List Edit
  | .fit options target => document.fitEdits options target
  | .fitA4 options => document.fitEdits options .a4
  | .scaleDown factor target => document.scaleDownEdits factor target
  | .scaleUp target => document.scaleUpEdits target
  | .scaleContent id factor => [.scaling id factor]

/-- The document that a request leaves behind, whether it succeeds or fails. -/
def handle (document : Document) : Request → Document
  | .fit options target => (document.fit options target).2
  | .fitA4 options => (document.fitA4 options).2
  | .scaleDown factor target => (document.scaleDown factor target).2
  | .scaleUp target => (document.scaleUp target).2
  | .scaleContent id factor => (document.scaleContent id factor).2

/-- The document that requests leave behind when they are handled one after another. -/
def handleAll (document : Document) (requests : List Request) : Document :=
  requests.foldl handle document

variable {document : Document} {target : PageSize} {factor : Single}

/-- Setting boxes either succeeds or leaves the document as it was. -/
theorem edit_boxes (document : Document) (id : ObjectId) (size : PageSize) :
    document.edit (.boxes id size) =
      match document.setPageBoxes id size with
      | .ok boxed => (.ok (), boxed)
      | .error error => (.error error, document) := rfl

/-- A row of edits stops at the first that fails. -/
theorem editAll_cons (document : Document) (first : Edit) (rest : List Edit) :
    document.editAll (first :: rest) =
      match document.edit first with
      | (.ok (), edited) => edited.editAll rest
      | (.error error, edited) => (.error error, edited) := rfl

/-- A row of one edit is that edit. -/
theorem editAll_singleton (document : Document) (edit : Edit) :
    document.editAll [edit] = document.edit edit := by
  -- There is nothing behind it to be stopped.
  rw [editAll_cons]
  cases document.edit edit with
  | mk answer edited =>
    cases answer with
    | error error => rfl
    | ok _ => rfl

/-- A row behind a row is made when the first row has not failed. -/
theorem editAll_append (document : Document) (first rest : List Edit) :
    document.editAll (first ++ rest) =
      match document.editAll first with
      | (.ok (), edited) => edited.editAll rest
      | (.error error, edited) => (.error error, edited) := by
  induction first generalizing document with
  | nil => rfl
  | cons edit more ih =>
    rw [List.cons_append, editAll_cons, editAll_cons]
    -- When the first edit fails, neither row is carried any further.
    split
    · exact ih _
    · rfl

/-- A pass over the pages makes the edits of its steps one after another. -/
theorem eachPage_eq_editAll {step : Document → MeasuredPage → Except FitError Unit × Document}
    {editsOf : MeasuredPage → List Edit}
    (same : ∀ current page, step current page = current.editAll (editsOf page))
    (document : Document) (pages : List MeasuredPage) :
    document.eachPage step pages = document.editAll (pages.flatMap editsOf) := by
  induction pages generalizing document with
  | nil => rfl
  | cons page rest ih =>
    rw [List.flatMap_cons, editAll_append, ← same]
    unfold eachPage
    cases step document page with
    | mk answer stepped =>
      -- The pass goes on where the edits do.
      cases answer with
      | error error => rfl
      | ok _ => exact ih stepped

/-- Growing all pages is a row of edits. -/
theorem eachPage_growPage_eq (target : PageSize) (document : Document) (pages : List MeasuredPage) :
    document.eachPage (growPage target) pages = document.editAll (growEdits target pages) := by
  -- Each step of the pass is one edit.
  apply eachPage_eq_editAll
  intro current page
  rw [editAll_singleton]
  rfl

/-- Shrinking all pages is a row of edits. -/
theorem eachPage_shrinkPage_eq (target : PageSize) (factor : Single) (document : Document)
    (pages : List MeasuredPage) :
    document.eachPage (shrinkPage target factor) pages =
      document.editAll (shrinkEdits target factor pages) := by
  apply eachPage_eq_editAll
  intro current page
  -- Without its new boxes a page is not scaled either.
  rw [editAll_cons, edit_boxes]
  unfold shrinkPage
  cases current.setPageBoxes page.id (target.orientedLike page.size) with
  | error error => rfl
  | ok boxed => exact (editAll_singleton boxed (.scaling page.id factor)).symm

/-- Scaling up leaves the document that its edits leave. -/
theorem scaleUp_eq_editAll (document : Document) (target : PageSize) :
    (document.scaleUp target).2 = (document.editAll (document.scaleUpEdits target)).2 := by
  -- Unless the pages are reached, there are no edits and nothing has been changed.
  unfold scaleUp scaleUpEdits
  cases target.validate with
  | error error => rfl
  | ok _ =>
    cases document.measuredPages with
    | error error => rfl
    | ok measured => exact congrArg Prod.snd (eachPage_growPage_eq target document measured)

/-- Scaling down leaves the document that its edits leave. -/
theorem scaleDown_eq_editAll (document : Document) (factor : Double) (target : PageSize) :
    (document.scaleDown factor target).2 =
      (document.editAll (document.scaleDownEdits factor target)).2 := by
  -- Unless the pages are reached, there are no edits and nothing has been changed.
  unfold scaleDown scaleDownEdits
  cases target.validate with
  | error error => rfl
  | ok _ =>
    cases validateFactor factor with
    | error error => rfl
    | ok _ =>
      cases document.measuredPages with
      | error error => rfl
      | ok measured =>
        exact congrArg Prod.snd (eachPage_shrinkPage_eq target factor.convert document measured)

/-- A fit leaves the document that its edits leave. -/
theorem fit_eq_editAll (document : Document) (options : FitOptions) (target : PageSize) :
    (document.fit options target).2 = (document.editAll (document.fitEdits options target)).2 := by
  unfold fit fitEdits
  cases document.isWithin options target with
  | error error => rfl
  | ok within =>
    cases within with
    | true => rfl
    | false =>
      -- The pages do not fit, so the scaling decides what is done.
      cases document.requiredScaling target with
      | error error => rfl
      | ok scaling =>
        cases scaling with
        | grow => exact scaleUp_eq_editAll document target
        | shrink factor => exact scaleDown_eq_editAll document factor target

/-- Handling a request is making the edits that it comes to. -/
theorem handle_eq_editAll (document : Document) (request : Request) :
    document.handle request = (document.editAll (document.edits request)).2 := by
  -- Each kind of request is one of the operations above.
  cases request with
  | fit options target => exact fit_eq_editAll document options target
  | fitA4 options => exact fit_eq_editAll document options .a4
  | scaleDown factor target => exact scaleDown_eq_editAll document factor target
  | scaleUp target => exact scaleUp_eq_editAll document target
  | scaleContent id factor =>
    show (document.scaleContent id factor).2 = (document.editAll [.scaling id factor]).2
    rw [editAll_singleton]
    rfl

end Document

end PdfResize
