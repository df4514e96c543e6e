import PdfResize.Document.Content
import PdfResize.Fit.Decision

/-! Bringing the pages of a document to a target; each operation also answers the document it leaves behind. -/

namespace PdfResize

/-- What a fit did to a document. -/
inductive Outcome where
  /-- Every page was within tolerance, and nothing was done. -/
  | unchanged
  /-- The boxes were set to the target and the content was scaled by a factor. -/
  | scaledDown (factor : Double)
  /-- The boxes were set to the target around content at its own scale. -/
  | scaledUp
deriving DecidableEq

/-- The document is another one than before. -/
def Outcome.isChanged : Outcome → Bool
  | unchanged => false
  | scaledDown _ | scaledUp => true

namespace Document

/-- Take a step for each page in turn; a failing step ends this, and earlier steps stay done. -/
def eachPage (step : Document → MeasuredPage → Except FitError Unit × Document) :
    Document → List MeasuredPage → Except FitError Unit × Document
  | document, [] => (.ok (), document)
  | document, page :: rest =>
    match step document page with
    | (.ok (), stepped) => eachPage step stepped rest
    | (.error error, stepped) => (.error error, stepped)

/-- Set the boxes of a page to the target as it applies to the page. -/
def growPage (target : PageSize) (document : Document) (page : MeasuredPage) :
    Except FitError Unit × Document :=
  match document.setPageBoxes page.id (target.orientedLike page.size) with
  | .ok boxed => (.ok (), boxed)
  | .error error => (.error error, document)

/-- Set the boxes of a page to the target as it applies to the page, and scale its content. -/
def shrinkPage (target : PageSize) (factor : Single) (document : Document) (page : MeasuredPage) :
    Except FitError Unit × Document :=
  match document.setPageBoxes page.id (target.orientedLike page.size) with
  | .ok boxed => boxed.scaleContent page.id factor
  | .error error => (.error error, document)

/-- A factor shrinks when it is at most one and leaves something. -/
def validateFactor (factor : Double) : Except FitError Unit :=
  if 0 < factor ∧ factor ≤ 1 then .ok () else .error (.operation (.factor factor))

/-- Set the boxes of every page to the target and scale the content by a factor. -/
def scaleDown (document : Document) (factor : Double) (target : PageSize) :
    Except FitError Unit × Document :=
  -- All pages are measured before the first of them is changed.
  let measured := do
    target.validate
    validateFactor factor
    document.measuredPages
  match measured with
  | .ok pages => document.eachPage (shrinkPage target factor.convert) pages
  | .error error => (.error error, document)

/-- Set the boxes of every page to the target and leave the content alone. -/
def scaleUp (document : Document) (target : PageSize) : Except FitError Unit × Document :=
  let measured := do
    target.validate
    document.measuredPages
  match measured with
  | .ok pages => document.eachPage (growPage target) pages
  | .error error => (.error error, document)

/-- Fit every page to the target: leave a document that fits, shrink a large one, grow the boxes otherwise. -/
def fit (document : Document) (options : FitOptions) (target : PageSize) :
    Except FitError Outcome × Document :=
  let decision := do
    if ← document.isWithin options target then return none
    return some (← document.requiredScaling target)
  match decision with
  | .error error => (.error error, document)
  | .ok none => (.ok .unchanged, document)
  | .ok (some .grow) =>
    let (result, grown) := document.scaleUp target
    (result.map fun _ => .scaledUp, grown)
  | .ok (some (.shrink factor)) =>
    let (result, shrunk) := document.scaleDown factor target
    (result.map fun _ => .scaledDown factor, shrunk)

/-- Fit every page to a sheet of A4. -/
def fitA4 (document : Document) (options : FitOptions) : Except FitError Outcome × Document :=
  document.fit options .a4

end Document

end PdfResize
