import PdfResize.Document.PageBox
import PdfResize.Options

/-! Whether a document already fits a target, and how it would have to be scaled if not. -/

namespace PdfResize

namespace FitOptions

/-- An extent is within the tolerance of its limit, above or below it. -/
def extentFits (options : FitOptions) (extent limit : Single) : Bool :=
  limit * (1 - options.tolerance) ≤ extent && extent ≤ limit * (1 + options.tolerance)

/-- Both extents of a page are within the tolerance of the target as it applies to the page. -/
def pageFits (options : FitOptions) (target page : PageSize) : Bool :=
  let limits := target.orientedLike page
  options.extentFits page.height limits.height && options.extentFits page.width limits.width

end FitOptions

/-- How the pages of a document have to change to match a target. -/
inductive Scaling where
  /-- The content is multiplied by a factor. -/
  | shrink (factor : Double)
  /-- Some page is smaller than the target, so only the boxes grow. -/
  | grow
deriving DecidableEq

namespace Scaling

/-- The number of decimal places that a factor keeps. -/
def decimalPlaces : Int := 4

/-- The fraction of an extent that lies beyond its limit, zero when the extent is inside. -/
def excess (extent limit : Single) : Single :=
  let overage := extent - limit
  if 0 < overage then overage / extent else 0

/-- A page falls short of the target, as it applies to the page, in some extent. -/
def fallsShort (target page : PageSize) : Bool :=
  let limits := target.orientedLike page
  page.height - limits.height < 0 || page.width - limits.width < 0

/-- The larger one of a fraction and the fractions of a page beyond the target. -/
def widen (target : PageSize) (worst : Single) (page : PageSize) : Single :=
  let limits := target.orientedLike page
  (worst.larger (excess page.height limits.height)).larger (excess page.width limits.width)

/-- The largest fraction of any extent of any page that lies beyond the target. -/
def worstExcess (target : PageSize) (pages : List PageSize) : Single :=
  pages.foldl (widen target) 0

/-- The factor that takes a fraction away, rounded to the decimal places that a factor keeps. -/
def factorFor (worst : Single) : Double :=
  Binary.roundToPlaces decimalPlaces (1 - worst.convert)

/-- The scaling that brings pages of these sizes to a target; it may not shrink them to nothing. -/
def required (target : PageSize) (pages : List PageSize) : Except FitError Scaling :=
  if pages.any (fallsShort target) then .ok .grow
  else
    let factor := factorFor (worstExcess target pages)
    if factor ≤ 0 then .error (.target (.tooSmall target)) else .ok (.shrink factor)

end Scaling

namespace Document

/-- Every page is within the tolerance of the target. -/
def isWithin (document : Document) (options : FitOptions) (target : PageSize) :
    Except FitError Bool := do
  target.validate
  return (← document.measuredPages).all fun page => options.pageFits target page.size

/-- The scaling that brings every page of the document to the target. -/
def requiredScaling (document : Document) (target : PageSize) : Except FitError Scaling := do
  target.validate
  Scaling.required target ((← document.measuredPages).map (·.size))

end Document

end PdfResize
