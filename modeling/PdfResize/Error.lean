import PdfResize.Document.Basic
import PdfResize.PageSize

/-! What can go wrong when a document is fitted, by cause, and the wording of each cause. -/

namespace PdfResize

/-- Why a size cannot be fitted to. -/
inductive TargetError where
  /-- No size has the name. -/
  | unknown (name : String)
  /-- An extent is not finite or not above zero. -/
  | unusable (size : PageSize)
  /-- The document would have to shrink to nothing. -/
  | tooSmall (size : PageSize)
deriving DecidableEq

/-- The wording of a target error. -/
def TargetError.message : TargetError → String
  | unknown name => "Unknown page size: " ++ name
  | unusable size => size.exactText
  | tooSmall size => size.text ++ " is too small to scale the document into"

/-- Why an operation on a document is refused. -/
inductive OperationError where
  /-- The tolerance is not a fraction. -/
  | tolerance (value : Single)
  /-- The factor would not shrink anything, or would leave nothing. -/
  | factor (value : Double)
  /-- The page cannot be reached as a dictionary. -/
  | page (id : ObjectId) (cause : AccessError)
  /-- The reference to the content of the page leads nowhere. -/
  | contents (id : ObjectId) (cause : AccessError)
  /-- The reference to the content of the page leads to something without content. -/
  | contentsType (id : ObjectId)
  /-- The content entry of the page is of a type that names no content. -/
  | contentsMalformed (id : ObjectId)
  /-- The document cannot be saved, for a reason that is worded by what saves it. -/
  | save (cause : String)
deriving DecidableEq

/-- An id as it is named in messages. -/
def ObjectId.text (id : ObjectId) : String :=
  "(" ++ toString id.number ++ ", " ++ toString id.generation ++ ")"

/-- The wording of an operation error. -/
def OperationError.message : OperationError → String
  | tolerance value => "Tolerance must be in [0, 1), got " ++ value.text
  | factor value => "Scale factor must be in (0, 1], got " ++ value.text
  | page id cause => "Page " ++ id.text ++ ": " ++ cause.message
  | contents id cause => "Page " ++ id.text ++ " /Contents: " ++ cause.message
  | contentsType id => "Page " ++ id.text ++ " /Contents is neither a stream nor an array"
  | contentsMalformed id => "Page " ++ id.text ++ " has malformed /Contents"
  | save cause => "Save failed: " ++ cause

/-- What can go wrong when a document is fitted. -/
inductive FitError where
  /-- The bytes are no document, for a reason that is worded by what loads them. -/
  | load (cause : String)
  /-- A page has an extent that is not finite or not above zero. -/
  | invalidGeometry (page : Nat) (size : PageSize)
  /-- A page has no rectangle that could be measured. -/
  | missingMediaBox (page : Nat)
  /-- The target is refused. -/
  | target (cause : TargetError)
  /-- An operation is refused. -/
  | operation (cause : OperationError)
deriving DecidableEq

/-- The wording of a fit error. -/
def FitError.message : FitError → String
  | load cause => "Failed to parse PDF: " ++ cause
  | invalidGeometry page size =>
    "Page " ++ toString page ++ " has invalid geometry (" ++ size.exactText ++ ")"
  | missingMediaBox page => "Page " ++ toString page ++ " has no usable MediaBox"
  | target cause => "Invalid target page size: " ++ cause.message
  | operation cause => "PDF operation failed: " ++ cause.message

namespace PageSize

/-- The size with a name, or the error that no size has it. -/
def ofName (name : String) : Except FitError PageSize :=
  match ofName? name with
  | some size => .ok size
  | none => .error (.target (.unknown (normalName name)))

/-- A size that cannot be a target is refused. -/
def validate (size : PageSize) : Except FitError Unit :=
  if size.isUsable then .ok () else .error (.target (.unusable size))

end PageSize

end PdfResize
