import PdfResize.Error
import PdfResize.Number.Numeral

/-! The options of a fit. -/

namespace PdfResize

/-- The options of a fit. -/
structure FitOptions where
  /-- The fraction by which an extent may differ from the target in either direction and still fit it. -/
  tolerance : Single := 0.01
deriving DecidableEq

namespace FitOptions

/-- The environment variable that sets the tolerance. -/
def toleranceVariable : String := "PAGEFIT_TOLERANCE"

/-- A tolerance that is not a fraction is refused. -/
def validate (options : FitOptions) : Except FitError Unit :=
  if options.tolerance.isFinite ∧ 0 ≤ options.tolerance ∧ options.tolerance < 1 then .ok ()
  else .error (.operation (.tolerance options.tolerance))

/-- Options with a tolerance, which has to be a fraction. -/
def withTolerance (tolerance : Single) : Except FitError FitOptions := do
  let options : FitOptions := ⟨tolerance⟩
  options.validate
  return options

/-- Options from the value of the environment variable; one that is missing or no fraction is passed over. -/
def ofEnvironment (value : Option String) : FitOptions :=
  let options? := do
    let tolerance ← Binary.ofText? (trimBlank (← value))
    (withTolerance tolerance).toOption
  options?.getD {}

end FitOptions

end PdfResize
