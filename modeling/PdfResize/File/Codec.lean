import PdfResize.Fit.Apply

/-! Files with documents: counting their pages and fitting them, whatever reads and writes the files. -/

namespace PdfResize

/-- A document as a file holds it. -/
structure File (Layout : Type) where
  /-- What the file has beyond the document, such as its version. -/
  layout : Layout
  /-- The document. -/
  document : Document

/--
What loads and saves files.

Nothing is known of the two functions here. Where a theorem relies on something about them, it says so.
-/
structure Codec where
  /-- What a file has beyond its document. -/
  Layout : Type
  /-- Load the file that bytes hold, or word why they hold none. -/
  load : Bytes → Except String (File Layout)
  /-- Save a file and say how that leaves it, or word why it cannot be saved. -/
  save : File Layout → Except String (Bytes × File Layout)

/-- Fit the document of a file, and say what that did to it. -/
def File.fitDocument {Layout : Type} (file : File Layout) (options : FitOptions)
    (target : PageSize) : Except FitError (Outcome × File Layout) := do
  -- What a failing fit leaves behind is not kept.
  let (result, document) := file.document.fit options target
  return (← result, { file with document })

namespace Codec

/-- Load a file, where failing is an error of a fit. -/
def read (codec : Codec) (bytes : Bytes) : Except FitError (File codec.Layout) :=
  (codec.load bytes).mapError .load

/-- Save a file, where failing is an error of a fit. -/
def write (codec : Codec) (file : File codec.Layout) : Except FitError (Bytes × File codec.Layout) :=
  (codec.save file).mapError fun cause => .operation (.save cause)

/-- The number of pages in a file. -/
def pageCount (codec : Codec) (bytes : Bytes) : Except FitError Nat := do
  return (← codec.read bytes).document.pages.length

/-- Fit a file to a target; a file that already fits gives no new bytes. -/
def fit (codec : Codec) (bytes : Bytes) (target : PageSize) (options : FitOptions) :
    Except FitError (Option Bytes) := do
  options.validate
  let (outcome, fitted) ← (← codec.read bytes).fitDocument options target
  if outcome.isChanged then return some (← codec.write fitted).1 else return none

end Codec

end PdfResize
