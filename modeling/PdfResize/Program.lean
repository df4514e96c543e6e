import PdfResize.Command.Basic
import PdfResize.PlainFile.Save

/-! The program as it runs: counting, fitting and commands on plain files. -/

namespace PdfResize

/-- Plain files are loaded and saved as they are written; there is nothing that keeps them from being saved. -/
def Codec.plain : Codec where
  Layout := PlainFile.Layout
  load bytes := (PlainFile.load bytes).mapError LoadError.message
  save file := .ok (PlainFile.save file)

namespace File

/-- The number of pages in a plain file. -/
def pageCount (bytes : Bytes) : Except FitError Nat := Codec.plain.pageCount bytes

/-- Fit a plain file to a target. -/
def fit (bytes : Bytes) (target : PageSize) (options : FitOptions) : Except FitError (Option Bytes) :=
  Codec.plain.fit bytes target options

end File

/-- Carry out a command on a plain file. -/
def Command.run (command : Command) : Response := Codec.plain.run command

end PdfResize
