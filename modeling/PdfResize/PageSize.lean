import PdfResize.Number.Decimal
import PdfResize.Text.Blank

/-! Page sizes in points, and the paper sizes that have a name. -/

namespace PdfResize

/-- The size of a page in points, of which an inch has 72. -/
structure PageSize where
  /-- The extent from left to right. -/
  width : Single
  /-- The extent from bottom to top. -/
  height : Single
deriving DecidableEq

namespace PageSize

/-- Points in a millimetre, of which an inch has 25.4. -/
def pointsPerMillimetre : Single := 1 / (10 * 2.54) * 72

/-- The size of a sheet measured in millimetres. -/
def ofMillimetres (width height : Single) : PageSize :=
  ⟨width * pointsPerMillimetre, height * pointsPerMillimetre⟩

/-- The sheet of ISO 216 that documents are fitted to by default. -/
def a4 : PageSize := ofMillimetres 210 297

/-- The paper sizes that have a name. -/
def named : List (String × PageSize) :=
  [("A0", ofMillimetres 841 1189),
    ("A1", ofMillimetres 594 841),
    ("A2", ofMillimetres 420 594),
    ("A3", ofMillimetres 297 420),
    ("A4", a4),
    ("A5", ofMillimetres 148 210),
    ("A6", ofMillimetres 105 148),
    ("LETTER", ⟨612, 792⟩),
    ("LEGAL", ⟨612, 1008⟩)]

/-- The form in which names of sizes are compared: in upper case and without blanks around them. -/
def normalName (name : String) : String := (trimBlank name).map Char.toUpper

/-- The size with a name. -/
def ofName? (name : String) : Option PageSize := named.lookup (normalName name)

/-- Taller than wide; a square counts as lying on its side. -/
def isPortrait (size : PageSize) : Bool := size.width < size.height

/-- The size turned on its side. -/
def turned (size : PageSize) : PageSize := ⟨size.height, size.width⟩

/-- Both extents are finite and above zero, as those of a sheet are. -/
def isUsable (size : PageSize) : Bool :=
  size.width.isFinite && size.height.isFinite && 0 < size.width && 0 < size.height

/-- A target as it applies to a page: upright for an upright page and turned for any other. -/
def orientedLike (target page : PageSize) : PageSize :=
  if page.isPortrait then target else target.turned

/-- The size to two decimal places. -/
def text (size : PageSize) : String :=
  size.width.fixedText 2 ++ " x " ++ size.height.fixedText 2 ++ " pt"

/-- Both extents with as many digits as they need. -/
def exactText (size : PageSize) : String := size.width.text ++ " x " ++ size.height.text

end PageSize

end PdfResize
