/-! The blank characters of Unicode, and texts without them at their ends. -/

namespace PdfResize

/-- The characters that carry the Unicode property White_Space, as first and last of each run. -/
def blankRanges : List (Nat × Nat) :=
  [(0x09, 0x0D), (0x20, 0x20), (0x85, 0x85), (0xA0, 0xA0), (0x1680, 0x1680), (0x2000, 0x200A),
    (0x2028, 0x2029), (0x202F, 0x202F), (0x205F, 0x205F), (0x3000, 0x3000)]

/-- A character is blank when it lies in one of the runs. -/
def isBlank (c : Char) : Bool :=
  blankRanges.any fun (first, last) => first ≤ c.toNat && c.toNat ≤ last

/-- A text without the blank characters at its ends. -/
def trimBlank (text : String) : String :=
  let opened := text.toList.dropWhile isBlank
  String.ofList (opened.reverse.dropWhile isBlank).reverse

end PdfResize
