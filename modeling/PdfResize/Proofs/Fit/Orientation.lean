import PdfResize.Proofs.Fit.Reaching

/-! Pages that are fitted keep their orientation exactly when the target is not wider than tall. -/

namespace PdfResize

/-- An upright page has not become wider than tall, and any other page not taller than wide. -/
def PageSize.KeepsOrientation (before after : PageSize) : Prop :=
  if before.isPortrait then after.width ≤ after.height else after.height ≤ after.width

/-- A target applies to a page in the orientation of the page exactly when it is given upright. -/
theorem PageSize.keepsOrientation_orientedLike_iff (target page : PageSize) :
    page.KeepsOrientation (target.orientedLike page) ↔ target.width ≤ target.height := by
  -- Only the page decides whether the target is turned.
  unfold KeepsOrientation orientedLike
  split
  · exact Iff.rfl
  · exact Iff.rfl

namespace Document

variable {document result : Document} {options : FitOptions} {target : PageSize} {outcome : Outcome}

/--
A fit that changes a document keeps the orientation of a page exactly when the target is not wider than tall.

An upright page is given the target as it is, and any other page is given the target turned, so that a wide
target turns every page that is not a square.
-/
theorem fit_keepsOrientation_iff (numbered : document.IsNumbered)
    (room : document.maxId + 2 * document.pages.length < UInt32.size)
    (fitted : document.fit options target = (.ok outcome, result)) (changed : outcome.isChanged)
    (page : Page) (listed : page ∈ document.pages) :
    ∃ before after, document.pageSize page.number page.id = .ok before ∧
      result.pageSize page.number page.id = .ok after ∧
      (before.KeepsOrientation after ↔ target.width ≤ target.height) := by
  obtain ⟨usable, measured, streams, found, fits⟩ := fitsPages_of_fit numbered room fitted changed
  obtain ⟨before, member, sized⟩ := exists_measured found listed
  -- The page measures the target as it applies to the size that it had.
  have reached := fits.pageSize usable member sized page.number
  exact ⟨before, target.orientedLike before, sized, reached,
    target.keepsOrientation_orientedLike_iff before⟩

/-- An upright page. -/
def uprightPage : Document :=
  ofKids (.array [.integer 0, .integer 0, .integer 600, .integer 700])
    [.dictionary [(ascii "Type", .name (ascii "Page")), (ascii "Parent", .reference ⟨2, 0⟩)]]

/-- An upright page that grows to an upright target stays upright. -/
theorem uprightPage_fit_keepsOrientation_iff :
    uprightPage.IsNumbered ∧ uprightPage.maxId + 2 * uprightPage.pages.length < UInt32.size ∧
      (uprightPage.fit {} ⟨595, 842⟩).1 = .ok .scaledUp ∧
      (⟨1, ⟨3, 0⟩⟩ : Page) ∈ uprightPage.pages ∧
      ∃ after, (uprightPage.fit {} ⟨595, 842⟩).2.pageSize 1 ⟨3, 0⟩ = .ok after ∧
        after.width ≤ after.height := by
  -- The theorem says when the orientation is kept, and this target is no wider than high.
  have numbered : uprightPage.IsNumbered := isNumbered_ofKids _ _
  have room : uprightPage.maxId + 2 * uprightPage.pages.length < UInt32.size := by decide +kernel
  have grows : (uprightPage.fit {} ⟨595, 842⟩).1 = .ok .scaledUp := by decide +kernel
  have listed : (⟨1, ⟨3, 0⟩⟩ : Page) ∈ uprightPage.pages := by decide +kernel
  obtain ⟨before, after, sized, reached, keeps⟩ :=
    fit_keepsOrientation_iff numbered room (Prod.ext grows rfl) rfl _ listed
  have upright : uprightPage.pageSize 1 ⟨3, 0⟩ = .ok ⟨600, 700⟩ := by decide +kernel
  rw [upright] at sized
  cases sized
  have kept := keeps.2 (by decide +kernel)
  rw [PageSize.KeepsOrientation, if_pos (by decide +kernel)] at kept
  exact ⟨numbered, room, grows, listed, after, reached, kept⟩

/-- A target that is wider than tall turns an upright page on its side. -/
theorem uprightPage_turned :
    uprightPage.pageSize 1 ⟨3, 0⟩ = .ok ⟨600, 700⟩ ∧ (600 : Single) < 700 ∧
      (uprightPage.fit {} ⟨842, 595⟩).1 = .ok .scaledUp ∧
      (uprightPage.fit {} ⟨842, 595⟩).2.pageSize 1 ⟨3, 0⟩ = .ok ⟨842, 595⟩ ∧
      ¬ (842 : Single) ≤ 595 := by
  -- The wide target is set as it is, since the page is upright.
  decide +kernel

end Document

end PdfResize
