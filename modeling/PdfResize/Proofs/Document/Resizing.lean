import PdfResize.Proofs.Document.Restating

/-! Setting the boxes of a page decides the sizes of the pages that come to it on their way up, and of no others. -/

namespace PdfResize.Document

variable {document : Document} {nodes number : Nat} {id stored page : ObjectId} {entries : Dictionary}
  {size : PageSize}

/-- The dictionary in a place is met on the way up from a node, no later than the first media box. -/
def Meets (document : Document) (nodes : Nat) (id stored : ObjectId) : Prop :=
  document.FirstAbove nodes id fun node => document.place? node = some stored

/-- A search meets the place at the node itself, or above a node without a box. -/
theorem meets_succ : document.Meets (nodes + 1) id stored ↔ document.place? id = some stored ∨
    document.boxAt? id = none ∧
      ∃ parent, document.parent? id = some parent ∧ document.Meets nodes parent stored :=
  -- This is the step of the first node that is met, for this condition.
  firstAbove_succ

/-- Setting the boxes leaves the parent as it was. -/
theorem get?_setBoxes_parent (entries : Dictionary) (size : PageSize) :
    (entries.setBoxes size).get? (ascii "Parent") = entries.get? (ascii "Parent") :=
  -- The parent is no box.
  entries.get?_setBoxes_other size (by decide)

section Setting

variable (size) (present : document.objects.get? stored = some (.dictionary entries))

include present

/-- The box of a node is the rectangle where the node leads to the dictionary, and otherwise the one that it had. -/
theorem boxAt?_put_setBoxes (id : ObjectId) :
    (document.put stored (.dictionary (entries.setBoxes size))).boxAt? id =
      if document.place? id = some stored then some size.rectangle else document.boxAt? id := by
  -- The media box is one of the boxes that are set.
  rw [boxAt?_put _ present, entries.get?_setBoxes_key size .media]

/-- The search up from a node that meets the dictionary ends there, with the rectangle. -/
theorem mediaBox?_of_meets (meets : document.Meets nodes id stored) :
    (document.put stored (.dictionary (entries.setBoxes size))).mediaBox? nodes id =
      some [.real 0, .real 0, .real size.width, .real size.height] := by
  -- By induction on the nodes that the search may visit, in step with the way up.
  induction nodes generalizing id with
  | zero =>
    obtain ⟨steps, within, _⟩ := meets
    omega
  | succ nodes ih =>
    rw [mediaBox?_succ, boxAt?_put_setBoxes size present,
      parent?_put _ present (get?_setBoxes_parent entries size)]
    by_cases leads : document.place? id = some stored
    · rw [if_pos leads]
      exact items?_rectangle _ size
    · -- Nothing ends the search at the node, and it goes on from the parent.
      obtain ⟨boxless, parent, named, above⟩ := (meets_succ.1 meets).resolve_left leads
      rw [if_neg leads, boxless, named]
      exact ih above

/-- The search up from a node that does not meet the dictionary finds what it found. -/
theorem mediaBox?_of_not_meets (apart : ¬ document.Meets nodes id stored) :
    (document.put stored (.dictionary (entries.setBoxes size))).mediaBox? nodes id =
      document.mediaBox? nodes id := by
  -- By induction on the nodes that the search may visit: a box that ends it is as before, and so is the way
  -- on.
  induction nodes generalizing id with
  | zero => rfl
  | succ nodes ih =>
    rw [meets_succ, not_or] at apart
    obtain ⟨elsewhere, further⟩ := apart
    rw [mediaBox?_succ, mediaBox?_succ, boxAt?_put_setBoxes size present, if_neg elsewhere,
      parent?_put _ present (get?_setBoxes_parent entries size)]
    cases entry : document.boxAt? id with
    | some box => exact items?_value_put _ present box
    | none =>
      refine Option.bind_congr fun parent named => ?_
      exact ih fun meets => further ⟨entry, parent, named, meets⟩

/-- A page whose search meets the place has the size that was set. -/
theorem pageSize_of_meets (usable : size.isUsable) (meets : document.Meets ancestorLimit page stored)
    (number : Nat) :
    (document.put stored (.dictionary (entries.setBoxes size))).pageSize number page = .ok size := by
  refine pageSize_eq_ok_iff.2
    ⟨0, 0, size.width, size.height, ?_, (sizeBetween_rectangle usable).symm, usable⟩
  -- The four items are numbers in place, which are read as they are.
  rw [corners?, mediaBox?_of_meets size present meets]
  rfl

/-- A page whose search does not meet the place keeps its size, or its error. -/
theorem pageSize_of_not_meets (apart : ¬ document.Meets ancestorLimit page stored) (number : Nat) :
    (document.put stored (.dictionary (entries.setBoxes size))).pageSize number page =
      document.pageSize number page := by
  -- A dictionary is no number, whatever it says, so that the items are read as before too.
  rw [pageSize_eq, pageSize_eq, corners?, corners?, mediaBox?_of_not_meets size present apart,
    coordinate?_put_dictionary _ present]

end Setting

/--
Setting the boxes of a page decides the sizes of exactly those pages that meet its dictionary on their way up.

The dictionary has to be among the first 32 nodes of the way and no later than the first one with a media box.
Then the page measures what has been set, under whichever id the way leads to the dictionary. Every other page
measures as before, and one that has no size has none for the same reason.
-/
theorem setPageBoxes_sizes (found : document.resolve id = .ok (stored, .dictionary entries))
    (usable : size.isUsable) :
    ∃ later, document.setPageBoxes id size = .ok later ∧ ∀ number page,
      (document.Meets 32 page stored → later.pageSize number page = .ok size) ∧
      (¬ document.Meets 32 page stored →
        later.pageSize number page = document.pageSize number page) := by
  -- The boxes are set in one place, and each page is measured by a search that meets it or does not.
  have present := get?_of_resolve found
  refine ⟨_, setPageBoxes_eq found size, fun number page => ⟨fun meets => ?_, fun apart => ?_⟩⟩
  · exact pageSize_of_meets size present usable meets number
  · exact pageSize_of_not_meets size present apart number

/-- A page without a box of its own, another id that leads to it, and two pages below it, one of them with a box. -/
def familyOfPages : Document :=
  ofKids (.array [.integer 0, .integer 0, .integer 500, .integer 600])
    [.dictionary [(ascii "Type", .name (ascii "Page")), (ascii "Parent", .reference ⟨2, 0⟩)],
      .reference ⟨3, 0⟩,
      .dictionary [(ascii "Type", .name (ascii "Page")), (ascii "Parent", .reference ⟨4, 0⟩)],
      .dictionary [(ascii "Type", .name (ascii "Page")), (ascii "Parent", .reference ⟨3, 0⟩),
        (ascii "MediaBox", .array [.integer 0, .integer 0, .integer 70, .integer 80])]]

/-- The page without a box meets the place through its parent. -/
theorem familyOfPages_meets : familyOfPages.Meets 32 ⟨5, 0⟩ ⟨3, 0⟩ := by
  -- The parent of the page leads to the place.
  refine ⟨1, by decide, ⟨⟨4, 0⟩, rfl, rfl⟩, fun earlier before => ?_⟩
  obtain rfl : earlier = 0 := by omega
  exact ⟨⟨5, 0⟩, _, rfl, rfl, rfl⟩

/-- The page with a box of its own does not meet the place. -/
theorem familyOfPages_not_meets : ¬ familyOfPages.Meets 32 ⟨6, 0⟩ ⟨3, 0⟩ := by
  -- The page has a box of its own, and it is stored elsewhere.
  rw [meets_succ]
  rintro (leads | ⟨boxless, _⟩)
  · cases leads
  · cases boxless

/-- Setting the boxes through the alias resizes one page and leaves the other. -/
theorem familyOfPages_sizes :
    (∃ entries, familyOfPages.resolve ⟨4, 0⟩ = .ok (⟨3, 0⟩, .dictionary entries)) ∧
      PageSize.isUsable ⟨100, 200⟩ ∧
      familyOfPages.Meets 32 ⟨5, 0⟩ ⟨3, 0⟩ ∧ ¬ familyOfPages.Meets 32 ⟨6, 0⟩ ⟨3, 0⟩ ∧
      ∃ later, familyOfPages.setPageBoxes ⟨4, 0⟩ ⟨100, 200⟩ = .ok later ∧
        later.pageSize 3 ⟨5, 0⟩ = .ok ⟨100, 200⟩ ∧ later.pageSize 4 ⟨6, 0⟩ = .ok ⟨70, 80⟩ := by
  -- The two pages are the two cases of the theorem.
  have usable : PageSize.isUsable ⟨100, 200⟩ := by decide +kernel
  obtain ⟨entries, found⟩ : ∃ entries,
      familyOfPages.resolve ⟨4, 0⟩ = .ok (⟨3, 0⟩, .dictionary entries) := ⟨_, rfl⟩
  obtain ⟨later, set, sizes⟩ := setPageBoxes_sizes found usable
  have own : familyOfPages.pageSize 4 ⟨6, 0⟩ = .ok ⟨70, 80⟩ := by decide +kernel
  exact ⟨⟨entries, found⟩, usable, familyOfPages_meets, familyOfPages_not_meets, later, set,
    (sizes 3 ⟨5, 0⟩).1 familyOfPages_meets, ((sizes 4 ⟨6, 0⟩).2 familyOfPages_not_meets).trans own⟩

end PdfResize.Document
