import PdfResize.Proofs.Document.PageTree
import PdfResize.Proofs.Fit.Framing
import PdfResize.Proofs.Fit.Runs

/-! Whatever is asked of a document, done or refused, its pages are listed as they were. -/

namespace PdfResize

/-- The edit may add streams. -/
def Edit.scales : Edit → Bool
  | .boxes _ _ => false
  | .scaling _ _ => true

namespace Document

/-- A fit leaves the entries of the page tree alone. -/
theorem treeKeys_apart : ∀ key ∈ treeKeys, key ∉ fitKeys := by
  -- No entry that the walk through the page tree reads is one that a fit sets.
  decide

variable {document : Document} {places : ObjectId → Prop} {keys : List Bytes} {count : Nat}
  {before after : Document}

/-- Numbers are still given out upwards in a later state. -/
theorem Frame.numbered (frame : Frame keys places count before after) (numbered : before.IsNumbered) :
    after.IsNumbered := by
  intro id object found
  rw [frame.maxId]
  -- The id is that of an old object or of a new stream.
  by_cases upcoming : before.IsUpcoming count id
  · exact upcoming.2.2
  · have old : ∃ present, before.objects.get? id = some present := by
      by_cases inside : places id
      · obtain ⟨old, _, present, _⟩ := frame.dictionaries inside
        exact ⟨_, present⟩
      · exact ⟨object, by rw [← frame.others inside upcoming, found]⟩
    obtain ⟨present, stood⟩ := old
    exact Nat.le_add_right_of_le (numbered id present stood)

/-- An edit changes a page and adds two streams for each wrap, or it fails and changes nothing. -/
theorem exists_frame_edit (numbered : document.IsNumbered) (edit : Edit)
    (room : document.maxId + 2 * (document.editWraps edit).length < UInt32.size) :
    ∃ places, Frame fitKeys places (2 * (document.editWraps edit).length) document
      (document.edit edit).2 := by
  -- An edit that fails changes nothing, and one that succeeds changes boxes or wraps contents.
  cases edit with
  | boxes id size =>
    have none : (document.editWraps (.boxes id size)).length = 0 := rfl
    rw [none, edit_boxes]
    cases boxed : document.setPageBoxes id size with
    | error error => exact ⟨_, .refl fitKeys document⟩
    | ok later =>
      obtain ⟨stored, entries, found, rfl⟩ := exists_resolve_of_setPageBoxes boxed
      exact ⟨_, (frame_boxed found size).mono fun _ among => List.mem_cons_of_mem _ among⟩
  | scaling id factor =>
    cases readable : document.contents id with
    | error error =>
      obtain ⟨same, none⟩ := edit_scaling_of_contents_error readable factor
      rw [same, none]
      exact ⟨_, .refl fitKeys document⟩
    | ok items =>
      obtain ⟨stored, entries, found, lists⟩ := exists_resolve_of_contents readable
      have one : (document.editWraps (.scaling id factor)).length = 1 := by
        simp [editWraps, place?_of_resolve found, readable]
      rw [one] at room ⊢
      rw [(edit_scaling_of_contents numbered found readable room factor).1]
      refine ⟨_, (frame_wrapped numbered room (get?_of_resolve found) items _).mono ?_⟩
      intro key among
      exact List.mem_singleton.1 among ▸ List.mem_cons_self

/-- Edits change pages and add two streams for each wrap, however many of them are made before one fails. -/
theorem exists_frame_editAll (numbered : document.IsNumbered) (edits : List Edit)
    (room : document.maxId + 2 * (document.editAllWraps edits).length < UInt32.size) :
    ∃ places, Frame fitKeys places (2 * (document.editAllWraps edits).length) document
      (document.editAll edits).2 := by
  induction edits generalizing document with
  | nil => exact ⟨_, .refl fitKeys document⟩
  | cons first rest ih =>
    unfold editAllWraps at room ⊢
    rw [List.length_append] at room ⊢
    obtain ⟨places, step⟩ := exists_frame_edit numbered first (by omega)
    rw [editAll_cons]
    cases made : document.edit first with
    | mk answer edited =>
      rw [made] at step room
      cases answer with
      | error error =>
        -- The edit that fails is the last one that is made.
        exact ⟨places, step⟩
      | ok _ =>
        have number := step.maxId
        obtain ⟨more, done⟩ := ih (step.numbered numbered) (by simp only at room number ⊢; omega)
        rw [Nat.mul_add]
        exact ⟨_, step.trans done⟩

/-- An edit makes one wrap at most, and only when it scales. -/
theorem length_editWraps_le (document : Document) (edit : Edit) :
    (document.editWraps edit).length ≤ [edit].countP Edit.scales := by
  cases edit with
  | boxes id size => exact Nat.le_refl 0
  | scaling id factor =>
    -- One wrap is made at the most.
    show _ ≤ 1
    simp only [editWraps]
    split
    · exact Nat.le_refl 1
    · exact Nat.zero_le 1

/-- There are no more wraps than edits that scale. -/
theorem length_editAllWraps_le (document : Document) (edits : List Edit) :
    (document.editAllWraps edits).length ≤ edits.countP Edit.scales := by
  -- By induction on the row: each edit adds one wrap at most, and a row that stops adds no more.
  induction edits generalizing document with
  | nil => exact Nat.le_refl 0
  | cons first rest ih =>
    have one := length_editWraps_le document first
    unfold editAllWraps
    rw [List.length_append, ← List.singleton_append, List.countP_append]
    split
    · exact Nat.add_le_add one (ih _)
    · exact Nat.le_add_right_of_le one

/-- Growing scales no contents. -/
theorem countP_growEdits (target : PageSize) (pages : List MeasuredPage) :
    (growEdits target pages).countP Edit.scales = 0 := by
  -- By induction on the pages.
  induction pages with
  | nil => rfl
  | cons page rest ih => simpa [growEdits, List.countP_cons, Edit.scales] using ih

/-- Shrinking scales the contents of each page once. -/
theorem countP_shrinkEdits (target : PageSize) (factor : Single) (pages : List MeasuredPage) :
    (shrinkEdits target factor pages).countP Edit.scales = pages.length := by
  -- By induction on the pages.
  induction pages with
  | nil => rfl
  | cons page rest ih => simpa [shrinkEdits, List.countP_cons, Edit.scales] using ih

/-- Setting the boxes of all pages wraps nothing. -/
theorem countP_scaleUpEdits (document : Document) (target : PageSize) :
    (document.scaleUpEdits target).countP Edit.scales = 0 := by
  -- Either there are no edits or they are those of growing.
  unfold scaleUpEdits
  split
  · exact countP_growEdits target _
  · rfl

/-- Scaling all pages wraps each page at most once for each time that it is listed. -/
theorem countP_scaleDownEdits_le (document : Document) (factor : Double) (target : PageSize) :
    (document.scaleDownEdits factor target).countP Edit.scales ≤ document.pages.length := by
  -- Either there are no edits or there is one scaling for each page.
  unfold scaleDownEdits
  split
  · rename_i measured _ _ found
    rw [countP_shrinkEdits, ← (measuredPages_eq_ok_iff.1 found).1, List.length_map]
  · exact Nat.zero_le _

/-- A fit scales the contents of each page once at most. -/
theorem countP_fitEdits_le (document : Document) (options : FitOptions) (target : PageSize) :
    (document.fitEdits options target).countP Edit.scales ≤ document.pages.length := by
  -- A fit scales up, scales down or does nothing.
  unfold fitEdits
  split
  · rw [countP_scaleUpEdits]
    exact Nat.zero_le _
  · exact countP_scaleDownEdits_le document _ target
  · exact Nat.zero_le _

/-- After a fit, done or refused, the pages are the same if no streams were added or the old walk had ended. -/
theorem pages_of_fit {options : FitOptions} {target : PageSize} (numbered : document.IsNumbered)
    (room : document.maxId + 2 * document.pages.length < UInt32.size)
    (ends : (document.fit options target).2.maxId ≠ document.maxId → document.walkEnds) :
    (document.fit options target).2.pages = document.pages := by
  have wraps := (length_editAllWraps_le document (document.fitEdits options target)).trans
    (countP_fitEdits_le document options target)
  obtain ⟨places, frame⟩ :=
    exists_frame_editAll numbered (document.fitEdits options target) (by omega)
  rw [← fit_eq_editAll] at frame
  refine frame.pages_eq treeKeys_apart fun added => ends ?_
  -- Each stream was given a number.
  rw [frame.maxId]
  omega

/-- After a fit that succeeds the pages are the same; only one that shrinks has to leave room for its streams. -/
theorem pages_of_fit_ok {options : FitOptions} {target : PageSize} {outcome : Outcome}
    {result : Document} (fitted : document.fit options target = (.ok outcome, result))
    (shrinks : ∀ factor, outcome = .scaledDown factor → document.walkEnds ∧ document.IsNumbered ∧
      document.maxId + 2 * document.pages.length < UInt32.size) :
    result.pages = document.pages := by
  -- Both kinds of change are frames that leave the page tree alone; only shrinking adds objects, and so
  -- only it needs a walk that ends.
  obtain ⟨_, measured, found, branch⟩ := fit_eq_ok_cases fitted
  rcases branch with ⟨_, rfl⟩ | ⟨_, passed⟩ | ⟨factor, same, passed⟩
  · rfl
  · -- Boxes are all that has changed, and there are as many objects as before.
    have frame := (frame_eachPage_growPage found passed).mono
      fun _ among => List.mem_cons_of_mem (ascii "Contents") among
    exact frame.pages_eq treeKeys_apart fun none => absurd rfl none
  · obtain ⟨ends, numbered, room⟩ := shrinks factor same
    exact (frame_eachPage_shrinkPage found numbered room passed).pages_eq treeKeys_apart fun _ => ends

end Document

end PdfResize
