import PdfResize.Proofs.Document.Framing
import PdfResize.Proofs.Fit.Reaching

/-! What a fit changes in a document: entries of its pages and new streams, and nothing else under any id. -/

namespace PdfResize.Document

/-- A page of the document is stored under the id. -/
def IsPagePlace (document : Document) (stored : ObjectId) : Prop :=
  ∃ page ∈ document.pages, document.place? page.id = some stored

variable {document start current later final : Document} {id stored : ObjectId} {entries : Dictionary}
  {target : PageSize} {measured : List MeasuredPage} {page : MeasuredPage} {factor : Single}

/-- Setting the boxes of a page changes these five entries of it. -/
theorem frame_boxed (found : document.resolve id = .ok (stored, .dictionary entries))
    (size : PageSize) :
    Frame PageBox.keys (· = stored) 0 document (document.boxed stored entries size) :=
  -- One dictionary is put, and no other entry of it is set.
  frame_put (get?_of_resolve found) fun _ apart => entries.get?_setBoxes_other size apart

/-- Shrinking a page changes its boxes and its content entry, and adds two streams. -/
theorem frame_shrinkPage (numbered : document.IsNumbered) (room : document.maxId + 2 < UInt32.size)
    (found : document.resolve page.id = .ok (stored, .dictionary entries))
    (passed : shrinkPage target factor document page = (.ok (), later)) :
    Frame fitKeys (· = stored) 2 document later := by
  obtain ⟨items, readable, _⟩ := exists_contents_of_shrinkPage numbered room found passed
  rw [shrinkPage_eq numbered room found readable] at passed
  cases passed
  -- First the boxes are set, and what is wrapped then is the page with these boxes.
  have boxes := frame_boxed found (target.orientedLike page.size)
  have wraps := frame_wrapped (fitsPage_boxed numbered found _).numbered room
    (get?_of_resolve (resolve_boxed found (target.orientedLike page.size))) items (.scaling factor)
  refine ((boxes.mono ?_).trans (wraps.mono ?_)).of_iff fun id => or_self_iff
  · intro key among
    exact List.mem_cons_of_mem _ among
  · intro key among
    exact List.mem_singleton.1 among ▸ List.mem_cons_self

/-- One of these pages is stored under the id. -/
def IsPlaceOf (document : Document) (pages : List MeasuredPage) (stored : ObjectId) : Prop :=
  ∃ page ∈ pages, document.place? page.id = some stored

/-- Before the first page nothing has changed. -/
theorem Frame.none (keys : List Bytes) (streams : Nat) (document : Document) :
    Frame keys (document.IsPlaceOf []) (streams * ([] : List MeasuredPage).length) document document :=
  -- Before the first page there is no place to be changed.
  (Frame.refl keys document).of_iff fun stored => by simp [IsPlaceOf]

/-- One more page that has changed adds its place to those of the pages before it. -/
theorem Frame.advance {keys : List Bytes} {streams : Nat} {done : List MeasuredPage}
    (frame : Frame keys (start.IsPlaceOf done) (streams * done.length) start current)
    (located : start.place? page.id = some stored)
    (step : Frame keys (· = stored) streams current later) :
    Frame keys (start.IsPlaceOf (done ++ [page])) (streams * (done ++ [page]).length) start later := by
  -- Two frames make one, and its places are those before with the one of this page.
  rw [List.length_append, List.length_singleton, Nat.mul_succ]
  refine (frame.trans step).of_iff fun place => ?_
  constructor
  · rintro (⟨earlier, member, there⟩ | rfl)
    · exact ⟨earlier, List.mem_append_left _ member, there⟩
    · exact ⟨page, List.mem_append_right _ (List.mem_singleton_self page), located⟩
  · rintro ⟨earlier, member, there⟩
    rcases List.mem_append.1 member with before | last
    · exact .inl ⟨earlier, before, there⟩
    · -- The place of the last page is the one that the step has changed.
      rw [List.mem_singleton.1 last, located] at there
      cases there
      exact .inr rfl

section pass

variable (found : start.measuredPages = .ok measured)

include found

/-- The places of the measured pages are those of the pages of the document. -/
theorem isPlaceOf_iff (stored : ObjectId) :
    start.IsPlaceOf measured stored ↔ start.IsPagePlace stored := by
  -- The measured pages are the listed ones.
  unfold IsPlaceOf IsPagePlace
  rw [← (measuredPages_eq_ok_iff.1 found).1]
  simp

/-- Growing all pages changes only boxes of pages, however objects are numbered. -/
theorem frame_eachPage_growPage
    (passed : start.eachPage (growPage target) measured = (.ok (), final)) :
    Frame PageBox.keys start.IsPagePlace 0 start final := by
  have all : Frame PageBox.keys (start.IsPlaceOf measured) (0 * measured.length) start final := by
    refine @eachPage_holds _ (fun done current =>
      Frame PageBox.keys (start.IsPlaceOf done) (0 * done.length) start current) _ _ _ ?_ ?_ passed
    · intro done page rest current later split frame taken
      -- The page is a dictionary where it was at the start, since it could be measured there.
      have sized := (measuredPages_eq_ok_iff.1 found).2 page (by simp [split])
      obtain ⟨stored, old, resolved⟩ := exists_resolve_of_pageSize sized
      obtain ⟨entries, there, _⟩ := frame.rewrites.resolve_dictionary resolved
      rw [growPage_eq there] at taken
      cases taken
      exact frame.advance (place?_of_resolve resolved) (frame_boxed there _)
    · exact .none PageBox.keys 0 start
  rw [Nat.zero_mul] at all
  exact all.of_iff (isPlaceOf_iff found)

/-- Shrinking the first pages changes only their boxes and content entries, and adds two streams for each. -/
theorem fitsPages_of_eachPage_shrinkPage {done rest : List MeasuredPage}
    (split : measured = done ++ rest) (numbered : start.IsNumbered)
    (room : start.maxId + 2 * start.pages.length < UInt32.size)
    (passed : start.eachPage (shrinkPage target factor) done = (.ok (), final)) :
    FitsPages 2 target start done final ∧
      Frame fitKeys (start.IsPlaceOf done) (2 * done.length) start final := by
  -- By induction along the pass; where the next page is comes from the first invariant, and what has
  -- changed is the second.
  refine @eachPage_holds _ (fun done current => FitsPages 2 target start done current ∧
    Frame fitKeys (start.IsPlaceOf done) (2 * done.length) start current) _ _ _ ?_ ?_ passed
  · -- Both what the pages before have become and where they are carry on to the next page.
    rintro before page behind current later first ⟨fits, frame⟩ taken
    have place : measured = before ++ page :: (behind ++ rest) := by simp [split, first]
    obtain ⟨stored, old, entries, resolved, there, _⟩ := fits.next found place
    have step := frame_shrinkPage fits.numbered (fits.room found place room) there taken
    exact ⟨fits.shrink found place room taken, frame.advance (place?_of_resolve resolved) step⟩
  · exact ⟨.start numbered, .none fitKeys 2 start⟩

/-- Shrinking all pages changes only boxes and content entries of pages, and adds two streams for each. -/
theorem frame_eachPage_shrinkPage (numbered : start.IsNumbered)
    (room : start.maxId + 2 * start.pages.length < UInt32.size)
    (passed : start.eachPage (shrinkPage target factor) measured = (.ok (), final)) :
    Frame fitKeys start.IsPagePlace (2 * start.pages.length) start final := by
  obtain ⟨_, frame⟩ :=
    fitsPages_of_eachPage_shrinkPage found (List.append_nil measured).symm numbered room passed
  -- As many pages have been measured as there are.
  rw [← (measuredPages_eq_ok_iff.1 found).1, List.length_map]
  exact frame.of_iff (isPlaceOf_iff found)

end pass

/--
What a fit that succeeds leaves of a document, under every id.

A document that fits is not touched. Growing changes boxes of pages. Shrinking changes boxes and content
entries of pages and adds two streams for each page, numbered from the last number on.
-/
theorem fit_frame {options : FitOptions} {outcome : Outcome} {result : Document}
    (fitted : document.fit options target = (.ok outcome, result)) :
    match outcome with
    | .unchanged => result = document
    | .scaledUp => Frame PageBox.keys document.IsPagePlace 0 document result
    | .scaledDown _ => document.IsNumbered →
        document.maxId + 2 * document.pages.length < UInt32.size →
          Frame fitKeys document.IsPagePlace (2 * document.pages.length) document result := by
  -- The three outcomes are the three ends of a fit.
  obtain ⟨_, measured, found, branch⟩ := fit_eq_ok_cases fitted
  rcases branch with ⟨rfl, rfl⟩ | ⟨rfl, passed⟩ | ⟨factor, rfl, passed⟩
  · rfl
  · exact frame_eachPage_growPage found passed
  · exact fun numbered room => frame_eachPage_shrinkPage found numbered room passed

/-- Both kinds of change keep the frame of a document with an alias. -/
theorem sharedPage_fit_frame :
    (sharedPage.fit {} ⟨600, 700⟩).1 = .ok .scaledUp ∧
      Frame PageBox.keys sharedPage.IsPagePlace 0 sharedPage (sharedPage.fit {} ⟨600, 700⟩).2 ∧
      (sharedPage.fit {} ⟨250, 300⟩).1 = .ok (.scaledDown 0.5) ∧
      sharedPage.IsNumbered ∧ sharedPage.maxId + 2 * sharedPage.pages.length < UInt32.size ∧
      Frame fitKeys sharedPage.IsPagePlace 6 sharedPage (sharedPage.fit {} ⟨250, 300⟩).2 := by
  have grows := sharedPage_outcomes.2
  -- The page that is listed under two ids counts twice.
  have listed : sharedPage.pages.length = 3 := by decide
  have shrunk := fit_frame (Prod.ext sharedPage_shrinks rfl) isNumbered_sharedPage sharedPage_room
  rw [listed] at shrunk
  exact ⟨grows, fit_frame (Prod.ext grows rfl), sharedPage_shrinks, isNumbered_sharedPage,
    sharedPage_room, shrunk⟩

end PdfResize.Document
