import PdfResize.Proofs.Document.Wrapping
import PdfResize.Proofs.Fit.Branches
import PdfResize.Proofs.Fit.Passes

/-! Pages fitted one after another: what a step does to a document, and what the pages that are done have become. -/

namespace PdfResize

/-- The keys of the entries of a page that a fit may set. -/
def fitKeys : List Bytes := ascii "Contents" :: PageBox.keys

/-- The key of the contents is no key of a box. -/
theorem contents_not_mem_keys : ascii "Contents" ∉ PageBox.keys := by
  -- The key of the content is none of the five keys of boxes.
  decide

namespace Document

/-- The dictionary in a place has the rectangle of a size under the keys of all boxes. -/
def HasBoxes (document : Document) (stored : ObjectId) (size : PageSize) : Prop :=
  ∃ page : Dictionary, document.objects.get? stored = some (.dictionary page) ∧
    ∀ box : PageBox, page.get? box.key = some size.rectangle

/-- What fitting the page in a place does: its boxes are set, and some streams may be added. -/
structure FitsPage (streams : Nat) (stored : ObjectId) (size : PageSize) (before after : Document) :
    Prop where
  /-- Only this page has changed, and only under the keys of a fit. -/
  rewrites : Rewrites fitKeys (· = stored) before after
  /-- Numbers are still given out upwards. -/
  numbered : after.IsNumbered
  /-- Each stream was given the next number. -/
  maxId : after.maxId = before.maxId + streams
  /-- The boxes of the page are set. -/
  boxes : after.HasBoxes stored size

/-- What a document has become when some of its pages have been fitted, at so many streams for each. -/
structure FitsPages (streams : Nat) (target : PageSize) (before : Document) (done : List MeasuredPage)
    (after : Document) : Prop where
  /-- Only these pages have changed, and only under the keys of a fit. -/
  rewrites : Rewrites fitKeys (fun stored => ∃ page ∈ done, before.place? page.id = some stored)
    before after
  /-- Numbers are still given out upwards. -/
  numbered : after.IsNumbered
  /-- Each stream was given the next number. -/
  maxId : after.maxId = before.maxId + streams * done.length
  /-- The boxes of these pages are set to the target, as it applies to their old sizes. -/
  boxes : ∀ {page stored}, page ∈ done → before.place? page.id = some stored →
    after.HasBoxes stored (target.orientedLike page.size)

variable {document before current after later : Document} {id stored : ObjectId} {size : PageSize}
  {streams : Nat} {target : PageSize} {done measured : List MeasuredPage} {page : MeasuredPage}
  {entries old : Dictionary} {items : List Object} {factor : Single}

/-- A page that is measured is a dictionary in some place. -/
theorem exists_resolve_of_pageSize {number : Nat} (sized : document.pageSize number id = .ok size) :
    ∃ stored entries, document.resolve id = .ok (stored, .dictionary entries) := by
  -- Nothing is measured without a dictionary to look into.
  obtain ⟨_, entries, found⟩ := usable_of_pageSize sized
  obtain ⟨stored, resolved⟩ := exists_resolve_of_dictionary found
  exact ⟨stored, entries, resolved⟩

/-- Pages in one place have one size. -/
theorem size_eq_of_place? {number otherNumber : Nat} {other : ObjectId} {otherSize : PageSize}
    (sized : document.pageSize number id = .ok size)
    (otherSized : document.pageSize otherNumber other = .ok otherSize)
    (located : document.place? id = some stored) (same : document.place? other = some stored) :
    otherSize = size := by
  obtain ⟨place, entries, resolved⟩ := exists_resolve_of_pageSize sized
  rw [place?_of_resolve resolved] at located
  cases located
  -- Both ids lead to the dictionary in the place.
  have found := dictionary_of_resolve resolved
  have otherFound := dictionary_of_resolve (resolve_eq_of_place? resolved same)
  have again : document.pageSize otherNumber other = .ok size :=
    pageSize_congr (found.trans otherFound.symm) sized
  rw [otherSized] at again
  cases again
  rfl

namespace FitsPages

/-- Before the first page the document is fitted as far as it goes. -/
theorem start (numbered : document.IsNumbered) : FitsPages streams target document [] document where
  -- Before the first page the document is the old one.
  rewrites := .refl _ _ document
  numbered := numbered
  maxId := rfl
  boxes member := absurd member List.not_mem_nil

/-- After one more page has been fitted, all of them have, as pages in one place are fitted alike. -/
theorem advance (fits : FitsPages streams target before done current)
    (located : before.place? page.id = some stored)
    (alike : ∀ other ∈ done, before.place? other.id = some stored → other.size = page.size)
    (fitted : FitsPage streams stored (target.orientedLike page.size) current after) :
    FitsPages streams target before (done ++ [page]) after where
  rewrites := by
    -- Both rewritings stay within the places of the earlier pages and of this one.
    refine (fits.rewrites.mono (fun _ inside => inside) ?_).trans
      (fitted.rewrites.mono (fun _ inside => inside) ?_)
    · rintro place ⟨other, member, there⟩
      exact ⟨other, List.mem_append_left _ member, there⟩
    · rintro place rfl
      exact ⟨page, List.mem_append_right _ (List.mem_singleton_self page), located⟩
  numbered := fitted.numbered
  maxId := by
    -- One more page has taken as many numbers as each page before it.
    rw [fitted.maxId, fits.maxId, List.length_append, List.length_singleton, Nat.mul_succ, Nat.add_assoc]
  boxes := by
    intro other place member there
    rcases List.mem_append.1 member with earlier | last
    · -- An earlier page has kept its boxes, or it is in the place whose boxes were set again.
      by_cases here : place = stored
      · rw [here] at there ⊢
        rw [alike other earlier there]
        exact fitted.boxes
      · obtain ⟨entries, present, boxes⟩ := fits.boxes earlier there
        exact ⟨entries, fitted.rewrites.kept present here, boxes⟩
    · -- The boxes of this page have just been set.
      rw [List.mem_singleton.1 last] at there ⊢
      rw [located] at there
      cases there
      exact fitted.boxes

/-- A page of the old document is found in its place, with the old entries under all other keys. -/
theorem resolve (fits : FitsPages streams target before done current)
    (found : before.resolve id = .ok (stored, .dictionary old)) :
    ∃ entries : Dictionary, current.resolve id = .ok (stored, .dictionary entries) ∧
      ∀ key, key ∉ fitKeys → entries.get? key = old.get? key :=
  -- Fitting the pages before has only rewritten dictionaries.
  fits.rewrites.resolve_dictionary found

/-- A page that is done leads to a dictionary with the boxes of its new size. -/
theorem dictionary (fits : FitsPages streams target before done after) (member : page ∈ done)
    (sized : before.pageSize page.number page.id = .ok page.size) :
    ∃ entries, after.dictionary page.id = .ok entries ∧
      ∀ box : PageBox, entries.get? box.key = some (target.orientedLike page.size).rectangle := by
  obtain ⟨stored, old, found⟩ := exists_resolve_of_pageSize sized
  obtain ⟨entries, resolved, _⟩ := fits.resolve found
  obtain ⟨present, there, boxes⟩ := fits.boxes member (place?_of_resolve found)
  -- What the place holds is what the page leads to.
  rw [get?_of_resolve resolved] at there
  cases there
  exact ⟨entries, dictionary_of_resolve resolved, boxes⟩

/-- A page that is done measures its new size, under whatever number. -/
theorem pageSize (fits : FitsPages streams target before done after) (usable : target.isUsable)
    (member : page ∈ done) (sized : before.pageSize page.number page.id = .ok page.size)
    (number : Nat) : after.pageSize number page.id = .ok (target.orientedLike page.size) := by
  -- The page has a media box of its own now, so its parents are not asked.
  obtain ⟨entries, found, boxes⟩ := fits.dictionary member sized
  exact pageSize_of_rectangle found (boxes .media) (PageSize.isUsable_orientedLike usable page.size)

end FitsPages

/-- The document with the boxes of a page that is stored in a place set to a size. -/
def boxed (document : Document) (stored : ObjectId) (page : Dictionary) (size : PageSize) : Document :=
  document.put stored (.dictionary (page.setBoxes size))

/-- Setting the boxes of a page succeeds only at a dictionary. -/
theorem exists_resolve_of_setPageBoxes (boxed : document.setPageBoxes id size = .ok later) :
    ∃ stored entries, document.resolve id = .ok (stored, .dictionary entries) ∧
      later = document.boxed stored entries size := by
  -- Boxes are set by changing the dictionary that the id resolves to.
  unfold setPageBoxes at boxed
  cases changed : document.modifyDictionary id fun page => page.setBoxes size with
  | error cause =>
    rw [changed] at boxed
    cases boxed
  | ok result =>
    rw [changed] at boxed
    cases boxed
    exact exists_resolve_of_modifyDictionary changed

/-- Setting the boxes of a page fits it, and adds no stream. -/
theorem fitsPage_boxed (numbered : document.IsNumbered)
    (found : document.resolve id = .ok (stored, .dictionary entries)) (size : PageSize) :
    FitsPage 0 stored size document (document.boxed stored entries size) where
  -- Nothing is written but the boxes.
  rewrites := (rewrites_setBoxes found size).mono (fun _ inside => List.mem_cons_of_mem _ inside)
    fun _ here => here
  numbered := numbered.put (get?_of_resolve found) _
  maxId := rfl
  boxes := ⟨_, by simp [boxed], entries.get?_setBoxes_key size⟩

/-- After its boxes are set, a page resolves to the same place with the boxes. -/
theorem resolve_boxed (found : document.resolve id = .ok (stored, .dictionary entries))
    (size : PageSize) : (document.boxed stored entries size).resolve id =
      .ok (stored, .dictionary (entries.setBoxes size)) := by
  obtain ⟨later, resolved, _⟩ := (rewrites_setBoxes found size).resolve_dictionary found
  -- What the place holds has just been put there.
  have there := get?_of_resolve resolved
  rw [get?_put, if_pos rfl] at there
  cases there
  exact resolved

/-- The next page is as it was when no page before it is in its place. -/
theorem FitsPages.eq_of_untouched (fits : FitsPages streams target before done current)
    (found : before.resolve id = .ok (stored, .dictionary old))
    (there : current.resolve id = .ok (stored, .dictionary entries))
    (untouched : ∀ earlier ∈ done, before.place? earlier.id ≠ some stored) : entries = old := by
  have same : current.resolve id = .ok (stored, .dictionary old) := by
    -- What a place holds has changed only where a page is done.
    refine fits.rewrites.resolve_apart found ?_
    rintro ⟨earlier, member, located⟩
    exact untouched earlier member located
  rw [there] at same
  cases same
  rfl

/-- When the boxes of the next page are set, the document is still a rewriting of the old one. -/
theorem FitsPages.rewrites_boxed (fits : FitsPages streams target before done current)
    (there : current.resolve id = .ok (stored, .dictionary entries)) (size : PageSize) :
    Rewrites fitKeys (fun _ => True) before (current.boxed stored entries size) := by
  -- Where the changes are does not matter for what is left of the old document.
  have boxes := (fitsPage_boxed fits.numbered there size).rewrites
  exact (fits.rewrites.mono (fun _ inside => inside) fun _ _ => trivial).trans
    (boxes.mono (fun _ inside => inside) fun _ _ => trivial)

/-- Growing a page sets its boxes. -/
theorem growPage_eq (found : document.resolve page.id = .ok (stored, .dictionary entries)) :
    growPage target document page =
      (.ok (), document.boxed stored entries (target.orientedLike page.size)) := by
  -- The page is where it was found, so its boxes can be set.
  unfold growPage
  rw [setPageBoxes_eq found]
  rfl

/-- What shrinking the page in a place does, when its content is these items. -/
structure ShrinksPage (factor : Single) (stored : ObjectId) (size : PageSize) (items : List Object)
    (before after : Document) : Prop extends FitsPage 2 stored size before after where
  /-- The stream before the content has the first new number. -/
  opening : after.objects.get? ⟨before.maxId + 1, 0⟩ =
    some (.ofContent (Wrapping.scaling factor).separated.opening)
  /-- The stream after the content has the second new number. -/
  closing : after.objects.get? ⟨before.maxId + 2, 0⟩ =
    some (.ofContent (Wrapping.scaling factor).separated.closing)
  /-- The page lists its items between the two streams. -/
  list : ∃ page : Dictionary, after.objects.get? stored = some (.dictionary page) ∧
    page.get? (ascii "Contents") = some (.array (.reference ⟨before.maxId + 1, 0⟩ ::
      items ++ [.reference ⟨before.maxId + 2, 0⟩]))

/-- A page with its boxes set and its contents wrapped is shrunk. -/
theorem shrinksPage_wrapped (numbered : document.IsNumbered)
    (room : document.maxId + 2 < UInt32.size)
    (found : document.resolve id = .ok (stored, .dictionary entries)) (size : PageSize)
    (items : List Object) (factor : Single) : ShrinksPage factor stored size items document
      ((document.boxed stored entries size).wrapped stored (entries.setBoxes size) items
        (.scaling factor)) := by
  have boxes := fitsPage_boxed numbered found size
  have wraps : Wraps (.scaling factor) stored (entries.setBoxes size) items
      (document.boxed stored entries size) _ :=
    wraps_wrapped boxes.numbered room (get?_of_resolve (resolve_boxed found size)) _
  -- Of the two keys that are written one after the other, neither is the other.
  have apart : ∀ box : PageBox, box.key ≠ ascii "Contents" :=
    fun box same => contents_not_mem_keys (same ▸ box.key_mem_keys)
  refine ⟨⟨?_, wraps.numbered, wraps.maxId, _, wraps.list, ?_⟩, wraps.opening, wraps.closing,
    _, wraps.list, ?_⟩
  · -- First the boxes are set, and then the content entry is.
    refine boxes.rewrites.trans (wraps.rewrites.mono ?_ fun _ here => here)
    intro key member
    exact List.mem_singleton.1 member ▸ List.mem_cons_self
  · -- The boxes are still there after the content entry is set.
    intro box
    rw [Dictionary.get?_set_other _ (apart box), Dictionary.get?_setBoxes_key]
  · rw [Dictionary.get?_set, if_pos rfl]
    rfl

/-- Shrinking a page sets its boxes and then wraps its content, if the content can be read. -/
theorem shrinkPage_eq (numbered : document.IsNumbered) (room : document.maxId + 2 < UInt32.size)
    (found : document.resolve page.id = .ok (stored, .dictionary entries))
    (readable : (document.boxed stored entries (target.orientedLike page.size)).contents page.id =
      .ok items) : shrinkPage target factor document page =
        (.ok (), (document.boxed stored entries (target.orientedLike page.size)).wrapped stored
          (entries.setBoxes (target.orientedLike page.size)) items (.scaling factor)) := by
  -- Both halves of the step succeed: the boxes are set, and then the contents are read and wrapped.
  unfold shrinkPage
  rw [setPageBoxes_eq found]
  exact wrapContent_eq (fitsPage_boxed numbered found _).numbered room (resolve_boxed found _)
    readable _

/-- A page shrinks when the content of the page with its new boxes can be read. -/
theorem shrinkPage_of_contents (numbered : document.IsNumbered)
    (room : document.maxId + 2 < UInt32.size)
    (found : document.resolve page.id = .ok (stored, .dictionary entries))
    (readable : (document.boxed stored entries (target.orientedLike page.size)).contents page.id =
      .ok items) : ∃ later, shrinkPage target factor document page = (.ok (), later) ∧
        ShrinksPage factor stored (target.orientedLike page.size) items document later :=
  -- What the step leaves is known, and it is a shrunk page.
  ⟨_, shrinkPage_eq numbered room found readable,
    shrinksPage_wrapped numbered room found _ items factor⟩

/-- A page does not shrink when its content cannot be read; that is the error, and the boxes stay set. -/
theorem shrinkPage_of_contents_error
    (found : document.resolve page.id = .ok (stored, .dictionary entries)) {error : FitError}
    (failed : (document.boxed stored entries (target.orientedLike page.size)).contents page.id =
      .error error) : shrinkPage target factor document page =
        (.error error, document.boxed stored entries (target.orientedLike page.size)) := by
  -- The boxes are set before the contents turn out not to be readable.
  unfold shrinkPage
  rw [setPageBoxes_eq found]
  exact wrapContent_of_contents_error failed _

/-- A page that has shrunk had content that could be read. -/
theorem exists_contents_of_shrinkPage (numbered : document.IsNumbered)
    (room : document.maxId + 2 < UInt32.size)
    (found : document.resolve page.id = .ok (stored, .dictionary entries))
    (passed : shrinkPage target factor document page = (.ok (), later)) :
    ∃ items, (document.boxed stored entries (target.orientedLike page.size)).contents page.id =
        .ok items ∧
      ShrinksPage factor stored (target.orientedLike page.size) items document later := by
  cases read : (document.boxed stored entries (target.orientedLike page.size)).contents page.id with
  | ok items =>
    obtain ⟨result, shrunk, shrinks⟩ := shrinkPage_of_contents numbered room found read
    -- The step has one result only.
    rw [passed] at shrunk
    cases shrunk
    exact ⟨items, rfl, shrinks⟩
  | error error =>
    rw [shrinkPage_of_contents_error found read] at passed
    cases passed

section pass

variable {start : Document} {rest : List MeasuredPage} (found : start.measuredPages = .ok measured)

include found

/-- The next page is where it was at the start, and any page before it in that place had its size. -/
theorem FitsPages.next (fits : FitsPages streams target start done current)
    (split : measured = done ++ page :: rest) :
    ∃ (stored : ObjectId) (old entries : Dictionary),
      start.resolve page.id = .ok (stored, .dictionary old) ∧
      current.resolve page.id = .ok (stored, .dictionary entries) ∧
      ∀ other ∈ done, start.place? other.id = some stored → other.size = page.size := by
  obtain ⟨_, sized⟩ := measuredPages_eq_ok_iff.1 found
  -- This page and those before it are all among the measured ones.
  have here := sized page (by simp [split])
  obtain ⟨stored, old, resolved⟩ := exists_resolve_of_pageSize here
  obtain ⟨entries, there, _⟩ := fits.resolve resolved
  refine ⟨stored, old, entries, resolved, there, ?_⟩
  intro other member same
  exact size_eq_of_place? here (sized other (by simp [split, member])) (place?_of_resolve resolved) same

/-- Growing always takes the next page along. -/
theorem FitsPages.grow (fits : FitsPages 0 target start done current)
    (split : measured = done ++ page :: rest) :
    ∃ later, growPage target current page = (.ok (), later) ∧
      FitsPages 0 target start (done ++ [page]) later := by
  -- The next page is still where it was at the start, and only its own boxes change.
  obtain ⟨stored, old, entries, resolved, there, alike⟩ := fits.next found split
  exact ⟨_, growPage_eq there,
    fits.advance (place?_of_resolve resolved) alike (fitsPage_boxed fits.numbered there _)⟩

/-- The pages that are left have room for their streams. -/
theorem FitsPages.room (fits : FitsPages 2 target start done current)
    (split : measured = done ++ page :: rest)
    (room : start.maxId + 2 * start.pages.length < UInt32.size) :
    current.maxId + 2 < UInt32.size := by
  -- At least this page is still to get its two streams.
  have counted := congrArg List.length (measuredPages_eq_ok_iff.1 found).1
  rw [List.length_map, split, List.length_append, List.length_cons] at counted
  rw [fits.maxId]
  omega

/-- Shrinking takes the next page along when it succeeds. -/
theorem FitsPages.shrink (fits : FitsPages 2 target start done current)
    (split : measured = done ++ page :: rest)
    (room : start.maxId + 2 * start.pages.length < UInt32.size)
    (passed : shrinkPage target factor current page = (.ok (), later)) :
    FitsPages 2 target start (done ++ [page]) later := by
  -- The step has passed, so the contents of the page have been readable.
  obtain ⟨stored, old, entries, resolved, there, alike⟩ := fits.next found split
  obtain ⟨items, _, shrinks⟩ :=
    exists_contents_of_shrinkPage fits.numbered (fits.room found split room) there passed
  exact fits.advance (place?_of_resolve resolved) alike shrinks.toFitsPage

end pass

end Document

end PdfResize
