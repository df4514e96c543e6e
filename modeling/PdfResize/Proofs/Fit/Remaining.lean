import PdfResize.Proofs.Document.Pruning
import PdfResize.Proofs.Fit.Pages

/-! What is left of the pages after a fit, also where a new stream has come to stand in the place of an old object. -/

namespace PdfResize.Document

/-- What is stored in a place has the rectangle of a size under the keys of all boxes, if it is a dictionary. -/
def BoxesAt (document : Document) (stored : ObjectId) (size : PageSize) : Prop :=
  ∀ page : Dictionary, document.objects.get? stored = some (.dictionary page) →
    ∀ box : PageBox, page.get? box.key = some size.rectangle

/-- What is left of a document when some of its pages have been fitted, whatever numbers its objects have. -/
structure LeavesPages (target : PageSize) (before : Document) (done : List MeasuredPage)
    (after : Document) : Prop where
  /-- Every reference and every dictionary goes back to an old one. -/
  inherits : Inherits fitKeys (before.IsPlaceOf done) before after
  /-- A dictionary that is left of these pages has the boxes of the target, as it applies to its old size. -/
  boxes : ∀ {page stored}, page ∈ done → before.place? page.id = some stored →
    after.BoxesAt stored (target.orientedLike page.size)

variable {document current before after later result : Document} {id stored : ObjectId}
  {size target : PageSize} {keys : List Bytes} {places : ObjectId → Prop}
  {factor : Single} {measured done rest : List MeasuredPage} {page : MeasuredPage} {entries : Dictionary}

/-! ### One page -/

/-- Boxes stay where neither their entries nor their place is changed. -/
theorem BoxesAt.of_inherits (boxes : before.BoxesAt stored size)
    (inherits : Inherits keys places before after)
    (apart : ¬ places stored ∨ ∀ box : PageBox, box.key ∉ keys) : after.BoxesAt stored size := by
  -- The dictionary that is there now was there before, or has kept its boxes.
  intro entries present box
  obtain ⟨old, stood, same, kept⟩ := inherits.dictionaries present
  rcases apart with outside | others
  · rw [kept outside]
    exact boxes old stood box
  · rw [same _ (others box)]
    exact boxes old stood box

/-- After boxes are set in a place, they are the boxes there. -/
theorem boxesAt_boxed (document : Document) (stored : ObjectId) (entries : Dictionary) (size : PageSize) :
    (document.boxed stored entries size).BoxesAt stored size := by
  -- The dictionary in the place is the one that was put.
  intro page present box
  rw [boxed, get?_put, if_pos rfl] at present
  cases present
  exact entries.get?_setBoxes_key size box

/-- Setting the boxes of a page changes the entries of its boxes only. -/
theorem inherits_boxed (found : document.resolve id = .ok (stored, .dictionary entries)) (size : PageSize) :
    Inherits PageBox.keys (· = stored) document (document.boxed stored entries size) :=
  -- One dictionary is put, and no other entry of it is set.
  inherits_put (get?_of_resolve found) fun _ apart => entries.get?_setBoxes_other size apart

/-- What a step that fits a page leaves of the document. -/
structure LeavesPage (stored : ObjectId) (size : PageSize) (before after : Document) : Prop where
  inherits : Inherits fitKeys (· = stored) before after
  boxes : after.BoxesAt stored size

/-- Setting the boxes of a page leaves it with them. -/
theorem leavesPage_boxed (found : document.resolve id = .ok (stored, .dictionary entries))
    (size : PageSize) : LeavesPage stored size document (document.boxed stored entries size) where
  -- Nothing else has been written.
  inherits := (inherits_boxed found size).mono (fun _ among => List.mem_cons_of_mem _ among)
    fun _ here => here
  boxes := boxesAt_boxed document stored entries size

/-- A page that has grown is left with the target as its boxes. -/
theorem exists_leavesPage_of_growPage (passed : growPage target document page = (.ok (), later)) :
    ∃ stored entries, document.resolve page.id = .ok (stored, .dictionary entries) ∧
      LeavesPage stored (target.orientedLike page.size) document later := by
  -- Growing a page sets its boxes and does nothing else.
  unfold growPage at passed
  split at passed
  · rename_i boxed
    cases passed
    obtain ⟨stored, entries, found, rfl⟩ := exists_resolve_of_setPageBoxes boxed
    exact ⟨stored, entries, found, leavesPage_boxed found _⟩
  · cases passed

/-- A page that has shrunk is left with the target as its boxes. -/
theorem exists_leavesPage_of_shrinkPage
    (passed : shrinkPage target factor document page = (.ok (), later)) :
    ∃ stored entries, document.resolve page.id = .ok (stored, .dictionary entries) ∧
      LeavesPage stored (target.orientedLike page.size) document later := by
  unfold shrinkPage at passed
  split at passed
  · rename_i boxed
    obtain ⟨stored, entries, found, rfl⟩ := exists_resolve_of_setPageBoxes boxed
    obtain ⟨place, old, there, wraps⟩ := exists_inherits_of_wrapContent passed
    have set := leavesPage_boxed found (target.orientedLike page.size)
    -- The page is still where its boxes have been set.
    have same : place = stored := by
      rw [resolve_boxed found] at there
      cases there
      rfl
    subst same
    refine ⟨place, entries, found, set.inherits.trans (wraps.mono ?_ fun _ here => here), ?_⟩
    · intro key among
      exact List.mem_singleton.1 among ▸ List.mem_cons_self
    · -- Of the two keys that are written one after the other, neither is the other.
      refine set.boxes.of_inherits wraps (.inr fun box among => ?_)
      exact contents_not_mem_keys (List.mem_singleton.1 among ▸ box.key_mem_keys)
  · cases passed

/-! ### All pages -/

namespace LeavesPages

/-- Before the first page there is nothing to be left. -/
theorem start (target : PageSize) (document : Document) : LeavesPages target document [] document where
  -- The document is the old one.
  inherits := .refl _ _ document
  boxes member := absurd member List.not_mem_nil

/-- After one more page has been fitted, what is left of any of them has its boxes. -/
theorem advance {start : Document} (found : start.measuredPages = .ok measured) (split : measured = done ++ page :: rest)
    (leaves : LeavesPages target start done current)
    (there : current.resolve page.id = .ok (stored, .dictionary entries))
    (left : LeavesPage stored (target.orientedLike page.size) current later) :
    LeavesPages target start (done ++ [page]) later := by
  -- The page goes back to the one in its place at the start, so that places can be compared there.
  obtain ⟨old, resolved, _⟩ := leaves.inherits.resolve_dictionary there
  have located := place?_of_resolve resolved
  obtain ⟨_, sized⟩ := measuredPages_eq_ok_iff.1 found
  refine ⟨(leaves.inherits.mono (fun _ among => among) ?_).trans
    (left.inherits.mono (fun _ among => among) ?_), ?_⟩
  · rintro place ⟨other, member, same⟩
    exact ⟨other, List.mem_append_left _ member, same⟩
  · rintro place rfl
    exact ⟨page, List.mem_append_right _ (List.mem_singleton_self page), located⟩
  · intro other place member same
    rcases List.mem_append.1 member with earlier | last
    · -- An earlier page keeps its boxes, or it is in the place whose boxes were set again.
      by_cases here : place = stored
      · subst here
        rw [size_eq_of_place? (sized page (by simp [split])) (sized other (by simp [split, earlier]))
          located same]
        exact left.boxes
      · exact (leaves.boxes earlier same).of_inherits left.inherits (.inl here)
    · rw [List.mem_singleton.1 last] at same ⊢
      rw [located] at same
      cases same
      exact left.boxes

end LeavesPages

variable {options : FitOptions} {outcome : Outcome}

/-- A fit that changes the document leaves every page with the target as its boxes. -/
theorem leavesPages_of_fit (fitted : document.fit options target = (.ok outcome, result))
    (changed : outcome.isChanged) : target.isUsable ∧ ∃ measured,
      document.measuredPages = .ok measured ∧ LeavesPages target document measured result := by
  -- The invariant is carried along either pass, whatever numbers are given out.
  obtain ⟨usable, measured, found, branch⟩ := fit_eq_ok_cases fitted
  refine ⟨usable, measured, found, ?_⟩
  rcases branch with ⟨rfl, _⟩ | ⟨_, passed⟩ | ⟨factor, _, passed⟩
  · cases changed
  · refine eachPage_holds ?_ (.start target document) passed
    intro done page rest current later split leaves taken
    obtain ⟨stored, entries, there, left⟩ := exists_leavesPage_of_growPage taken
    exact leaves.advance found split there left
  · refine eachPage_holds ?_ (.start target document) passed
    intro done page rest current later split leaves taken
    obtain ⟨stored, entries, there, left⟩ := exists_leavesPage_of_shrinkPage taken
    exact leaves.advance found split there left

/--
A page that is left after a fit was a page before, and it has the boxes of the target.

The target is the one as it applies to the size that the page had. The walk through the pages has to have come
to its end before the fit.
-/
theorem boxes_of_fit (ends : document.walkEnds)
    (fitted : document.fit options target = (.ok outcome, result)) (changed : outcome.isChanged)
    {page : Page} (listed : page ∈ result.pages) : ∃ old ∈ document.pages, old.id = page.id ∧
      ∃ size entries, document.pageSize old.number old.id = .ok size ∧
        result.dictionary page.id = .ok entries ∧
        ∀ box : PageBox, entries.get? box.key = some (target.orientedLike size).rectangle := by
  obtain ⟨_, measured, found, leaves⟩ := leavesPages_of_fit fitted changed
  have among := mem_pageIds_iff.2 ⟨page, listed, rfl⟩
  obtain ⟨old, oldListed, same⟩ :=
    mem_pageIds_iff.1 (leaves.inherits.mem_pageIds treeKeys_apart ends among)
  obtain ⟨size, member, sized⟩ := exists_measured found oldListed
  refine ⟨old, oldListed, same, size, ?_⟩
  -- What the page leads to is a dictionary in the place of the old one.
  obtain ⟨entries, there⟩ := exists_dictionary_of_mem_pageIds among
  obtain ⟨stored, resolved⟩ := exists_resolve_of_dictionary there
  obtain ⟨_, stood, _⟩ := leaves.inherits.resolve_dictionary resolved
  have located := place?_of_resolve stood
  rw [← same] at located
  exact ⟨entries, sized, there, leaves.boxes member located entries (get?_of_resolve resolved)⟩

end PdfResize.Document
