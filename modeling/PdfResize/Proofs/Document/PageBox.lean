import PdfResize.Document.PageBox
import PdfResize.Proofs.Document.Rewriting
import PdfResize.Proofs.PageSize

/-! The boxes of a page: measuring a page, setting all boxes of it, and measuring it again. -/

namespace PdfResize

/-- The keys under which a page holds its boxes. -/
def PageBox.keys : List Bytes := PageBox.all.map PageBox.key

/-- The key of every box is among the keys that are set. -/
theorem PageBox.key_mem_keys (box : PageBox) : box.key ∈ PageBox.keys := by
  -- All boxes are listed.
  have listed : box ∈ PageBox.all := by cases box <;> decide
  exact List.mem_map_of_mem listed

namespace Dictionary

/-- Setting one key leaves all others as they were. -/
theorem get?_set_other (dictionary : Dictionary) {key other : Bytes} (apart : other ≠ key)
    (value : Object) : (dictionary.set key value).get? other = dictionary.get? other := by
  -- The lookup of a key that was set is decided by which key it is.
  rw [get?_set, if_neg apart]

/-- Setting one value under several keys puts it under each of them and changes nothing else. -/
theorem get?_foldl_set {Key : Type} (keyOf : Key → Bytes) (value : Object) (keys : List Key)
    (page : Dictionary) (other : Bytes) :
    (keys.foldl (fun page key => page.set (keyOf key) value) page : Dictionary).get? other =
      if other ∈ keys.map keyOf then some value else page.get? other := by
  -- The last key that is set decides, and all keys are set to the same value.
  induction keys generalizing page with
  | nil => simp
  | cons key rest ih =>
    rw [List.foldl_cons, ih, get?_set]
    by_cases later : other ∈ rest.map keyOf
    · simp [later]
    · by_cases here : other = keyOf key
      · simp [here]
      · simp [later, here]

/-- Setting the boxes puts the rectangle under their keys and changes nothing else. -/
theorem get?_setBoxes (page : Dictionary) (size : PageSize) (other : Bytes) :
    (page.setBoxes size).get? other =
      if other ∈ PageBox.keys then some size.rectangle else page.get? other :=
  -- The boxes are set one after the other, and all of them to the same rectangle.
  get?_foldl_set PageBox.key size.rectangle PageBox.all page other

/-- Each of the boxes is the rectangle of the size. -/
theorem get?_setBoxes_key (page : Dictionary) (size : PageSize) (box : PageBox) :
    (page.setBoxes size).get? box.key = some size.rectangle := by
  -- The key of a box is one of the keys that are set.
  rw [get?_setBoxes, if_pos box.key_mem_keys]

/-- An entry that is no box is left alone. -/
theorem get?_setBoxes_other (page : Dictionary) (size : PageSize) {other : Bytes}
    (apart : other ∉ PageBox.keys) : (page.setBoxes size).get? other = page.get? other := by
  -- Its key is none of the keys that are set.
  rw [get?_setBoxes, if_neg apart]

end Dictionary

namespace Document

variable {document : Document} {number : Nat} {id stored : ObjectId} {page : Dictionary}
  {size : PageSize}

/-- The coordinates of the media box of a page, as they are read. -/
def corners? (document : Document) (id : ObjectId) : Option (List Single) := do
  (← document.mediaBox? ancestorLimit id).mapM document.coordinate?

/-- A node with a media box ends the search for one. -/
theorem mediaBox?_of_entry {nodes : Nat} {box : Object} (found : document.dictionary id = .ok page)
    (entry : page.get? PageBox.media.key = some box) : document.mediaBox? (nodes + 1) id =
      (document.value box).toOption.bind Object.items? := by
  -- The search ends at the first node, whose entry is given.
  rw [mediaBox?, found]
  simp only [Except.toOption, Option.bind_eq_bind, Option.bind_some, entry]

/-- What is no dictionary ends the search without one. -/
theorem mediaBox?_of_error {nodes : Nat} {cause : AccessError}
    (failed : document.dictionary id = .error cause) : document.mediaBox? nodes id = none := by
  -- The search needs the dictionary of the node it is at, however far it may go.
  cases nodes with
  | zero => rfl
  | succ nodes =>
    rw [mediaBox?, failed]
    rfl

/-- The rectangle of a size is a row of four numbers. -/
theorem items?_rectangle (document : Document) (size : PageSize) :
    (document.value size.rectangle).toOption.bind Object.items? =
      some [.real 0, .real 0, .real size.width, .real size.height] := rfl

/-- A page has a size when four coordinates are read and a usable size lies between the two corners. -/
theorem pageSize_eq_ok_iff : document.pageSize number id = .ok size ↔ ∃ x1 y1 x2 y2,
    document.corners? id = some [x1, y1, x2, y2] ∧ size = sizeBetween x1 y1 x2 y2 ∧
      size.isUsable := by
  -- The search gives four corners or something else, and their rectangle is usable or not.
  unfold pageSize corners?
  simp only
  split
  · rename_i x1 y1 x2 y2 corners
    split
    · rename_i usable
      constructor
      · rintro ⟨⟩
        exact ⟨x1, y1, x2, y2, corners, rfl, usable⟩
      · rintro ⟨_, _, _, _, same, rfl, _⟩
        rw [corners] at same
        cases same
        rfl
    · -- A size that is not usable is refused.
      rename_i unusable
      constructor
      · rintro ⟨⟩
      · rintro ⟨_, _, _, _, same, rfl, usable⟩
        rw [corners] at same
        cases same
        exact absurd usable unusable
  · rename_i other
    constructor
    · rintro ⟨⟩
    · rintro ⟨_, _, _, _, same, _⟩
      exact absurd same (other _ _ _ _)

/-- What is measured at a page is a usable size, and the page leads to a dictionary. -/
theorem usable_of_pageSize (measured : document.pageSize number id = .ok size) :
    size.isUsable ∧ ∃ page, document.dictionary id = .ok page := by
  obtain ⟨_, _, _, _, corners, _, usable⟩ := pageSize_eq_ok_iff.1 measured
  refine ⟨usable, ?_⟩
  -- Without a dictionary there is no media box to begin with.
  cases found : document.dictionary id with
  | ok page => exact ⟨page, rfl⟩
  | error cause =>
    rw [corners?, mediaBox?_of_error found] at corners
    cases corners

/-- The media box of a page depends on its id only through the dictionary that the id leads to. -/
theorem mediaBox?_congr {other : ObjectId} (same : document.dictionary id = document.dictionary other)
    (nodes : Nat) : document.mediaBox? nodes id = document.mediaBox? nodes other := by
  -- After its first dictionary the search does not know where it began.
  cases nodes with
  | zero => rfl
  | succ nodes => simp only [mediaBox?, same]

/-- Ids that lead to one dictionary are measured alike. -/
theorem pageSize_congr {otherNumber : Nat} {other : ObjectId}
    (same : document.dictionary id = document.dictionary other)
    (measured : document.pageSize number id = .ok size) :
    document.pageSize otherNumber other = .ok size := by
  -- Only errors mention the number of the page.
  rw [pageSize_eq_ok_iff] at measured ⊢
  unfold corners? at measured ⊢
  rwa [mediaBox?_congr same] at measured

/-- A usable size is what lies between the corners of its rectangle. -/
theorem sizeBetween_rectangle (usable : size.isUsable) :
    sizeBetween 0 0 size.width size.height = size := by
  -- Nothing is taken away from either extent, and neither changes its sign.
  simp only [PageSize.isUsable, Bool.and_eq_true, decide_eq_true_eq] at usable
  obtain ⟨⟨_, widthPositive⟩, heightPositive⟩ := usable
  simp only [sizeBetween, Binary.sub_zero, Binary.abs_of_pos widthPositive,
    Binary.abs_of_pos heightPositive]

/-- The corners of a page with a rectangle as its own media box are those of the rectangle. -/
theorem corners?_of_rectangle (found : document.dictionary id = .ok page)
    (box : page.get? PageBox.media.key = some size.rectangle) :
    document.corners? id = some [0, 0, size.width, size.height] := by
  -- The entry is found in the page itself, and numbers in place are read as they are.
  rw [corners?, ancestorLimit, mediaBox?_of_entry found box, items?_rectangle]
  rfl

/-- A page with the rectangle of a usable size as its own media box has that size. -/
theorem pageSize_of_rectangle (found : document.dictionary id = .ok page)
    (box : page.get? PageBox.media.key = some size.rectangle) (usable : size.isUsable) :
    document.pageSize number id = .ok size :=
  -- The corners are the origin and the size, and the rectangle between them is the size again.
  pageSize_eq_ok_iff.2 ⟨0, 0, size.width, size.height, corners?_of_rectangle found box,
    (sizeBetween_rectangle usable).symm, usable⟩

/-- Setting the boxes of a page rewrites its dictionary where it is stored. -/
theorem setPageBoxes_eq (found : document.resolve id = .ok (stored, .dictionary page))
    (size : PageSize) :
    document.setPageBoxes id size = .ok (document.put stored (.dictionary (page.setBoxes size))) := by
  -- The place and the dictionary in it are given, so the change is made there.
  unfold setPageBoxes modifyDictionary
  rw [found]
  rfl

/-- Setting the boxes of a page rewrites those entries of one dictionary. -/
theorem rewrites_setBoxes (found : document.resolve id = .ok (stored, .dictionary page))
    (size : PageSize) : Rewrites PageBox.keys (· = stored) document
      (document.put stored (.dictionary (page.setBoxes size))) :=
  -- No other entry of the dictionary is set.
  rewrites_put (get?_of_resolve found) fun _ apart => page.get?_setBoxes_other size apart

end Document

end PdfResize
