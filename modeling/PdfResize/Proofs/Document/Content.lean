import PdfResize.Document.Content
import PdfResize.Proofs.Document.Rewriting

/-! The content lists of pages: what counts as one, how a rewriting keeps them, and wrapping them. -/

namespace PdfResize.Document

/--
What a content entry lists.

There may be no entry, or one without content; else there is a list, in place or stored apart, or one stream.
-/
inductive EntryLists (document : Document) : Option Object → List Object → Prop where
  /-- Without an entry there is no content. -/
  | absent : EntryLists document none []
  /-- The null object is no content either. -/
  | null : EntryLists document (some .null) []
  /-- An array in place is the list. -/
  | direct (items : List Object) : EntryLists document (some (.array items)) items
  /-- An array that references lead to is the list. -/
  | stored {content : ObjectId} {items : List Object}
    (found : document.object content = .ok (.array items)) :
    EntryLists document (some (.reference content)) items
  /-- A reference that leads to a stream is the only item. -/
  | single {content : ObjectId} {entries : Dictionary} {bytes : Bytes}
    (found : document.object content = .ok (.stream entries bytes)) :
    EntryLists document (some (.reference content)) [.reference content]

/-- The page that an id leads to has a content entry that lists these items. -/
def HasContents (document : Document) (id : ObjectId) (items : List Object) : Prop :=
  ∃ page, document.dictionary id = .ok page ∧
    document.EntryLists (page.get? (ascii "Contents")) items

/-- What is wrong with a content entry that lists nothing, in the words of the page that has it. -/
def entryFault? (document : Document) (id : ObjectId) : Option Object → Option FitError
  | none | some .null | some (.array _) => none
  | some (.reference content) =>
    match document.object content with
    | .ok (.array _) | .ok (.stream _ _) => none
    | .ok _ => some (.operation (.contentsType id))
    | .error cause => some (.operation (.contents id cause))
  | some _ => some (.operation (.contentsMalformed id))

/-- What is wrong with the content of a page. -/
def contentsFault? (document : Document) (id : ObjectId) : Option FitError :=
  match document.dictionary id with
  | .ok page => document.entryFault? id (page.get? (ascii "Contents"))
  | .error cause => some (.operation (.page id cause))

/--
A content entry lists nothing and never will, whatever objects are added.

An entry that leads to a missing object is left out, since that object may be added.
-/
def IsMalformed (document : Document) (entry : Option Object) : Prop :=
  (∀ items, ¬ document.EntryLists entry items) ∧
    ∀ content, entry = some (.reference content) → document.object content ≠ .error .missing

variable {document : Document} {id stored : ObjectId} {page : Dictionary} {items : List Object}

/-- The content of a page is read exactly when its entry lists it. -/
theorem contents_eq_ok_iff : document.contents id = .ok items ↔ document.HasContents id items := by
  -- Each branch that answers a list is one way of listing it.
  unfold contents HasContents
  constructor
  · intro read
    split at read
    · cases read
    · rename_i page found
      refine ⟨page, found, ?_⟩
      split at read
      · rename_i entry
        cases read
        exact entry ▸ .absent
      · rename_i entry
        cases read
        exact entry ▸ .null
      · rename_i entry
        cases read
        exact entry ▸ .direct _
      · rename_i content entry
        split at read
        · rename_i found
          cases read
          exact entry ▸ .stored found
        · rename_i found
          cases read
          exact entry ▸ .single found
        · cases read
        · cases read
      · cases read
  · rintro ⟨page, found, lists⟩
    rw [found]
    generalize entry : page.get? (ascii "Contents") = value at lists
    cases lists with
    | absent => simp [entry]
    | null => simp [entry]
    | direct => simp [entry]
    | stored array => simp [entry, array]
    | single stream => simp [entry, stream]

/-- A content entry lists one thing. -/
theorem EntryLists.unique {entry : Option Object} {others : List Object}
    (left : document.EntryLists entry items) (right : document.EntryLists entry others) :
    items = others := by
  -- The shape of the entry decides which rule lists it, and a stored object is either an array or not.
  cases left with
  | absent => cases right; rfl
  | null => cases right; rfl
  | direct => cases right; rfl
  | stored found =>
    cases right with
    | stored again =>
      rw [found] at again
      cases again
      rfl
    | single again =>
      rw [found] at again
      cases again
  | single found =>
    cases right with
    | stored again =>
      rw [found] at again
      cases again
    | single again => rfl

/-- Content is read at a dictionary that is stored somewhere. -/
theorem exists_resolve_of_contents (readable : document.contents id = .ok items) :
    ∃ stored, ∃ entries : Dictionary, document.resolve id = .ok (stored, .dictionary entries) ∧
      document.EntryLists (entries.get? (ascii "Contents")) items := by
  -- The contents are listed by an entry of the page, which is stored somewhere.
  obtain ⟨entries, found, lists⟩ := contents_eq_ok_iff.1 readable
  obtain ⟨stored, resolved⟩ := exists_resolve_of_dictionary found
  exact ⟨stored, entries, resolved, lists⟩

/-- The content of a page is refused exactly when something is wrong with it, with that error. -/
theorem contents_eq_error_iff {error : FitError} :
    document.contents id = .error error ↔ document.contentsFault? id = some error := by
  -- Both look at the same entry, and the branches that answer no list name the fault.
  unfold contents contentsFault? entryFault?
  cases found : document.dictionary id with
  | error cause => simp
  | ok page =>
    simp only
    cases entry : page.get? (ascii "Contents") with
    | none => simp
    | some object =>
      cases object with
      | reference content =>
        simp only
        cases document.object content with
        | error cause => simp
        | ok target => cases target <;> simp
      | _ => simp

/-- Nothing is wrong with the content of a page exactly when the page has some. -/
theorem contentsFault?_eq_none_iff :
    document.contentsFault? id = none ↔ ∃ items, document.HasContents id items := by
  constructor
  · intro clean
    cases read : document.contents id with
    | ok items => exact ⟨items, contents_eq_ok_iff.1 read⟩
    | error error =>
      rw [contents_eq_error_iff, clean] at read
      cases read
  · rintro ⟨items, has⟩
    cases fault : document.contentsFault? id with
    | none => rfl
    | some error =>
      -- What is listed is read, so it is not refused.
      have refused := contents_eq_error_iff.2 fault
      rw [contents_eq_ok_iff.2 has] at refused
      cases refused

/-- Ids that lead to one dictionary lead to one content, though its faults would be worded apart. -/
theorem HasContents.of_dictionary {other : ObjectId} (has : document.HasContents other items)
    (same : document.dictionary id = document.dictionary other) : document.HasContents id items := by
  -- Contents are read from the dictionary and from nothing else.
  obtain ⟨page, found, lists⟩ := has
  exact ⟨page, same.trans found, lists⟩

namespace Rewrites

variable {keys : List Bytes} {places : ObjectId → Prop} {before after : Document}

/-- A content entry lists in a later state what it listed before. -/
theorem entryLists (rewrites : Rewrites keys places before after) {entry : Option Object}
    (lists : before.EntryLists entry items) : after.EntryLists entry items := by
  cases lists with
  | absent => exact .absent
  | null => exact .null
  | direct => exact .direct items
  | stored found =>
    obtain ⟨place, resolved⟩ := exists_resolve_of_object found
    obtain ⟨later, there, rewritten⟩ := rewrites.resolve resolved
    -- An array is no dictionary, so it is as it was.
    cases rewritten
    exact .stored (object_of_resolve there)
  | single found =>
    obtain ⟨place, resolved⟩ := exists_resolve_of_object found
    obtain ⟨later, there, rewritten⟩ := rewrites.resolve resolved
    cases rewritten
    exact .single (object_of_resolve there)

/-- A page whose content entry is not rewritten has the same content in a later state. -/
theorem hasContents (rewrites : Rewrites keys places before after) {later : Dictionary}
    (had : before.HasContents id items) (found : before.dictionary id = .ok page)
    (there : after.dictionary id = .ok later)
    (same : later.get? (ascii "Contents") = page.get? (ascii "Contents")) :
    after.HasContents id items := by
  -- The page had this dictionary and no other.
  obtain ⟨holder, holds, lists⟩ := had
  rw [found] at holds
  cases holds
  exact ⟨later, there, same ▸ rewrites.entryLists lists⟩

/-- A content entry has the same fault in a later state, when all references are to old numbers. -/
theorem entryFault? (rewrites : Rewrites keys places before after)
    (references : before.ReferencesNumbered) {entry : Option Object}
    (bounded : ∀ content, entry = some (.reference content) → content.number ≤ before.maxId) :
    after.entryFault? id entry = before.entryFault? id entry := by
  -- Only an entry that is a reference is looked up in the document.
  unfold Document.entryFault?
  split
  · rfl
  · rfl
  · rfl
  · rename_i content
    cases target : before.object content with
    | error cause => rw [rewrites.object_error (fun _ => ⟨references, bounded content rfl⟩) target]
    | ok object =>
      obtain ⟨place, resolved⟩ := exists_resolve_of_object target
      obtain ⟨later, there, rewritten⟩ := rewrites.resolve resolved
      rw [object_of_resolve there]
      -- A dictionary is rewritten to a dictionary, which is no content either.
      cases rewritten with
      | same => rfl
      | entries others => rfl
  · rfl

/-- A malformed content entry stays malformed. -/
theorem isMalformed (rewrites : Rewrites keys places before after) {entry : Option Object}
    (malformed : before.IsMalformed entry) : after.IsMalformed entry := by
  obtain ⟨nothing, present⟩ := malformed
  -- What a reference leads to is as unfit to be content as it was.
  have stays : ∀ content, entry = some (.reference content) →
      (∃ cause, cause ≠ .missing ∧ after.object content = .error cause) ∨
        ∃ object, after.object content = .ok object ∧ object.items? = none ∧
          ∀ entries bytes, object ≠ .stream entries bytes := by
    rintro content rfl
    cases target : before.object content with
    | error cause =>
      have proper : cause ≠ .missing := fun missing => present content rfl (missing ▸ target)
      exact .inl ⟨cause, proper, rewrites.object_error (fun missing => absurd missing proper) target⟩
    | ok object =>
      obtain ⟨place, resolved⟩ := exists_resolve_of_object target
      obtain ⟨later, there, rewritten⟩ := rewrites.resolve resolved
      refine .inr ⟨later, object_of_resolve there, ?_⟩
      cases rewritten with
      | entries others => exact ⟨rfl, fun _ _ same => by cases same⟩
      | same =>
        -- An array or a stream would have been content.
        cases object with
        | array items => exact absurd (.stored target) (nothing items)
        | stream entries bytes => exact absurd (.single target) (nothing _)
        | _ => exact ⟨rfl, fun _ _ same => by cases same⟩
  constructor
  · intro items lists
    cases lists with
    | absent => exact nothing [] .absent
    | null => exact nothing [] .null
    | direct => exact nothing items (.direct items)
    | stored found =>
      rcases stays _ rfl with ⟨_, _, failed⟩ | ⟨_, there, unfit, _⟩
      · rw [failed] at found
        cases found
      · rw [there] at found
        cases found
        cases unfit
    | single found =>
      rcases stays _ rfl with ⟨_, _, failed⟩ | ⟨_, there, _, unfit⟩
      · rw [failed] at found
        cases found
      · rw [there] at found
        cases found
        exact unfit _ _ rfl
  · intro content same missing
    rcases stays content same with ⟨cause, proper, failed⟩ | ⟨_, there, _⟩
    · rw [failed] at missing
      cases missing
      exact proper rfl
    · rw [there] at missing
      cases missing

end Rewrites

end PdfResize.Document
