import PdfResize.Document.Content
import PdfResize.Proofs.Document.PageBox

/-! Documents whose references and dictionaries all go back to an earlier state, whatever else was put over that. -/

namespace PdfResize.Document

/--
A later state of a document, in which every reference and every dictionary stands where one stood.

A dictionary has the old values under all but some keys, and outside some places it is the old one. Of
other objects nothing is said, so that this holds also where a new object replaces an old one.
-/
structure Inherits (keys : List Bytes) (places : ObjectId → Prop) (before after : Document) : Prop where
  /-- The trailer is the old one. -/
  trailer : after.trailer = before.trailer
  /-- A reference is an old one. -/
  references : ∀ {id next}, after.objects.get? id = some (.reference next) →
    before.objects.get? id = some (.reference next)
  /-- A dictionary is an old one, at least under all other keys. -/
  dictionaries : ∀ {id} {new : Dictionary}, after.objects.get? id = some (.dictionary new) →
    ∃ old : Dictionary, before.objects.get? id = some (.dictionary old) ∧
      (∀ key, key ∉ keys → new.get? key = old.get? key) ∧ (¬ places id → new = old)

variable {document first second third : Document} {keys : List Bytes} {places : ObjectId → Prop}
  {id stored : ObjectId} {new : Dictionary} {wrapping : Wrapping}

/-- Changing a dictionary where it is stored changes it only under the keys that are set. -/
theorem inherits_put {old : Dictionary} (found : document.objects.get? stored = some (.dictionary old))
    (others : ∀ key, key ∉ keys → new.get? key = old.get? key) :
    Inherits keys (· = stored) document (document.put stored (.dictionary new)) where
  -- A dictionary is put where a dictionary was, so no reference is touched.
  trailer := rfl
  references {id next} present := by
    by_cases here : id = stored
    · simp [here] at present
    · simpa [here] using present
  dictionaries {id later} present := by
    by_cases here : id = stored
    · -- The dictionary in the place is the only object that is put.
      simp only [get?_put, here, if_true, Option.some.injEq, Object.dictionary.injEq] at present
      subst present
      exact ⟨old, here ▸ found, others, fun apart => absurd here apart⟩
    · exact ⟨later, by simpa [here] using present, fun _ _ => rfl, fun _ => rfl⟩

/-- Adding a stream brings no reference and no dictionary, even where it replaces an object. -/
theorem inherits_add (document : Document) (content : Bytes) (keys : List Bytes)
    (places : ObjectId → Prop) : Inherits keys places document (document.add (.ofContent content)) := by
  -- What is no stream was there before.
  have old : ∀ {id object}, (∀ entries bytes, object ≠ .stream entries bytes) →
      (document.add (.ofContent content)).objects.get? id = some object →
      document.objects.get? id = some object := by
    intro id object other present
    rw [get?_add] at present
    split at present
    · cases present
      exact absurd rfl (other _ _)
    · exact present
  refine ⟨rfl, ?_, ?_⟩
  · intro id next present
    exact old (fun _ _ same => by cases same) present
  · intro id later present
    exact ⟨later, old (fun _ _ same => by cases same) present, fun _ _ => rfl, fun _ => rfl⟩

namespace Inherits

/-- A document inherits everything from itself. -/
theorem refl (keys : List Bytes) (places : ObjectId → Prop) (document : Document) :
    Inherits keys places document document where
  -- Each object is its own original.
  trailer := rfl
  references found := found
  dictionaries found := ⟨_, found, fun _ _ => rfl, fun _ => rfl⟩

/-- A change that follows another inherits through both. -/
theorem trans (left : Inherits keys places first second) (right : Inherits keys places second third) :
    Inherits keys places first third where
  trailer := right.trailer.trans left.trailer
  references found := left.references (right.references found)
  dictionaries found := by
    -- A value that neither change reaches goes back through both.
    obtain ⟨between, middle, later, laterKept⟩ := right.dictionaries found
    obtain ⟨old, present, earlier, earlierKept⟩ := left.dictionaries middle
    exact ⟨old, present, fun key other => (later key other).trans (earlier key other),
      fun apart => (laterKept apart).trans (earlierKept apart)⟩

/-- More keys and more places may always be allowed to change. -/
theorem mono {moreKeys : List Bytes} {morePlaces : ObjectId → Prop}
    (keysIncluded : ∀ key ∈ keys, key ∈ moreKeys) (placesIncluded : ∀ id, places id → morePlaces id)
    (inherits : Inherits keys places first second) : Inherits moreKeys morePlaces first second where
  -- Only the clause about dictionaries names the keys and the places.
  trailer := inherits.trailer
  references := inherits.references
  dictionaries found := by
    obtain ⟨old, present, same, kept⟩ := inherits.dictionaries found
    exact ⟨old, present, fun key other => same key fun among => other (keysIncluded key among),
      fun apart => kept fun inside => apart (placesIncluded _ inside)⟩

variable (inherits : Inherits keys places first second)

include inherits

/-- A chain that leads to a dictionary led to one in the same place before. -/
theorem leads {links : Nat} {object : Object} (chain : second.Leads links id stored object)
    (ends : object = .dictionary new) :
    ∃ old : Dictionary, first.Leads links id stored (.dictionary old) := by
  induction chain with
  | here found _ =>
    subst ends
    obtain ⟨old, present, _⟩ := inherits.dictionaries found
    exact ⟨old, .here present fun next same => by cases same⟩
  | link found _ ih =>
    -- The reference was there before, and so was the rest of the chain.
    obtain ⟨old, chain⟩ := ih ends
    exact ⟨old, .link (inherits.references found) chain⟩

/-- A dictionary that an id leads to goes back to one that the id led to in the same place. -/
theorem resolve_dictionary (found : second.resolve id = .ok (stored, .dictionary new)) :
    ∃ old : Dictionary, first.resolve id = .ok (stored, .dictionary old) ∧
      ∀ key, key ∉ keys → new.get? key = old.get? key := by
  obtain ⟨old, chain⟩ := inherits.leads (follow_eq_ok_iff.1 found) rfl
  obtain ⟨again, present, same, _⟩ := inherits.dictionaries (get?_of_resolve found)
  -- What the chain led to is what stood in the place.
  rw [chain.get?_stored] at present
  cases present
  exact ⟨old, follow_eq_ok_iff.2 chain, same⟩

/-- A dictionary of the later document is one of the earlier, but for the changed keys. -/
theorem dictionary (found : second.dictionary id = .ok new) :
    ∃ old : Dictionary, first.dictionary id = .ok old ∧
      ∀ key, key ∉ keys → new.get? key = old.get? key := by
  -- An id that resolves in the later document resolved to the same place before.
  obtain ⟨stored, resolved⟩ := exists_resolve_of_dictionary found
  obtain ⟨old, there, same⟩ := inherits.resolve_dictionary resolved
  exact ⟨old, dictionary_of_resolve there, same⟩

end Inherits

/-- Wrapping the content of a page changes one entry of the page and brings no other dictionary. -/
theorem exists_inherits_of_wrapContent {later : Document}
    (wrapped : document.wrapContent id wrapping = (.ok (), later)) :
    ∃ stored entries, document.resolve id = .ok (stored, .dictionary entries) ∧
      Inherits [ascii "Contents"] (· = stored) document later := by
  unfold wrapContent at wrapped
  split at wrapped
  · cases wrapped
  · simp only at wrapped
    split at wrapped
    · rename_i _ _ _ _ changed
      cases wrapped
      obtain ⟨stored, entries, found, rfl⟩ := exists_resolve_of_modifyDictionary changed
      -- The page is looked up behind the two streams, and it is where it was.
      have added : Inherits [ascii "Contents"] (· = stored) document _ :=
        (inherits_add document wrapping.separated.opening _ _).trans
          (inherits_add _ wrapping.separated.closing _ _)
      obtain ⟨old, there, _⟩ := added.resolve_dictionary found
      refine ⟨stored, old, there, added.trans (inherits_put (get?_of_resolve found) ?_)⟩
      intro key apart
      exact entries.get?_set_other (fun same => apart (List.mem_singleton.2 same)) _
    · cases wrapped

end PdfResize.Document
