import PdfResize.Proofs.Document.Chain
import PdfResize.Proofs.Document.Numbering

/-! Following references through a document whose dictionaries are rewritten and to which objects are added. -/

namespace PdfResize

/-- An object after the entries under some keys may have changed, which only a dictionary has. -/
inductive Object.Rewritten (keys : List Bytes) : Object → Object → Prop where
  /-- Nothing has changed. -/
  | same (object : Object) : Rewritten keys object object
  /-- The entries under all other keys are the old ones. -/
  | entries {old new : Dictionary} (others : ∀ key, key ∉ keys → new.get? key = old.get? key) :
    Rewritten keys (.dictionary old) (.dictionary new)

namespace Object.Rewritten

variable {keys : List Bytes} {first second third : Object}

/-- An object that is rewritten twice is rewritten. -/
theorem trans (left : Rewritten keys first second) (right : Rewritten keys second third) :
    Rewritten keys first third := by
  -- An entry that neither rewriting reaches passes through both.
  cases left with
  | same => exact right
  | entries before =>
    cases right with
    | same => exact .entries before
    | entries after => exact .entries fun key other => (after key other).trans (before key other)

/-- More keys may always be allowed to change. -/
theorem mono {more : List Bytes} (included : ∀ key ∈ keys, key ∈ more)
    (rewritten : Rewritten keys first second) : Rewritten more first second := by
  -- The keys outside the larger list are outside the smaller one.
  cases rewritten with
  | same => exact .same first
  | entries others => exact .entries fun key other => others key fun inside => other (included key inside)

/-- A reference is not rewritten, and nothing is rewritten to one. -/
theorem reference_iff {id : ObjectId} (rewritten : Rewritten keys first second) :
    first = .reference id ↔ second = .reference id := by
  -- Only dictionaries are rewritten, so a reference stays itself and nothing becomes one.
  cases rewritten with
  | same => exact Iff.rfl
  | entries others => simp

end Object.Rewritten

namespace Document

/--
A later state of a document, in which only entries under some keys of the dictionaries in some places
have changed and only objects with new numbers have been added.
-/
structure Rewrites (keys : List Bytes) (places : ObjectId → Prop) (before after : Document) : Prop where
  /-- The trailer is the old one. -/
  trailer : after.trailer = before.trailer
  /-- An object in another place is the old one. -/
  kept : ∀ {id object}, before.objects.get? id = some object → ¬ places id →
    after.objects.get? id = some object
  /-- An object in any place is at most rewritten. -/
  rewritten : ∀ {id object}, before.objects.get? id = some object →
    ∃ later, after.objects.get? id = some later ∧ object.Rewritten keys later
  /-- Numbers are given out upwards. -/
  numbers : before.maxId ≤ after.maxId
  /-- An id that was free is still free, or its number has been given out since. -/
  added : ∀ {id}, before.objects.get? id = none →
    after.objects.get? id = none ∨ before.maxId < id.number

namespace Rewrites

variable {keys : List Bytes} {places : ObjectId → Prop} {first second third : Document}

/-- A document is a rewriting of itself. -/
theorem refl (keys : List Bytes) (places : ObjectId → Prop) (document : Document) :
    Rewrites keys places document document where
  -- Each object is there as it was.
  trailer := rfl
  kept found _ := found
  rewritten found := ⟨_, found, .same _⟩
  numbers := Nat.le_refl _
  added free := .inl free

/-- A document that is rewritten twice is rewritten. -/
theorem trans (left : Rewrites keys places first second) (right : Rewrites keys places second third) :
    Rewrites keys places first third where
  trailer := right.trailer.trans left.trailer
  kept found apart := right.kept (left.kept found apart) apart
  rewritten found := by
    -- The object is rewritten twice, or once, or not at all.
    obtain ⟨between, middle, before⟩ := left.rewritten found
    obtain ⟨later, last, after⟩ := right.rewritten middle
    exact ⟨later, last, before.trans after⟩
  numbers := Nat.le_trans left.numbers right.numbers
  added free := by
    -- A number given out by the second rewriting is above all that the first one gave out.
    rcases left.added free with still | given
    · rcases right.added still with last | given
      · exact .inl last
      · exact .inr (Nat.lt_of_le_of_lt left.numbers given)
    · exact .inr given

/-- More keys and more places may always be allowed to change. -/
theorem mono {moreKeys : List Bytes} {morePlaces : ObjectId → Prop}
    (keysIncluded : ∀ key ∈ keys, key ∈ moreKeys) (placesIncluded : ∀ id, places id → morePlaces id)
    (rewrites : Rewrites keys places first second) : Rewrites moreKeys morePlaces first second where
  -- Only two clauses name them, and both get weaker.
  trailer := rewrites.trailer
  kept found apart := rewrites.kept found fun inside => apart (placesIncluded _ inside)
  rewritten found := by
    obtain ⟨later, last, rewritten⟩ := rewrites.rewritten found
    exact ⟨later, last, rewritten.mono keysIncluded⟩
  numbers := rewrites.numbers
  added := rewrites.added

end Rewrites

/-- Changing a dictionary where it is stored is a rewriting of that place. -/
theorem rewrites_put {document : Document} {keys : List Bytes} {stored : ObjectId}
    {old new : Dictionary} (found : document.objects.get? stored = some (.dictionary old))
    (others : ∀ key, key ∉ keys → new.get? key = old.get? key) :
    Rewrites keys (· = stored) document (document.put stored (.dictionary new)) where
  -- One dictionary is put where a dictionary was, so no id is new.
  trailer := rfl
  kept present apart := by simpa [apart] using present
  rewritten {id object} present := by
    by_cases here : id = stored
    · -- The dictionary in the place is the only object that is put.
      subst here
      rw [found] at present
      cases present
      exact ⟨_, by simp, .entries others⟩
    · exact ⟨object, by simpa [here] using present, .same object⟩
  numbers := Nat.le_refl _
  added {id} free := by
    have apart : id ≠ stored := by
      rintro rfl
      rw [found] at free
      cases free
    exact .inl (by simpa [apart] using free)

/-- Adding an object is a rewriting of no place. -/
theorem rewrites_add {document : Document} (numbered : document.IsNumbered)
    (room : document.maxId + 1 < UInt32.size) (object : Object) (keys : List Bytes)
    (places : ObjectId → Prop) : Rewrites keys places document (document.add object) := by
  have fresh := numbered.get?_nextId room
  have kept : ∀ {id present}, document.objects.get? id = some present →
      (document.add object).objects.get? id = some present := by
    intro id present found
    -- An id with an object is not the next one.
    have apart : id ≠ document.nextId := by
      rintro rfl
      rw [fresh] at found
      cases found
    simpa [apart] using found
  refine ⟨rfl, fun found _ => kept found, fun found => ⟨_, kept found, .same _⟩, ?_, ?_⟩
  · rw [maxId_add room]
    exact Nat.le_succ _
  · -- A free id that is not free any more is the one given out.
    intro id free
    by_cases here : id = document.nextId
    · right
      rw [here, nextId_eq room]
      exact Nat.lt_succ_self _
    · exact .inl (by simpa [here] using free)

namespace Rewrites

variable {keys : List Bytes} {places : ObjectId → Prop} {before after : Document}

/-- A rewriting leaves references as they are. -/
theorem get?_reference (rewrites : Rewrites keys places before after) {id next : ObjectId}
    (found : before.objects.get? id = some (.reference next)) :
    after.objects.get? id = some (.reference next) := by
  -- An object that is rewritten is the same one or a dictionary.
  obtain ⟨later, there, rewritten⟩ := rewrites.rewritten found
  obtain rfl := rewritten.reference_iff.1 rfl
  exact there

/-- A stream is not rewritten, wherever it is stored. -/
theorem get?_stream (rewrites : Rewrites keys places before after) {id : ObjectId}
    {entries : Dictionary} {content : Bytes}
    (found : before.objects.get? id = some (.stream entries content)) :
    after.objects.get? id = some (.stream entries content) := by
  -- An object that is rewritten is the same one or a dictionary.
  obtain ⟨later, there, rewritten⟩ := rewrites.rewritten found
  cases rewritten
  exact there

/-- A chain leads to the same place in a later state. -/
theorem leads (rewrites : Rewrites keys places before after) {links : Nat} {id stored : ObjectId}
    {object : Object} (chain : before.Leads links id stored object) :
    ∃ later, after.Leads links id stored later ∧ object.Rewritten keys later := by
  -- Every reference on the way is still there, and the object at the end is still no reference.
  induction chain with
  | here found ends =>
    obtain ⟨later, there, rewritten⟩ := rewrites.rewritten found
    exact ⟨later, .here there fun next same => ends next (rewritten.reference_iff.2 same), rewritten⟩
  | link found rest ih =>
    obtain ⟨later, chain, rewritten⟩ := ih
    exact ⟨later, .link (rewrites.get?_reference found) chain, rewritten⟩

/-- What resolves before a rewriting resolves to the same place after it. -/
theorem resolve (rewrites : Rewrites keys places before after) {id stored : ObjectId}
    {object : Object} (found : before.resolve id = .ok (stored, object)) :
    ∃ later, after.resolve id = .ok (stored, later) ∧ object.Rewritten keys later := by
  -- The chain of references has been left as it was.
  obtain ⟨later, chain, rewritten⟩ := rewrites.leads (follow_eq_ok_iff.1 found)
  exact ⟨later, follow_eq_ok_iff.2 chain, rewritten⟩

/-- A dictionary is found where it was, with the old entries under all other keys. -/
theorem resolve_dictionary (rewrites : Rewrites keys places before after) {id stored : ObjectId}
    {page : Dictionary} (found : before.resolve id = .ok (stored, .dictionary page)) :
    ∃ later : Dictionary, after.resolve id = .ok (stored, .dictionary later) ∧
      ∀ key, key ∉ keys → later.get? key = page.get? key := by
  -- An object that is rewritten is the same one or a dictionary with the other keys kept.
  obtain ⟨object, resolved, rewritten⟩ := rewrites.resolve found
  cases rewritten with
  | same => exact ⟨page, resolved, fun key _ => rfl⟩
  | entries others => exact ⟨_, resolved, others⟩

/-- A dictionary in a place that is not touched is found as it was. -/
theorem resolve_apart (rewrites : Rewrites keys places before after) {id stored : ObjectId}
    {object : Object} (found : before.resolve id = .ok (stored, object)) (apart : ¬ places stored) :
    after.resolve id = .ok (stored, object) := by
  obtain ⟨later, resolved, _⟩ := rewrites.resolve found
  -- What the place holds is known on both sides.
  have present := get?_of_resolve resolved
  rw [rewrites.kept (get?_of_resolve found) apart] at present
  cases present
  exact resolved

/-- An id whose number was given out before is still free if it was free. -/
theorem get?_eq_none (rewrites : Rewrites keys places before after) {id : ObjectId}
    (bounded : id.number ≤ before.maxId) (free : before.objects.get? id = none) :
    after.objects.get? id = none := by
  -- An id is only filled when its number is above those that had been given out.
  rcases rewrites.added free with still | given
  · exact still
  · omega

/--
A chain that leads nowhere still does, for the same reason.

When that is a missing object, the chain has to be made of old numbers, since a new object may have any other.
-/
theorem follow_error (rewrites : Rewrites keys places before after) {links : Nat} {id : ObjectId}
    {cause : AccessError}
    (old : cause = .missing → before.ReferencesNumbered ∧ id.number ≤ before.maxId)
    (failed : before.follow links id = .error cause) : after.follow links id = .error cause := by
  -- Each id on the chain is looked up with the same result, up to rewritten dictionaries.
  induction links generalizing id with
  | zero =>
    unfold Document.follow at failed ⊢
    split at failed
    · rename_i free
      cases failed
      rw [rewrites.get?_eq_none (old rfl).2 free]
    · rename_i next found
      rw [rewrites.get?_reference found]
      -- Whether the reference past the limit leads to an object has not changed either.
      cases target : before.objects.get? next with
      | none =>
        rw [target] at failed
        cases failed
        have nextBounded := (old rfl).1 id _ found next (by simp [Object.references])
        simp [rewrites.get?_eq_none nextBounded target]
      | some object =>
        obtain ⟨later, last, _⟩ := rewrites.rewritten target
        simpa [last, target] using failed
    · cases failed
  | succ links ih =>
    unfold Document.follow at failed ⊢
    split at failed
    · rename_i free
      cases failed
      rw [rewrites.get?_eq_none (old rfl).2 free]
    · -- The reference is still there, and what it leads to is still not found.
      rename_i next found
      rw [rewrites.get?_reference found]
      refine ih (fun missing => ?_) failed
      obtain ⟨references, _⟩ := old missing
      exact ⟨references, references id _ found next (by simp [Object.references])⟩
    · cases failed

/-- An object that cannot be found before a rewriting cannot be found after it. -/
theorem object_error (rewrites : Rewrites keys places before after) {id : ObjectId}
    {cause : AccessError}
    (old : cause = .missing → before.ReferencesNumbered ∧ id.number ≤ before.maxId)
    (failed : before.object id = .error cause) : after.object id = .error cause := by
  -- The look-up fails where the chain of references does.
  unfold Document.object at failed ⊢
  cases resolved : before.resolve id with
  | ok pair =>
    rw [resolved] at failed
    cases failed
  | error reason =>
    rw [resolved] at failed
    cases failed
    have later : after.resolve id = .error cause := rewrites.follow_error old resolved
    rw [later]
    rfl

end Rewrites

end Document

end PdfResize
