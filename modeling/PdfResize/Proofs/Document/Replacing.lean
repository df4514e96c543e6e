import PdfResize.Proofs.Document.Chain
import PdfResize.Proofs.Document.Numbering

/-! What look-ups find after an object has been replaced, added, or put in another place. -/

namespace PdfResize.Document

variable {document : Document} {id stored holder : ObjectId} {old new held : Object} {node : Dictionary}

/-- The dictionary of an id is the object of it, if that is one. -/
theorem toOption_dictionary (document : Document) (id : ObjectId) :
    (document.dictionary id).toOption = (document.object id).toOption.bind Object.dictionary? := by
  -- The causes of failures are forgotten on both sides.
  unfold dictionary
  cases document.object id with
  | error cause => rfl
  | ok object => cases object <;> rfl

/-- The object of an id is stored somewhere. -/
theorem get?_of_object (found : document.object id = .ok old) :
    ∃ stored, document.objects.get? stored = some old := by
  -- It is stored where the id resolves to.
  obtain ⟨stored, resolved⟩ := exists_resolve_of_object found
  exact ⟨stored, get?_of_resolve resolved⟩

/-- The dictionary of an id is the object of it. -/
theorem object_of_dictionary (found : document.dictionary id = .ok node) :
    document.object id = .ok (.dictionary node) := by
  -- Both are what the id resolves to.
  obtain ⟨_, resolved⟩ := exists_resolve_of_dictionary found
  exact object_of_resolve resolved

/-! ### Replacing an object -/

section Replacing

variable (new) (present : document.objects.get? stored = some old)
  (oldEnds : ∀ next, old ≠ .reference next) (newEnds : ∀ next, new ≠ .reference next)

include present oldEnds newEnds

/-- A look-up that ends at a replaced object finds the new one, and any other finds what it found. -/
theorem follow_put (links : Nat) (id : ObjectId) : (document.put stored new).follow links id =
    (document.follow links id).map fun found => if found.1 = stored then (stored, new) else found := by
  -- At the place itself the chain ends, before and after.
  have atPlace (links : Nat) : (document.put stored new).follow links stored =
      (document.follow links stored).map
        fun found => if found.1 = stored then (stored, new) else found := by
    rw [follow_eq_ok_iff.2 (.here present oldEnds), follow_eq_ok_iff.2 (.here (by simp) newEnds)]
    simp [Except.map]
  induction links generalizing id with
  | zero =>
    by_cases here : id = stored
    · exact here ▸ atPlace 0
    · rw [follow, follow, get?_put, if_neg here]
      cases document.objects.get? id with
      | none => rfl
      | some object =>
        cases object with
        | reference next =>
          -- Whether there is anything under an id is not changed.
          by_cases there : next = stored
          · simp [there, present, Except.map]
          · simp [there, Except.map]
        | _ => simp [Except.map, here]
  | succ links ih =>
    by_cases here : id = stored
    · exact here ▸ atPlace (links + 1)
    · rw [follow, follow, get?_put, if_neg here]
      cases document.objects.get? id with
      | none => rfl
      | some object =>
        cases object with
        | reference next => exact ih next
        | _ => simp [Except.map, here]

/-- After a replacement every id has the object it had, or the new one for the old. -/
theorem object_put_cases (id : ObjectId) :
    (document.put stored new).object id = document.object id ∨
      document.object id = .ok old ∧ (document.put stored new).object id = .ok new := by
  -- Chains of references are left as they were, and each of them ends in the place or elsewhere.
  unfold object resolve
  rw [follow_put new present oldEnds newEnds]
  cases found : document.follow referenceLimit id with
  | error cause => exact .inl rfl
  | ok pair =>
    obtain ⟨place, object⟩ := pair
    by_cases here : place = stored
    · -- The place has only one object, so it is the old one that was found.
      subst here
      have stands := (follow_eq_ok_iff.1 found).get?_stored
      rw [present] at stands
      cases stands
      exact .inr ⟨rfl, by simp [Except.map]⟩
    · exact .inl (by simp [Except.map, here])

/-- A replacement leaves every value as it was, or makes it the new object. -/
theorem value_put_cases (object : Object) :
    (document.put stored new).value object = document.value object ∨
      document.value object = .ok old ∧ (document.put stored new).value object = .ok new := by
  -- Only a reference is looked up, all other objects are their own values.
  cases object with
  | reference id => exact object_put_cases new present oldEnds newEnds id
  | _ => exact .inl rfl

end Replacing

/-- A look-up for a dictionary finds the new one where it found the replaced one, and elsewhere what it found. -/
theorem dictionary_put (changed : Dictionary)
    (present : document.objects.get? stored = some (.dictionary node)) (id : ObjectId) :
    (document.put stored (.dictionary changed)).dictionary id =
      if document.place? id = some stored then .ok changed else document.dictionary id := by
  -- The chain ends where it ended, and only in the place is there another dictionary.
  unfold place? dictionary object resolve
  rw [follow_put (.dictionary changed) present nofun nofun]
  cases document.follow referenceLimit id with
  | error cause => rfl
  | ok pair =>
    obtain ⟨place, object⟩ := pair
    by_cases here : place = stored
    · simp [here, Except.map, Except.toOption, bind, Except.bind, Object.dictionary?]
    · simp [here, Except.map, Except.toOption]

/-- What leads to the place of a dictionary finds the dictionary. -/
theorem dictionary_of_place? (present : document.objects.get? stored = some (.dictionary node))
    (leads : document.place? id = some stored) : document.dictionary id = .ok node :=
  -- What leads to the place resolves as the place itself does.
  dictionary_of_resolve
    (resolve_eq_of_place? (follow_eq_ok_iff.2 (.here present nofun) : document.resolve stored = _) leads)

/-! ### Adding an object -/

/-- A look-up that cannot meet a new object finds what it found. -/
theorem follow_put_new (unmentioned : ∀ other object, document.objects.get? other = some object →
    holder ∉ object.references) (links : Nat) (apart : id ≠ holder) :
    (document.put holder held).follow links id = document.follow links id := by
  -- No reference on the way leads to the new object.
  have elsewhere : ∀ {id next}, document.objects.get? id = some (.reference next) → next ≠ holder := by
    rintro id next found rfl
    exact unmentioned id _ found List.mem_cons_self
  induction links generalizing id with
  | zero =>
    rw [follow, follow, get?_put, if_neg apart]
    cases found : document.objects.get? id with
    | none => rfl
    | some object =>
      cases object with
      | reference next => simp [elsewhere found]
      | _ => rfl
  | succ links ih =>
    rw [follow, follow, get?_put, if_neg apart]
    cases found : document.objects.get? id with
    | none => rfl
    | some object =>
      cases object with
      | reference next => exact ih (elsewhere found)
      | _ => rfl

/-! ### Putting an object in another place -/

section Holding

variable (present : document.objects.get? stored = some old)
  (oldEnds : ∀ next, old ≠ .reference next) (apart : holder ≠ stored)
  (there : document.objects.get? holder = some old) {links : Nat} {place : ObjectId} {object : Object}

include present oldEnds apart there

/-- A chain to an object goes on, by one link, to the place where the object is held as well. -/
theorem Leads.put_reference (leads : document.Leads links id place object) :
    (document.put stored (.reference holder)).Leads (if place = stored then links + 1 else links) id
      (if place = stored then holder else place) object := by
  -- The chain stays as it is up to its end, and only if it ends at the place it has one link more.
  induction leads with
  | @here links id object found ends =>
    by_cases here : id = stored
    · subst here
      cases present.symm.trans found
      rw [if_pos rfl, if_pos rfl]
      exact .link (by simp) (.here (by rw [get?_put, if_neg apart, there]) ends)
    · rw [if_neg here, if_neg here]
      exact .here (by rw [get?_put, if_neg here, found]) ends
  | @link links id next place object found rest ih =>
    -- The replaced object is no reference, so it is not on the way.
    have here : id ≠ stored := by
      rintro rfl
      cases present.symm.trans found
      exact oldEnds next rfl
    have kept : (document.put stored (.reference holder)).objects.get? id = some (.reference next) := by
      rw [get?_put, if_neg here, found]
    by_cases ends : place = stored
    · rw [if_pos ends] at ih ⊢
      rw [if_pos ends]
      exact .link kept (by simpa [ends] using ih)
    · rw [if_neg ends] at ih ⊢
      rw [if_neg ends]
      exact .link kept (by simpa [ends] using ih)

/-- What is found after the object is held elsewhere was found before. -/
theorem Leads.of_put_reference
    (leads : (document.put stored (.reference holder)).Leads links id place object) :
    ∃ place, document.Leads links id place object := by
  -- The new reference is the last one on a chain, which before has ended where it stands.
  induction leads with
  | @here links id object found ends =>
    rw [get?_put] at found
    split at found
    · cases found
      exact absurd rfl (ends holder)
    · exact ⟨id, .here found ends⟩
  | @link links id next place object found rest ih =>
    obtain ⟨earlier, leads⟩ := ih
    rw [get?_put] at found
    split at found
    · rename_i here
      subst here
      cases found
      -- The object is where the reference leads to at once.
      cases leads with
      | here found ends =>
        cases there.symm.trans found
        exact ⟨id, .here present ends⟩
      | link found rest =>
        cases there.symm.trans found
        exact absurd rfl (oldEnds _)
    · exact ⟨earlier, .link found leads⟩

/-- Every look-up finds what it found, if all chains that end at the object have a link to spare. -/
theorem toOption_object_put_reference (spare : ∀ id, document.place? id = some stored →
      document.follow (referenceLimit - 1) id = .ok (stored, old)) (id : ObjectId) :
    ((document.put stored (.reference holder)).object id).toOption = (document.object id).toOption := by
  cases found : document.resolve id with
  | ok pair =>
    obtain ⟨place, object⟩ := pair
    -- What was found is still found, by a chain that may have become longer by one link.
    have later : ∃ place, (document.put stored (.reference holder)).resolve id = .ok (place, object) := by
      by_cases ends : place = stored
      · subst ends
        have leads := follow_eq_ok_iff.1 (spare id (place?_of_resolve found))
        have onwards := leads.put_reference present oldEnds apart there
        rw [if_pos rfl, if_pos rfl] at onwards
        cases present.symm.trans (get?_of_resolve found)
        exact ⟨holder, follow_eq_ok_iff.2 onwards⟩
      · have onwards := (follow_eq_ok_iff.1 found).put_reference present oldEnds apart there
        rw [if_neg ends, if_neg ends] at onwards
        exact ⟨place, follow_eq_ok_iff.2 onwards⟩
    obtain ⟨_, resolved⟩ := later
    rw [object_of_resolve resolved, object_of_resolve found]
  | error cause =>
    have fails : document.object id = .error cause := by
      rw [Document.object, found]
      rfl
    rw [fails]
    cases later : (document.put stored (.reference holder)).object id with
    | error cause => rfl
    | ok object =>
      -- What is found now was found before.
      obtain ⟨_, resolved⟩ := exists_resolve_of_object later
      obtain ⟨_, leads⟩ := (follow_eq_ok_iff.1 resolved).of_put_reference present oldEnds apart there
      rw [resolve, follow_eq_ok_iff.2 leads] at found
      cases found

end Holding

end PdfResize.Document
