import PdfResize.Document.Basic

/-! What following references finds, as a relation between ids and the places that chains lead to. -/

namespace PdfResize.Document

/-- A chain of at most so many references leads from an id to an object and the id under which it is stored. -/
inductive Leads (document : Document) : (links : Nat) → (id stored : ObjectId) → Object → Prop where
  /-- The object is stored under the id itself. -/
  | here {links : Nat} {id : ObjectId} {object : Object}
    (found : document.objects.get? id = some object) (ends : ∀ next, object ≠ .reference next) :
    Leads document links id id object
  /-- The id holds a reference, from which the chain goes on. -/
  | link {links : Nat} {id next stored : ObjectId} {object : Object}
    (found : document.objects.get? id = some (.reference next))
    (rest : Leads document links next stored object) :
    Leads document (links + 1) id stored object

variable {document : Document} {id stored : ObjectId} {object : Object} {page : Dictionary}

/-- Following references finds what a chain of them leads to. -/
theorem follow_eq_ok_iff {links : Nat} :
    document.follow links id = .ok (stored, object) ↔ document.Leads links id stored object := by
  constructor
  · -- The number of references left decreases with every step of the chain.
    intro followed
    induction links generalizing id with
    | zero =>
      unfold follow at followed
      split at followed
      · cases followed
      · cases followed
      · rename_i ends found
        cases followed
        exact .here found ends
    | succ links ih =>
      unfold follow at followed
      split at followed
      · cases followed
      · -- One reference is followed, and the rest of the chain is shorter.
        rename_i found
        exact .link found (ih followed)
      · rename_i ends found
        cases followed
        exact .here found ends
  · intro leads
    induction leads with
    | here found ends =>
      -- The object found is no reference, so the search ends with it.
      unfold follow
      rw [found]
      split
      · contradiction
      · rename_i same
        cases same
        exact absurd rfl (ends _)
      · rename_i same
        cases same
        rfl
    | link found rest ih =>
      unfold follow
      rw [found]
      exact ih

/-- A chain ends at a stored object. -/
theorem Leads.get?_stored {links : Nat} (leads : document.Leads links id stored object) :
    document.objects.get? stored = some object := by
  -- By induction on the chain, whose last link is where the object is stored.
  induction leads with
  | here found ends => exact found
  | link found rest ih => exact ih

/-- What an id resolves to is stored in the place it resolves to. -/
theorem get?_of_resolve (found : document.resolve id = .ok (stored, object)) :
    document.objects.get? stored = some object :=
  -- The chain that was followed ends there.
  (follow_eq_ok_iff.1 found).get?_stored

/-- The object of an id is what the id resolves to. -/
theorem object_of_resolve (found : document.resolve id = .ok (stored, object)) :
    document.object id = .ok object := by
  -- Only the place is forgotten.
  unfold Document.object
  rw [found]
  rfl

/-- The object of an id is stored in some place. -/
theorem exists_resolve_of_object (found : document.object id = .ok object) :
    ∃ stored, document.resolve id = .ok (stored, object) := by
  -- The object is the second half of what the id resolves to.
  unfold Document.object at found
  cases resolved : document.resolve id with
  | error cause =>
    rw [resolved] at found
    cases found
  | ok pair =>
    rw [resolved] at found
    cases found
    exact ⟨pair.1, rfl⟩

/-- An id that resolves to a dictionary has its entries. -/
theorem dictionary_of_resolve (found : document.resolve id = .ok (stored, .dictionary page)) :
    document.dictionary id = .ok page := by
  -- A dictionary passes the one check that is made.
  unfold dictionary
  rw [object_of_resolve found]
  rfl

/-- The dictionary of an id is stored in some place. -/
theorem exists_resolve_of_dictionary (found : document.dictionary id = .ok page) :
    ∃ stored, document.resolve id = .ok (stored, .dictionary page) := by
  unfold dictionary at found
  cases resolved : document.object id with
  | error cause =>
    rw [resolved] at found
    cases found
  | ok object =>
    rw [resolved] at found
    -- Of all objects only a dictionary has entries.
    cases object with
    | dictionary entries =>
      cases found
      exact exists_resolve_of_object resolved
    | _ => cases found

/-- Changing a dictionary succeeds only at one, which is put back where it is stored. -/
theorem exists_resolve_of_modifyDictionary {later : Document} {change : Dictionary → Dictionary}
    (changed : document.modifyDictionary id change = .ok later) :
    ∃ stored, ∃ entries : Dictionary, document.resolve id = .ok (stored, .dictionary entries) ∧
      later = document.put stored (.dictionary (change entries)) := by
  -- The change is made only where the id resolves, and only to a dictionary.
  unfold modifyDictionary at changed
  cases found : document.resolve id with
  | error cause =>
    rw [found] at changed
    cases changed
  | ok pair =>
    obtain ⟨stored, object⟩ := pair
    rw [found] at changed
    cases object with
    | dictionary entries =>
      cases changed
      exact ⟨stored, entries, rfl, rfl⟩
    | _ => cases changed

/-- The place where the object that an id leads to is stored. -/
def place? (document : Document) (id : ObjectId) : Option ObjectId :=
  (document.resolve id).toOption.map Prod.fst

/-- The place of an id is the one that it resolves to. -/
theorem place?_of_resolve (found : document.resolve id = .ok (stored, object)) :
    document.place? id = some stored := by
  -- Only the object is forgotten.
  unfold place?
  rw [found]
  rfl

/-- Two ids that lead to one place lead to one object. -/
theorem resolve_eq_of_place? {other : ObjectId} (found : document.resolve id = .ok (stored, object))
    (same : document.place? other = some stored) : document.resolve other = .ok (stored, object) := by
  -- The place names the object, whatever chain has led to it.
  unfold place? at same
  cases resolved : document.resolve other with
  | error cause =>
    rw [resolved] at same
    cases same
  | ok pair =>
    rw [resolved] at same
    obtain ⟨place, present⟩ := pair
    cases same
    -- One id has one object.
    have stands := get?_of_resolve resolved
    rw [get?_of_resolve found] at stands
    cases stands
    rfl

end PdfResize.Document
