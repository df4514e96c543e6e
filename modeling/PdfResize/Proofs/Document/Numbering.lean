import PdfResize.Document.Basic

/-! Documents whose objects and references stay below the number given out last, so that new ids are free. -/

namespace PdfResize

namespace Object

mutual

/-- The ids that an object refers to, at its top or anywhere inside. -/
def references : Object → List ObjectId
  | reference id => [id]
  | array items => itemReferences items
  | dictionary entries => entryReferences entries
  | stream entries _ => entryReferences entries
  | _ => []

/-- The ids that the items of an array refer to. -/
def itemReferences : List Object → List ObjectId
  | [] => []
  | item :: rest => item.references ++ itemReferences rest

/-- The ids that the values of a dictionary refer to. -/
def entryReferences : List (Bytes × Object) → List ObjectId
  | [] => []
  | (_, value) :: rest => value.references ++ entryReferences rest

end

variable {id : ObjectId}

/-- The references of a list of items are those of its items. -/
theorem mem_itemReferences {items : List Object} :
    id ∈ itemReferences items ↔ ∃ item ∈ items, id ∈ item.references := by
  -- By induction on the items.
  induction items with
  | nil => simp [itemReferences]
  | cons item rest ih => simp [itemReferences, ih]

/-- The references of a dictionary are those of its values. -/
theorem mem_entryReferences {entries : Dictionary} :
    id ∈ entryReferences entries ↔ ∃ entry ∈ entries, id ∈ entry.2.references := by
  -- By induction on the entries.
  induction entries with
  | nil => simp [entryReferences]
  | cons entry rest ih => simp [entryReferences, ih]

/-- A dictionary refers to what the value under any of its keys refers to. -/
theorem mem_references_of_get? {entries : Dictionary} {key : Bytes} {value : Object}
    (found : entries.get? key = some value) (inside : id ∈ value.references) :
    id ∈ (dictionary entries).references := by
  -- What is found under a key is the value of an entry.
  obtain ⟨before, after, split, _⟩ := List.lookup_eq_some_iff.1 found
  show id ∈ entryReferences entries
  rw [mem_entryReferences, split]
  exact ⟨(key, value), List.mem_append_right before List.mem_cons_self, inside⟩

end Object

/-- What a store of entries holds is one of the entries. -/
theorem Store.mem_of_get?_ofEntries {entries : List (ObjectId × Object)} {id : ObjectId}
    {object : Object} (found : (Store.ofEntries entries).get? id = some object) :
    (id, object) ∈ entries := by
  -- What is not an entry was there before the first entry was inserted, and that is nothing.
  suffices split : ∀ store : Store,
      (entries.foldl (fun store entry => store.insert entry.1 entry.2) store).get? id = some object →
        (id, object) ∈ entries ∨ store.get? id = some object by
    rcases split .empty found with member | before
    · exact member
    · cases before
  clear found
  induction entries with
  | nil =>
    intro store found
    exact .inr found
  | cons entry rest ih =>
    intro store found
    rcases ih (store.insert entry.1 entry.2) found with later | before
    · exact .inl (List.mem_cons_of_mem entry later)
    · rw [get?_insert] at before
      split at before
      · rename_i same
        cases before
        exact .inl (same ▸ List.mem_cons_self)
      · exact .inr before

/-- The ids of the entries are those that hold an object. -/
theorem Store.mem_ids_iff {store : Store} {id : ObjectId} :
    id ∈ store.entries.map Prod.fst ↔ (store.get? id).isSome := by
  -- An id is a key of the store just when the lookup of it finds something.
  unfold get?
  rw [List.lookup_isSome_iff, List.mem_map]
  constructor
  · rintro ⟨entry, member, rfl⟩
    exact ⟨entry, member, beq_self_eq_true _⟩
  · rintro ⟨entry, member, same⟩
    exact ⟨entry, member, (beq_iff_eq.1 same).symm⟩

namespace Document

/-- No object has a number above the one given out last. -/
def IsNumbered (document : Document) : Prop :=
  ∀ id object, document.objects.get? id = some object → id.number ≤ document.maxId

instance (document : Document) : Decidable document.IsNumbered :=
  decidable_of_iff (∀ id ∈ document.objects.entries.map Prod.fst, id.number ≤ document.maxId) <| by
    simp only [IsNumbered, Store.mem_ids_iff, Option.isSome_iff_exists, forall_exists_index]

/-- No object refers to an id with a number above the one given out last. -/
def ReferencesNumbered (document : Document) : Prop :=
  ∀ id object, document.objects.get? id = some object →
    ∀ mentioned ∈ object.references, mentioned.number ≤ document.maxId

variable {document : Document}

/-- While there is room, the next id is the number above the last one. -/
theorem nextId_eq (room : document.maxId + 1 < UInt32.size) :
    document.nextId = ⟨document.maxId + 1, 0⟩ := by
  -- The number has not come round to zero.
  unfold nextId
  rw [ObjectId.numberAfter_eq room]

/-- While there is room, adding an object raises the last number by one. -/
theorem maxId_add (room : document.maxId + 1 < UInt32.size) (object : Object) :
    (document.add object).maxId = document.maxId + 1 :=
  -- The number does not come round.
  ObjectId.numberAfter_eq room

/-- A number that has not been given out is the number of no object. -/
theorem IsNumbered.get?_eq_none (numbered : document.IsNumbered) {id : ObjectId}
    (new : document.maxId < id.number) : document.objects.get? id = none := by
  -- An object under the id would have a number that was given out.
  cases found : document.objects.get? id with
  | none => rfl
  | some object =>
    have bounded := numbered id object found
    omega

/-- In a numbered document nothing is stored under the next id. -/
theorem IsNumbered.get?_nextId (numbered : document.IsNumbered)
    (room : document.maxId + 1 < UInt32.size) : document.objects.get? document.nextId = none := by
  -- The next number is above the one given out last.
  refine numbered.get?_eq_none ?_
  rw [nextId_eq room]
  exact Nat.lt_succ_self _

/-- Putting an object in place of another keeps the numbering. -/
theorem IsNumbered.put (numbered : document.IsNumbered) {stored : ObjectId} {old : Object}
    (found : document.objects.get? stored = some old) (new : Object) :
    (document.put stored new).IsNumbered := by
  intro id object present
  -- The only object that is not an old one has the id of an old one.
  by_cases here : id = stored
  · subst here
    exact numbered _ _ found
  · exact numbered id object (by simpa [here] using present)

/-- Adding an object keeps the numbering, while there is room. -/
theorem IsNumbered.add (numbered : document.IsNumbered) (room : document.maxId + 1 < UInt32.size)
    (object : Object) : (document.add object).IsNumbered := by
  intro id present found
  rw [maxId_add room]
  -- The only object that is not an old one has the next number.
  by_cases here : id = document.nextId
  · have new : id.number = document.maxId + 1 := by rw [here, nextId_eq room]
    omega
  · have bounded := numbered id present (by simpa [here] using found)
    omega

/-- The smallest document around these objects: a page tree whose only node has a media box and lists them. -/
def ofKids (mediaBox : Object) (kids : List Object) : Document where
  objects := Store.ofEntries
    ((⟨1, 0⟩, .dictionary [(ascii "Pages", .reference ⟨2, 0⟩)]) ::
      (⟨2, 0⟩, .dictionary [(ascii "MediaBox", mediaBox),
        (ascii "Kids", .array (kids.mapIdx fun index _ => .reference ⟨index + 3, 0⟩))]) ::
      kids.mapIdx fun index kid => (⟨index + 3, 0⟩, kid))
  trailer := [(ascii "Root", .reference ⟨1, 0⟩)]
  maxId := kids.length + 2

/-- A document built from a list of kids is numbered. -/
theorem isNumbered_ofKids (mediaBox : Object) (kids : List Object) :
    (ofKids mediaBox kids).IsNumbered := by
  intro id object found
  show id.number ≤ kids.length + 2
  have member := Store.mem_of_get?_ofEntries found
  simp only [List.mem_cons, Prod.mk.injEq, List.mem_mapIdx] at member
  -- The tree has the first two numbers, and the kids have one each.
  rcases member with ⟨rfl, _⟩ | ⟨rfl, _⟩ | ⟨index, inside, rfl, _⟩
  · show 1 ≤ kids.length + 2
    omega
  · show 2 ≤ kids.length + 2
    omega
  · show index + 3 ≤ kids.length + 2
    omega

/-- A document built from kids refers only to numbers it has given out. -/
theorem referencesNumbered_ofKids {mediaBox : Object} {kids : List Object}
    (boxBounded : ∀ id ∈ mediaBox.references, id.number ≤ kids.length + 2)
    (kidsBounded : ∀ kid ∈ kids, ∀ id ∈ kid.references, id.number ≤ kids.length + 2) :
    (ofKids mediaBox kids).ReferencesNumbered := by
  -- The objects are the root, the node and the kids, and each is looked at.
  intro id object found mentioned inside
  show mentioned.number ≤ kids.length + 2
  have member := Store.mem_of_get?_ofEntries found
  simp only [List.mem_cons, Prod.mk.injEq, List.mem_mapIdx] at member
  rcases member with ⟨_, rfl⟩ | ⟨_, rfl⟩ | ⟨index, bound, _, rfl⟩
  · -- The root refers to the node of the tree.
    simp only [Object.references, Object.entryReferences, List.append_nil, List.mem_singleton] at inside
    subst inside
    show 2 ≤ kids.length + 2
    omega
  · -- The node refers to the kids, and to what its media box refers to.
    simp only [Object.references, Object.entryReferences, List.append_nil, List.mem_append,
      Object.mem_itemReferences, List.mem_mapIdx] at inside
    rcases inside with inBox | ⟨kid, ⟨index, bound, rfl⟩, inKid⟩
    · exact boxBounded mentioned inBox
    · simp only [Object.references, List.mem_singleton] at inKid
      subst inKid
      show index + 3 ≤ kids.length + 2
      omega
  · exact kidsBounded _ (List.getElem_mem bound) mentioned inside

end Document

end PdfResize
