import PdfResize.Document.Object
import PdfResize.SortedEntries

/-! The objects of a document under their ids, kept in the order of the ids. -/

namespace PdfResize

/-- Objects under ids, in the order of the ids and each id once. -/
structure Store where
  /-- The ids with their objects. -/
  entries : List (ObjectId × Object)
  /-- The ids increase from entry to entry. -/
  ordered : entries.Pairwise fun left right => left.1 < right.1

namespace Store

/-- Insertion keeps the ids increasing. -/
theorem insertEntry_ordered {entries : List (ObjectId × Object)} (id : ObjectId) (object : Object)
    (ordered : entries.Pairwise fun left right => left.1 < right.1) :
    (insertEntry id object entries).Pairwise fun left right => left.1 < right.1 := by
  -- The new entry goes before the first larger id.
  induction entries with
  | nil => simp [insertEntry]
  | cons entry rest ih =>
    obtain ⟨head, tail⟩ := List.pairwise_cons.1 ordered
    simp only [insertEntry]
    split
    · rename_i smaller
      refine List.pairwise_cons.2 ⟨?_, ordered⟩
      intro later member
      rcases List.mem_cons.1 member with same | inRest
      · exact same ▸ smaller
      · exact ObjectId.lt_trans smaller (head later inRest)
    · rename_i notSmaller
      split
      · rename_i same
        exact List.pairwise_cons.2 ⟨fun later member => same ▸ head later member, tail⟩
      · rename_i different
        refine List.pairwise_cons.2 ⟨?_, ih tail⟩
        intro later member
        rcases mem_insertEntry member with same | inRest
        · rw [same]
          exact (ObjectId.lt_or_lt_of_ne different).resolve_left notSmaller
        · exact head later inRest

/-- A store without objects. -/
def empty : Store := ⟨[], .nil⟩

/-- The number of objects. -/
def size (store : Store) : Nat := store.entries.length

/-- The object under an id. -/
def get? (store : Store) (id : ObjectId) : Option Object := store.entries.lookup id

/-- The store with an object under an id, replacing the object that had the id. -/
def insert (store : Store) (id : ObjectId) (object : Object) : Store :=
  ⟨insertEntry id object store.entries, insertEntry_ordered id object store.ordered⟩

/-- The store without an id. -/
def erase (store : Store) (id : ObjectId) : Store :=
  ⟨store.entries.filter fun entry => entry.1 != id, store.ordered.filter _⟩

/-- The store that entries make when they are inserted one after another. -/
def ofEntries (entries : List (ObjectId × Object)) : Store :=
  entries.foldl (fun store entry => store.insert entry.1 entry.2) empty

/-- The largest object number, zero when there is no object. -/
def maxNumber (store : Store) : Nat :=
  store.entries.foldl (fun largest entry => max largest entry.1.number) 0

/-- An empty store has no object. -/
@[simp] theorem get?_empty (id : ObjectId) : empty.get? id = none := rfl

/-- Inserting changes the object under the id and no other. -/
@[simp] theorem get?_insert (store : Store) (id other : ObjectId) (object : Object) :
    (store.insert id object).get? other = if other = id then some object else store.get? other :=
  -- The store keeps its entries in order, and the lookup does not depend on where the new one lands.
  lookup_insertEntry store.entries id other object

/-- Erasing removes the object under the id and no other. -/
@[simp] theorem get?_erase (store : Store) (id other : ObjectId) :
    (store.erase id).get? other = if other = id then none else store.get? other := by
  -- An entry is kept exactly when its id differs.
  obtain ⟨entries, ordered⟩ := store
  simp only [erase, get?]
  clear ordered
  induction entries with
  | nil => simp
  | cons entry rest ih =>
    obtain ⟨key, object⟩ := entry
    simp only [List.filter_cons, List.lookup_cons]
    by_cases same : key = id
    · subst same
      by_cases hit : other = key
      · simpa [hit] using ih
      · simpa [hit, beq_false_of_ne hit] using ih
    · by_cases hit : other = key
      · simp [hit, same]
      · simpa [same, hit, List.lookup_cons, beq_false_of_ne hit] using ih

end Store

end PdfResize
