import PdfResize.Document.Store

/-! Documents, and finding objects in them through chains of references. -/

namespace PdfResize

/-- A document in memory. -/
structure Document where
  /-- The objects under their ids. -/
  objects : Store
  /-- The dictionary that names the root of the document. -/
  trailer : Dictionary
  /-- The object number given out last, at first the largest one; new objects are numbered from here. -/
  maxId : Nat

/-- Why an object is not found, or is not of use where it was looked up. -/
inductive AccessError where
  /-- No object has the id, or an id on the way. -/
  | missing
  /-- The chain of references is too long, as it is when it never ends. -/
  | endlessReference
  /-- The object found is of another type. -/
  | wrongType
deriving DecidableEq

/-- The wording of an access error. -/
def AccessError.message : AccessError → String
  | missing => "A required object was not found"
  | endlessReference => "Could not dereference an object; possible reference loop"
  | wrongType => "An object does not have the expected type"

namespace Document

/-- The number of references that a look-up follows before it gives up. -/
def referenceLimit : Nat := 128

/-- Follow a chain of at most `links` references to the object at its end, and say under which id that is. -/
def follow (document : Document) : (links : Nat) → ObjectId → Except AccessError (ObjectId × Object)
  | links, id =>
    match document.objects.get? id with
    | none => .error .missing
    | some (.reference next) =>
      match links with
      | links + 1 => document.follow links next
      -- A reference to nothing is reported as such even past the limit.
      | 0 => .error (if (document.objects.get? next).isSome then .endlessReference else .missing)
    | some object => .ok (id, object)

/-- The object that an id leads to, and the id under which it is stored. -/
def resolve (document : Document) (id : ObjectId) : Except AccessError (ObjectId × Object) :=
  document.follow referenceLimit id

/-- The object that an id leads to. -/
def object (document : Document) (id : ObjectId) : Except AccessError Object :=
  (document.resolve id).map Prod.snd

/-- An object, or what it leads to when it is a reference. -/
def value (document : Document) : Object → Except AccessError Object
  | .reference id => document.object id
  | object => .ok object

/-- The dictionary that an id leads to. -/
def dictionary (document : Document) (id : ObjectId) : Except AccessError Dictionary := do
  match (← document.object id).dictionary? with
  | some entries => .ok entries
  | none => .error .wrongType

/-- The document with an object under an id; the largest number given out stays. -/
def put (document : Document) (id : ObjectId) (object : Object) : Document :=
  { document with objects := document.objects.insert id object }

/-- The document without an id. -/
def delete (document : Document) (id : ObjectId) : Document :=
  { document with objects := document.objects.erase id }

/-- The id that the next new object gets. -/
def nextId (document : Document) : ObjectId := ⟨ObjectId.numberAfter document.maxId, 0⟩

/-- The document with a new object under the next id, which replaces an object that had the id. -/
def add (document : Document) (object : Object) : Document :=
  { document.put document.nextId object with maxId := document.nextId.number }

/-- Putting an object changes what is stored under its id and nothing else. -/
@[simp] theorem get?_put (document : Document) (id other : ObjectId) (object : Object) :
    (document.put id object).objects.get? other =
      if other = id then some object else document.objects.get? other :=
  -- Only the entry of the store that is written can change.
  Store.get?_insert document.objects id other object

/-- Deleting changes what is stored under an id and nothing else. -/
@[simp] theorem get?_delete (document : Document) (id other : ObjectId) :
    (document.delete id).objects.get? other =
      if other = id then none else document.objects.get? other :=
  -- Erasing removes the one entry and nothing else.
  Store.get?_erase document.objects id other

/-- Adding an object stores it under the next id and changes nothing else that is stored. -/
@[simp] theorem get?_add (document : Document) (other : ObjectId) (object : Object) :
    (document.add object).objects.get? other =
      if other = document.nextId then some object else document.objects.get? other :=
  -- A new object is one written under the next number.
  get?_put document document.nextId other object

/-- The document with the dictionary that an id leads to changed where it is stored. -/
def modifyDictionary (document : Document) (id : ObjectId) (change : Dictionary → Dictionary) :
    Except AccessError Document := do
  let (stored, object) ← document.resolve id
  match object.dictionary? with
  | some entries => .ok (document.put stored (.dictionary (change entries)))
  | none => .error .wrongType

end Document

end PdfResize
