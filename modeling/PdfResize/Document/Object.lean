import PdfResize.Bytes
import PdfResize.Number.Binary

/-! The objects a PDF document is made of, and dictionaries whose entries keep their order. -/

namespace PdfResize

/-- The name under which a document stores an object. -/
structure ObjectId where
  /-- The object number. -/
  number : Nat
  /-- The generation, which tells successive uses of one number apart. -/
  generation : Nat
deriving DecidableEq

namespace ObjectId

/-- The object number behind another one; numbers have 32 bits, and behind the largest one comes zero. -/
def numberAfter (number : Nat) : Nat := (number + 1) % UInt32.size

/-- Below the largest number, the number behind another one is one more. -/
theorem numberAfter_eq {number : Nat} (inside : number + 1 < UInt32.size) :
    numberAfter number = number + 1 := by
  -- Nothing is taken away from a sum that is in range.
  exact Nat.mod_eq_of_lt inside

/-- Objects are ordered by number and then by generation. -/
def before (left right : ObjectId) : Bool :=
  left.number < right.number || left.number == right.number && left.generation < right.generation

instance : LT ObjectId := ⟨fun left right => left.before right = true⟩

instance (left right : ObjectId) : Decidable (left < right) :=
  inferInstanceAs (Decidable (_ = true))

/-- The order compares numbers first. -/
theorem lt_iff {left right : ObjectId} : left < right ↔
    left.number < right.number ∨ left.number = right.number ∧ left.generation < right.generation := by
  -- The Boolean test says the same.
  show left.before right = true ↔ _
  simp [before]

/-- No id comes before itself. -/
theorem lt_irrefl (id : ObjectId) : ¬ id < id := by
  -- Neither component is below itself.
  simp [lt_iff]

/-- The order is transitive. -/
theorem lt_trans {first second third : ObjectId} (left : first < second) (right : second < third) :
    first < third := by
  -- Both steps compare the same two components.
  rw [lt_iff] at *
  omega

/-- Of two different ids one comes first. -/
theorem lt_or_lt_of_ne {left right : ObjectId} (different : left ≠ right) :
    left < right ∨ right < left := by
  -- Equal components would make the ids equal.
  rw [lt_iff, lt_iff]
  have apart : ¬ (left.number = right.number ∧ left.generation = right.generation) :=
    fun same => different (by cases left; cases right; simp_all)
  omega

end ObjectId

/-- The two ways of writing a string, which a document remembers for each. -/
inductive StringForm where
  /-- Bytes in parentheses. -/
  | literal
  /-- Hexadecimal digits in angle brackets. -/
  | hexadecimal
deriving DecidableEq

/-- A PDF object. -/
inductive Object where
  /-- The null object. -/
  | null
  /-- A truth value. -/
  | boolean (value : Bool)
  /-- A whole number. -/
  | integer (value : Int)
  /-- A real number. -/
  | real (value : Single)
  /-- A name, without the slash that introduces it. -/
  | name (bytes : Bytes)
  /-- A string and the form it is written in. -/
  | string (bytes : Bytes) (form : StringForm)
  /-- A row of objects. -/
  | array (items : List Object)
  /-- Objects under names, in the order they were entered. -/
  | dictionary (entries : List (Bytes × Object))
  /-- A dictionary with the bytes it describes. -/
  | stream (entries : List (Bytes × Object)) (content : Bytes)
  /-- The object that the document stores under an id. -/
  | reference (id : ObjectId)

/-- Objects under names, in the order they were entered. -/
abbrev Dictionary := List (Bytes × Object)

namespace Dictionary

/-- The value under a key. -/
def get? (dictionary : Dictionary) (key : Bytes) : Option Object := dictionary.lookup key

/-- The dictionary without a key. -/
def erase (dictionary : Dictionary) (key : Bytes) : Dictionary :=
  dictionary.filter fun entry => entry.1 != key

/-- The dictionary with a value under a key; the key becomes the last one, also if it was there before. -/
def set (dictionary : Dictionary) (key : Bytes) (value : Object) : Dictionary :=
  dictionary.erase key ++ [(key, value)]

/-- The dictionary that entries make when they are set one after another. -/
def ofEntries (entries : List (Bytes × Object)) : Dictionary :=
  entries.foldl (fun dictionary entry => dictionary.set entry.1 entry.2) []

/-- Erasing a key removes its value and no other. -/
theorem get?_erase (dictionary : Dictionary) (key other : Bytes) :
    (dictionary.erase key).get? other = if other = key then none else dictionary.get? other := by
  -- An entry is kept exactly when its key differs.
  induction dictionary with
  | nil => simp [erase, get?]
  | cons entry rest ih =>
    obtain ⟨name, value⟩ := entry
    simp only [erase, get?, List.filter_cons] at ih ⊢
    by_cases same : name = key
    · subst same
      simp only [bne_self_eq_false, Bool.false_eq_true, ↓reduceIte, ih, List.lookup_cons]
      by_cases hit : other = name
      · simp [hit]
      · simp [hit, beq_false_of_ne hit]
    · simp only [bne_iff_ne, ne_eq, same, not_false_eq_true, ↓reduceIte, List.lookup_cons, ih]
      by_cases hit : other = name
      · simp [hit, same]
      · simp [beq_false_of_ne hit]

/-- Setting a key changes the value under it and no other. -/
@[simp] theorem get?_set (dictionary : Dictionary) (key other : Bytes) (value : Object) :
    (dictionary.set key value).get? other =
      if other = key then some value else dictionary.get? other := by
  -- The new entry is found only where the erased dictionary has nothing.
  have erased := get?_erase dictionary key other
  simp only [get?] at erased
  simp only [set, get?, List.lookup_append, erased]
  by_cases hit : other = key
  · simp [hit]
  · simp [hit, List.lookup_cons, beq_false_of_ne hit]

end Dictionary

namespace Object

/-- The entries of an object that is a dictionary; a stream is none. -/
def dictionary? : Object → Option Dictionary
  | dictionary entries => some entries
  | _ => none

/-- The items of an object that is an array. -/
def items? : Object → Option (List Object)
  | array items => some items
  | _ => none

/-- The number that an object stands for as a coordinate, a whole number being rounded. -/
def number? : Object → Option Single
  | integer value => some (.ofInt value)
  | real value => some value
  | _ => none

/-- The whole number that an object is. -/
def integer? : Object → Option Int
  | integer value => some value
  | _ => none

/-- A stream whose dictionary says how long it is. -/
def ofContent (content : Bytes) : Object :=
  stream [(ascii "Length", integer content.length)] content

end Object

/-- What kind of thing a dictionary describes. -/
def Dictionary.typeName? (dictionary : Dictionary) : Option Bytes :=
  let linearized := (dictionary.get? (ascii "Linearized")).map fun _ => ascii "Linearized"
  match dictionary.get? (ascii "Type") with
  -- A name that is no text is passed over like a missing one.
  | some (.name bytes) => if bytes.isUtf8 then some bytes else linearized
  | _ => linearized

end PdfResize
