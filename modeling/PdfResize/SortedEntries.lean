/-! Lists of keys and values in the order of the keys, each key once. -/

namespace PdfResize

variable {Key Value : Type} [LT Key] [DecidableLT Key] [DecidableEq Key]

/-- The entries with a value under a key, replacing the value that was there. -/
def insertEntry (key : Key) (value : Value) : List (Key × Value) → List (Key × Value)
  | [] => [(key, value)]
  | entry :: rest =>
    if key < entry.1 then (key, value) :: entry :: rest
    else if key = entry.1 then (key, value) :: rest
    else entry :: insertEntry key value rest

/-- Insertion adds only the key it is given. -/
theorem mem_insertEntry {key : Key} {value : Value} {entries : List (Key × Value)}
    {found : Key × Value} (member : found ∈ insertEntry key value entries) :
    found.1 = key ∨ found ∈ entries := by
  -- Each branch keeps old entries and one new entry.
  induction entries with
  | nil => simp_all [insertEntry]
  | cons entry rest ih =>
    simp only [insertEntry] at member
    split at member
    · simp only [List.mem_cons] at member ⊢
      rcases member with same | old
      · exact .inl (by simp [same])
      · exact .inr old
    · split at member
      · simp only [List.mem_cons] at member ⊢
        rcases member with same | old
        · exact .inl (by simp [same])
        · exact .inr (.inr old)
      · simp only [List.mem_cons] at member ⊢
        rcases member with same | inserted
        · exact .inr (.inl same)
        · rcases ih inserted with same | old
          · exact .inl same
          · exact .inr (.inr old)

/-- The value under a key is the inserted one for that key and the old one for any other. -/
theorem lookup_insertEntry (entries : List (Key × Value)) (key other : Key) (value : Value) :
    (insertEntry key value entries).lookup other =
      if other = key then some value else entries.lookup other := by
  -- The new entry stands before any entry that shares its key.
  induction entries with
  | nil =>
    by_cases hit : other = key
    · simp [insertEntry, hit]
    · simp [insertEntry, hit, List.lookup_cons, beq_false_of_ne hit]
  | cons entry rest ih =>
    obtain ⟨name, old⟩ := entry
    simp only [insertEntry]
    split
    · by_cases hit : other = key
      · simp [hit]
      · simp [List.lookup_cons, hit, beq_false_of_ne hit]
    · split
      · rename_i same
        subst same
        by_cases hit : other = key
        · simp [hit]
        · simp [List.lookup_cons, hit, beq_false_of_ne hit]
      · rename_i different
        simp only [List.lookup_cons, ih]
        by_cases hit : other = name
        · subst hit
          simp [Ne.symm different]
        · simp [beq_false_of_ne hit]

end PdfResize
