import PdfResize.Proofs.Document.Wrapping

/-! What stands under every id of a document after dictionaries were rewritten in it and streams added to it. -/

namespace PdfResize.Document

/-- The id is one that the next so many new objects get. -/
def IsUpcoming (document : Document) (count : Nat) (id : ObjectId) : Prop :=
  id.generation = 0 ∧ document.maxId < id.number ∧ id.number ≤ document.maxId + count

/--
A later state of a document, known under every id.

Entries under some keys of the dictionaries in some places have changed, so many streams have been added,
and everything else is as it was.
-/
structure Frame (keys : List Bytes) (places : ObjectId → Prop) (count : Nat) (before after : Document) :
    Prop where
  trailer : after.trailer = before.trailer
  /-- The new numbers are those behind the last one. -/
  maxId : after.maxId = before.maxId + count
  /-- In each of the places there is a dictionary, with the old values under all other keys. -/
  dictionaries : ∀ {id}, places id → ∃ old new : Dictionary,
    before.objects.get? id = some (.dictionary old) ∧
      after.objects.get? id = some (.dictionary new) ∧
      ∀ key, key ∉ keys → new.get? key = old.get? key
  /-- Each new id was free and has a stream now. -/
  streams : ∀ {id}, before.IsUpcoming count id → before.objects.get? id = none ∧
    ∃ entries content, after.objects.get? id = some (.stream entries content)
  /-- Under any other id there is what there was, if anything. -/
  others : ∀ {id}, ¬ places id → ¬ before.IsUpcoming count id →
    after.objects.get? id = before.objects.get? id

variable {document : Document} {keys : List Bytes} {stored : ObjectId} {page : Dictionary}

namespace Frame

variable {places left right : ObjectId → Prop} {first second : Nat} {count : Nat}
  {before middle after : Document}

/-- A document is a frame of itself. -/
theorem refl (keys : List Bytes) (document : Document) :
    Frame keys (fun _ => False) 0 document document where
  trailer := rfl
  maxId := rfl
  dictionaries never := never.elim
  streams upcoming := by
    -- No number is above the last one and not above it.
    obtain ⟨_, above, within⟩ := upcoming
    omega
  others _ _ := rfl

/-- Two changes one after the other reach the places of both, and their streams are numbered on. -/
theorem trans (earlier : Frame keys left first before middle)
    (later : Frame keys right second middle after) :
    Frame keys (fun id => left id ∨ right id) (first + second) before after := by
  have number := earlier.maxId
  -- A place of a dictionary is none that a stream is given.
  have leftApart : ∀ {id}, left id → ¬ middle.IsUpcoming second id := by
    intro id inside upcoming
    obtain ⟨_, _, _, present, _⟩ := earlier.dictionaries inside
    rw [(later.streams upcoming).1] at present
    cases present
  have rightApart : ∀ {id}, right id → ¬ before.IsUpcoming first id := by
    intro id inside upcoming
    obtain ⟨_, _, stream⟩ := (earlier.streams upcoming).2
    obtain ⟨_, _, present, _⟩ := later.dictionaries inside
    rw [stream] at present
    cases present
  -- The new ids of the whole are those of the first change and behind them those of the second.
  have either : ∀ {id}, before.IsUpcoming (first + second) id ↔
      before.IsUpcoming first id ∨ middle.IsUpcoming second id := by
    intro id
    unfold IsUpcoming
    omega
  refine ⟨later.trailer.trans earlier.trailer, ?_, ?_, ?_, ?_⟩
  · rw [later.maxId, number, Nat.add_assoc]
  · intro id inside
    by_cases inLeft : left id
    · obtain ⟨old, between, present, there, same⟩ := earlier.dictionaries inLeft
      by_cases inRight : right id
      · -- The dictionary has changed twice, and a value that both changes leave alone is the old one.
        obtain ⟨again, new, stands, last, kept⟩ := later.dictionaries inRight
        rw [there] at stands
        cases stands
        exact ⟨old, new, present, last, fun key other => (kept key other).trans (same key other)⟩
      · rw [← later.others inRight (leftApart inLeft)] at there
        exact ⟨old, between, present, there, same⟩
    · have inRight : right id := inside.resolve_left inLeft
      obtain ⟨old, new, present, last, kept⟩ := later.dictionaries inRight
      rw [earlier.others inLeft (rightApart inRight)] at present
      exact ⟨old, new, present, last, kept⟩
  · intro id upcoming
    rcases either.1 upcoming with here | behind
    · obtain ⟨free, entries, content, stream⟩ := earlier.streams here
      have apart : ¬ right id := fun inside => rightApart inside here
      have past : ¬ middle.IsUpcoming second id := by
        intro twice
        rw [(later.streams twice).1] at stream
        cases stream
      rw [← later.others apart past] at stream
      exact ⟨free, entries, content, stream⟩
    · obtain ⟨free, stream⟩ := later.streams behind
      have apart : ¬ left id := fun inside => leftApart inside behind
      have past : ¬ before.IsUpcoming first id := by
        intro twice
        obtain ⟨_, _, present⟩ := (earlier.streams twice).2
        rw [present] at free
        cases free
      rw [earlier.others apart past] at free
      exact ⟨free, stream⟩
  · intro id outside notUpcoming
    rw [either] at notUpcoming
    push Not at outside notUpcoming
    rw [later.others outside.2 notUpcoming.2, earlier.others outside.1 notUpcoming.1]

/-- A frame with fewer keys changed is one with more. -/
theorem mono {more : List Bytes} (included : ∀ key ∈ keys, key ∈ more)
    (frame : Frame keys places count before after) : Frame more places count before after where
  -- Only the clause about dictionaries names the keys.
  trailer := frame.trailer
  maxId := frame.maxId
  dictionaries inside := by
    obtain ⟨old, new, present, there, same⟩ := frame.dictionaries inside
    exact ⟨old, new, present, there, fun key other => same key fun among => other (included key among)⟩
  streams := frame.streams
  others := frame.others

/-- Places described in another way are the same places. -/
theorem of_iff (same : ∀ id, left id ↔ right id) (frame : Frame keys left count before after) :
    Frame keys right count before after := by
  -- Two descriptions of the same places are the same description.
  have equal : left = right := funext fun id => propext (same id)
  exact equal ▸ frame

/-- What is known under every id says in particular what references find. -/
theorem rewrites (frame : Frame keys places count before after) :
    Rewrites keys places before after := by
  -- An id that holds an object is not given to a stream.
  have apart : ∀ {id object}, before.objects.get? id = some object →
      ¬ before.IsUpcoming count id := by
    intro id object present upcoming
    rw [(frame.streams upcoming).1] at present
    cases present
  refine ⟨frame.trailer, ?_, ?_, ?_, ?_⟩
  · intro id object present outside
    rw [frame.others outside (apart present), present]
  · intro id object present
    by_cases inside : places id
    · obtain ⟨old, new, stands, there, same⟩ := frame.dictionaries inside
      rw [present] at stands
      cases stands
      exact ⟨_, there, .entries same⟩
    · refine ⟨object, ?_, .same object⟩
      rw [frame.others inside (apart present), present]
  · rw [frame.maxId]
    exact Nat.le_add_right _ _
  · intro id free
    by_cases upcoming : before.IsUpcoming count id
    · exact .inr upcoming.2.1
    · left
      have outside : ¬ places id := by
        intro inside
        obtain ⟨_, _, present, _⟩ := frame.dictionaries inside
        rw [free] at present
        cases present
      rw [frame.others outside upcoming, free]

end Frame

/-- Changing a dictionary where it is stored leaves everything else as it was. -/
theorem frame_put {new : Dictionary} (found : document.objects.get? stored = some (.dictionary page))
    (others : ∀ key, key ∉ keys → new.get? key = page.get? key) :
    Frame keys (· = stored) 0 document (document.put stored (.dictionary new)) where
  -- One dictionary is put, and no number is given out.
  trailer := rfl
  maxId := rfl
  dictionaries := by
    rintro id rfl
    exact ⟨page, new, found, by simp, others⟩
  streams upcoming := by
    obtain ⟨_, above, within⟩ := upcoming
    omega
  others apart _ := by simp [apart]

/-- Adding a stream puts it under the next id and leaves everything else as it was. -/
theorem frame_add (numbered : document.IsNumbered) (room : document.maxId + 1 < UInt32.size)
    (content : Bytes) (keys : List Bytes) :
    Frame keys (fun _ => False) 1 document (document.add (.ofContent content)) := by
  -- The next id is the only one that an object is given, and it was free.
  have next := nextId_eq room
  have free := numbered.get?_nextId room
  have only : ∀ {id}, document.IsUpcoming 1 id ↔ id = document.nextId := by
    intro id
    rw [next]
    constructor
    · rintro ⟨generation, above, within⟩
      have number : id.number = document.maxId + 1 := by omega
      cases id
      simp_all
    · rintro rfl
      exact ⟨rfl, Nat.lt_succ_self _, Nat.le_refl _⟩
  refine ⟨rfl, maxId_add room _, fun never => never.elim, ?_, ?_⟩
  · intro id upcoming
    rw [only.1 upcoming, get?_add, if_pos rfl]
    exact ⟨free, _, content, rfl⟩
  · intro id _ apart
    rw [only] at apart
    simp [apart]

/-- Wrapping the content of a page adds two streams and changes one entry of the page. -/
theorem frame_wrapped (numbered : document.IsNumbered) (room : document.maxId + 2 < UInt32.size)
    (found : document.objects.get? stored = some (.dictionary page)) (items : List Object)
    (wrapping : Wrapping) : Frame [ascii "Contents"] (· = stored) 2 document
      (document.wrapped stored page items wrapping) := by
  have roomFirst : document.maxId + 1 < UInt32.size := by omega
  have opened := frame_add numbered roomFirst wrapping.separated.opening [ascii "Contents"]
  have roomSecond : (document.add (.ofContent wrapping.separated.opening)).maxId + 1 < UInt32.size := by
    rw [maxId_add roomFirst]
    omega
  have closed := opened.trans (frame_add (numbered.add roomFirst _) roomSecond
    wrapping.separated.closing [ascii "Contents"])
  -- The page is not touched by the two additions, so it is still there to get its new entry.
  have there := closed.rewrites.kept found (by simp)
  refine (closed.trans (frame_put there ?_)).of_iff fun id => by simp
  intro key apart
  exact page.get?_set_other (fun same => apart (List.mem_singleton.2 same)) _

end PdfResize.Document
