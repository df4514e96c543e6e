import PdfResize.Proofs.Document.Inheriting
import PdfResize.Proofs.Document.Tokens
import PdfResize.Proofs.Document.Wrapping

/-! What a page draws, as the bytes of its streams one behind another, and what wrappings make of it. -/

namespace PdfResize.Document

/-- The bytes of the stream that an item of a content list is. -/
def streamBytes? (document : Document) (item : Object) : Option Bytes :=
  match document.value item with
  | .ok (.stream _ bytes) => some bytes
  | _ => none

/-- The bytes of a content list, all of whose items are streams, without anything between them. -/
def joined? (document : Document) (items : List Object) : Option Bytes :=
  (items.mapM document.streamBytes?).map List.flatten

/-- What a page draws, if all items of its content list are streams. -/
def drawn? (document : Document) (id : ObjectId) : Option Bytes := do
  document.joined? (← (document.contents id).toOption)

/-- Wrap the contents of pages one after another, passing over those that cannot be wrapped. -/
def wrapAll (document : Document) (wraps : List (ObjectId × Wrapping)) : Document :=
  wraps.foldl (fun document wrap => (document.wrapContent wrap.1 wrap.2).2) document

/-- The wrappings that are for the page that an id leads to, under whatever id they name it. -/
def wrappingsOf (document : Document) (id : ObjectId) (wraps : List (ObjectId × Wrapping)) :
    List Wrapping :=
  (wraps.filter fun wrap => document.place? wrap.1 = document.place? id).map Prod.snd

variable {document start current later before after : Document} {id other stored : ObjectId}
  {page : Dictionary} {items : List Object} {content : Bytes} {wrapping : Wrapping}
  {keys : List Bytes} {places : ObjectId → Prop}

/-! ### What is drawn -/

/-- A page draws the joined bytes of its contents. -/
theorem drawn?_eq_some_iff : document.drawn? id = some content ↔
    ∃ items, document.contents id = .ok items ∧ document.joined? items = some content := by
  -- Without contents nothing is joined.
  unfold drawn?
  cases document.contents id with
  | ok items => simp [Except.toOption]
  | error error => simp [Except.toOption]

/-- A stream in front of joined items comes first in the joined bytes. -/
theorem joined?_cons {item : Object} {bytes : Bytes} (first : document.streamBytes? item = some bytes)
    (rest : document.joined? items = some content) :
    document.joined? (item :: items) = some (bytes ++ content) := by
  -- Each item is read on its own, and the bytes are put one after the other.
  obtain ⟨streams, read, rfl⟩ := Option.map_eq_some_iff.1 rest
  simp [joined?, List.mapM_cons, first, read]

/-- A stream behind joined items comes last in the joined bytes. -/
theorem joined?_concat {item : Object} {bytes : Bytes} (rest : document.joined? items = some content)
    (last : document.streamBytes? item = some bytes) :
    document.joined? (items ++ [item]) = some (content ++ bytes) := by
  -- Each item is read on its own, and the bytes are put one after the other.
  obtain ⟨streams, read, rfl⟩ := Option.map_eq_some_iff.1 rest
  simp [joined?, List.mapM_append, last, read]

/-- A reference to a stored stream is read as its bytes. -/
theorem streamBytes?_of_get? {entries : Dictionary}
    (found : document.objects.get? id = some (.stream entries content)) :
    document.streamBytes? (.reference id) = some content := by
  -- The chain of references is over where it begins.
  have resolved : document.resolve id = .ok (id, .stream entries content) :=
    follow_eq_ok_iff.2 (.here found fun _ same => by cases same)
  simp only [streamBytes?, value, object_of_resolve resolved]

namespace Rewrites

/-- A stream is found where it was, with the bytes that it had. -/
theorem streamBytes? (rewrites : Rewrites keys places before after) {item : Object} {bytes : Bytes}
    (found : before.streamBytes? item = some bytes) : after.streamBytes? item = some bytes := by
  cases item with
  | reference id =>
    simp only [Document.streamBytes?, value] at found ⊢
    split at found
    · rename_i stream
      cases found
      obtain ⟨stored, resolved⟩ := exists_resolve_of_object stream
      obtain ⟨later, there, rewritten⟩ := rewrites.resolve resolved
      -- Of all objects only dictionaries are rewritten.
      cases rewritten
      rw [object_of_resolve there]
    · cases found
  | _ => exact found

/-- A rewriting leaves the joined bytes of streams as they were. -/
theorem joined? (rewrites : Rewrites keys places before after)
    (joined : before.joined? items = some content) : after.joined? items = some content := by
  -- All items are streams, and each of them is found with its bytes.
  induction items generalizing content with
  | nil => exact joined
  | cons item rest ih =>
    simp only [Document.joined?, List.mapM_cons, Option.map_eq_some_iff, Option.bind_eq_bind,
      Option.bind_eq_some_iff, Option.pure_def, Option.some.injEq] at joined
    obtain ⟨_, ⟨bytes, first, streams, others, rfl⟩, rfl⟩ := joined
    exact joined?_cons (rewrites.streamBytes? first) (ih (by simp [Document.joined?, others]))

/-- A page that is not touched draws what it drew. -/
theorem drawn? (rewrites : Rewrites keys places before after)
    (found : before.resolve id = .ok (stored, .dictionary page)) (apart : ¬ places stored)
    (drawn : before.drawn? id = some content) : after.drawn? id = some content := by
  -- The page lists the same contents, since it is not among the places, and its streams are kept.
  obtain ⟨items, readable, joined⟩ := drawn?_eq_some_iff.1 drawn
  have there := rewrites.resolve_apart found apart
  have lists := rewrites.hasContents (contents_eq_ok_iff.1 readable) (dictionary_of_resolve found)
    (dictionary_of_resolve there) rfl
  exact drawn?_eq_some_iff.2 ⟨items, contents_eq_ok_iff.2 lists, rewrites.joined? joined⟩

end Rewrites

/-! ### One wrapping after another -/

/-- The content list of the page that is wrapped is the new one. -/
theorem Wraps.contents (wraps : Wraps wrapping stored page items before after)
    (found : before.resolve id = .ok (stored, .dictionary page)) :
    after.contents id = .ok (.reference ⟨before.maxId + 1, 0⟩ :: items ++
      [.reference ⟨before.maxId + 2, 0⟩]) := by
  obtain ⟨later, there, _⟩ := wraps.rewrites.resolve_dictionary found
  -- What the place holds now is the page with its new list.
  have stands := get?_of_resolve there
  rw [wraps.list] at stands
  cases stands
  have lists (list : List Object) :
      after.EntryLists ((page.set (ascii "Contents") (.array list)).get? (ascii "Contents")) list := by
    rw [Dictionary.get?_set, if_pos rfl]
    exact .direct list
  exact contents_eq_ok_iff.2 ⟨_, dictionary_of_resolve there, lists _⟩

/-- The page that is wrapped draws what it drew, inside the bytes that were put around it. -/
theorem Wraps.drawn? (wraps : Wraps wrapping stored page items before after)
    (found : before.resolve id = .ok (stored, .dictionary page))
    (joined : before.joined? items = some content) :
    after.drawn? id = some (wrapping.around content) := by
  -- The page lists the two new streams around its old contents, which are still joined to the same bytes.
  have inside := joined?_cons (streamBytes?_of_get? wraps.opening) (wraps.rewrites.joined? joined)
  exact drawn?_eq_some_iff.2 ⟨_, wraps.contents found,
    joined?_concat inside (streamBytes?_of_get? wraps.closing)⟩

/-- What a document has become when contents have been wrapped, at most so many of them. -/
structure Spliced (start : Document) (count : Nat) (current : Document) : Prop where
  rewrites : Rewrites [ascii "Contents"] (fun _ => True) start current
  inherits : Inherits [ascii "Contents"] (fun _ => True) start current
  numbered : current.IsNumbered
  maxId : current.maxId ≤ start.maxId + 2 * count

/-- Before any wrap a document is spliced as it is. -/
theorem Spliced.refl (numbered : document.IsNumbered) : Spliced document 0 document :=
  -- No object has been rewritten and no number given out.
  ⟨.refl _ _ _, .refl _ _ _, numbered, Nat.le_refl _⟩

namespace Spliced

variable {count : Nat} (spliced : Spliced start count current)

include spliced

/-- A dictionary is in the place where the start had one. -/
theorem place?_eq (found : current.resolve id = .ok (stored, .dictionary page)) :
    start.place? id = some stored := by
  -- A dictionary that is found now was found in the same place at the start.
  obtain ⟨_, there, _⟩ := spliced.inherits.resolve_dictionary found
  exact place?_of_resolve there

/-- An id that led to one place with a page at the start leads to the same page now. -/
theorem resolve_eq (found : current.resolve id = .ok (stored, .dictionary page))
    (same : start.place? other = start.place? id) :
    current.resolve other = .ok (stored, .dictionary page) := by
  -- The other id is followed at the start and from there on, to where this one leads.
  obtain ⟨old, there, _⟩ := spliced.inherits.resolve_dictionary found
  obtain ⟨again, now, _⟩ := spliced.rewrites.resolve_dictionary
    (resolve_eq_of_place? there (same.trans (place?_of_resolve there)))
  exact resolve_eq_of_place? found (place?_of_resolve now)

/-- One more wrapping, if it can be made at all, is around what its own page draws and no other. -/
theorem wrapContent (room : current.maxId + 2 < UInt32.size) (other : ObjectId) (wrapping : Wrapping) :
    Spliced start (count + 1) (current.wrapContent other wrapping).2 ∧
      ∀ id content, current.drawn? id = some content →
        (current.wrapContent other wrapping).2.drawn? id =
          some (if start.place? other = start.place? id then wrapping.around content else content) := by
  have more : current.maxId ≤ start.maxId + 2 * (count + 1) := by
    have fewer := spliced.maxId
    omega
  cases read : current.contents other with
  | error error =>
    rw [wrapContent_of_contents_error read]
    refine ⟨⟨spliced.rewrites, spliced.inherits, spliced.numbered, more⟩, ?_⟩
    intro id content drawn
    -- The content of a page that draws something could have been read.
    have apart : start.place? other ≠ start.place? id := by
      intro same
      obtain ⟨items, readable, _⟩ := drawn?_eq_some_iff.1 drawn
      obtain ⟨stored, entries, found, lists⟩ := exists_resolve_of_contents readable
      have there := dictionary_of_resolve (spliced.resolve_eq found same)
      rw [contents_eq_ok_iff.2 ⟨entries, there, lists⟩] at read
      cases read
    rw [if_neg apart, drawn]
  | ok items =>
    obtain ⟨stored, entries, found, lists⟩ := exists_resolve_of_contents read
    have made := wrapContent_eq spliced.numbered room found read wrapping
    have wraps : Wraps wrapping stored entries items current _ :=
      wraps_wrapped spliced.numbered room (get?_of_resolve found) wrapping
    obtain ⟨_, _, _, inherits⟩ := exists_inherits_of_wrapContent made
    rw [made]
    refine ⟨⟨spliced.rewrites.trans (wraps.rewrites.mono (fun _ among => among) fun _ _ => trivial),
      spliced.inherits.trans (inherits.mono (fun _ among => among) fun _ _ => trivial),
      wraps.numbered, ?_⟩, ?_⟩
    · have fewer := spliced.maxId
      rw [wraps.maxId]
      omega
    · intro id content drawn
      obtain ⟨others, readable, joined⟩ := drawn?_eq_some_iff.1 drawn
      obtain ⟨place, page, there, listed⟩ := exists_resolve_of_contents readable
      by_cases same : start.place? other = start.place? id
      · -- The page is the one that is wrapped, so its content list is the one that was read.
        rw [if_pos same]
        have again := spliced.resolve_eq found same.symm
        rw [there] at again
        cases again
        cases lists.unique listed
        exact wraps.drawn? there joined
      · -- The page that is wrapped is stored somewhere else.
        rw [if_neg same]
        refine wraps.rewrites.drawn? there ?_ drawn
        rintro rfl
        exact same ((spliced.place?_eq found).trans (spliced.place?_eq there).symm)

/-- Wrappings made one after another are around what their own pages draw. -/
theorem wrapAll {wraps : List (ObjectId × Wrapping)}
    (room : start.maxId + 2 * (count + wraps.length) < UInt32.size)
    (drawn : current.drawn? id = some content) :
    Spliced start (count + wraps.length) (current.wrapAll wraps) ∧
      (current.wrapAll wraps).drawn? id =
        some (Wrapping.aroundAll (start.wrappingsOf id wraps) content) := by
  -- The first wrapping is the innermost one, if it is for this page at all.
  induction wraps generalizing current count content with
  | nil => exact ⟨spliced, drawn⟩
  | cons wrap rest ih =>
    rw [List.length_cons] at room
    have fewer := spliced.maxId
    obtain ⟨next, draws⟩ := spliced.wrapContent (by omega) wrap.1 wrap.2
    obtain ⟨last, more⟩ := ih next (by omega) (draws id content drawn)
    rw [Document.wrapAll] at last more
    rw [Document.wrapAll, List.foldl_cons, List.length_cons, Nat.add_comm rest.length, ← Nat.add_assoc]
    refine ⟨last, more.trans ?_⟩
    by_cases same : start.place? wrap.1 = start.place? id
    · simp [wrappingsOf, same, Wrapping.aroundAll]
    · simp [wrappingsOf, same]

end Spliced

/-! ### The tokens of what is drawn -/

/-- What wrapping the content of a page does to what the page draws. -/
structure Splices (wrapping : Wrapping) (id : ObjectId) (content : Bytes) (before after : Document) :
    Prop where
  /-- Two new streams stand around the old list; they hold the given bytes, padded with line feeds. -/
  exists_padded : ∃ (padded : Wrapping) (items : List Object), padded.Pads wrapping ∧
    before.contents id = .ok items ∧
    after.contents id = .ok (.reference ⟨before.maxId + 1, 0⟩ :: items ++
      [.reference ⟨before.maxId + 2, 0⟩]) ∧
    before.objects.get? ⟨before.maxId + 1, 0⟩ = none ∧
    before.objects.get? ⟨before.maxId + 2, 0⟩ = none ∧
    after.objects.get? ⟨before.maxId + 1, 0⟩ = some (.ofContent padded.opening) ∧
    after.objects.get? ⟨before.maxId + 2, 0⟩ = some (.ofContent padded.closing)
  /-- The page draws the tokens that it drew, between those that were given. -/
  exists_drawn : ∃ drawn, after.drawn? id = some drawn ∧
    drawn.tokens = wrapping.opening.tokens ++ content.tokens ++ wrapping.closing.tokens

/-- What a page draws can be wrapped, and no token of it merges with what is put around it. -/
theorem exists_splices (numbered : document.IsNumbered) (room : document.maxId + 2 < UInt32.size)
    (drawn : document.drawn? id = some content) (wrapping : Wrapping) :
    ∃ later, document.wrapContent id wrapping = (.ok (), later) ∧
      Splices wrapping id content document later := by
  -- A page that draws has readable contents, so the wrap is made, and its two streams carry the padded
  -- wrapping.
  obtain ⟨items, readable, joined⟩ := drawn?_eq_some_iff.1 drawn
  obtain ⟨stored, page, found, _⟩ := exists_resolve_of_contents readable
  have wraps : Wraps wrapping stored page items document _ :=
    wraps_wrapped numbered room (get?_of_resolve found) wrapping
  refine ⟨_, wrapContent_eq numbered room found readable wrapping, ?_, ?_⟩
  · exact ⟨wrapping.separated, items, wrapping.pads_separated, readable, wraps.contents found,
      numbered.get?_eq_none (Nat.lt_add_of_pos_right (by decide)),
      numbered.get?_eq_none (Nat.lt_add_of_pos_right (by decide)), wraps.opening, wraps.closing⟩
  · exact ⟨_, wraps.drawn? found joined, wrapping.tokens_around content⟩

/-- However often contents are wrapped, a page draws its old tokens inside those of its own wrappings.

And so it stays: after any such run its content can be wrapped once more.
-/
theorem wrapAll_tokens (numbered : document.IsNumbered) (wraps : List (ObjectId × Wrapping))
    (room : document.maxId + 2 * wraps.length < UInt32.size)
    (drawn : document.drawn? id = some content) :
    ∃ joined, (document.wrapAll wraps).drawn? id = some joined ∧
      joined.tokens = Wrapping.tokensAround (document.wrappingsOf id wraps) content.tokens ∧
      ∀ wrapping, document.maxId + 2 * (wraps.length + 1) < UInt32.size →
        ∃ later, (document.wrapAll wraps).wrapContent id wrapping = (.ok (), later) ∧
          Splices wrapping id joined (document.wrapAll wraps) later := by
  -- The run of wraps is followed by its induction, and one more wrap is made where it has ended.
  rw [← Nat.zero_add wraps.length] at room
  obtain ⟨spliced, draws⟩ := (Spliced.refl numbered).wrapAll room drawn
  refine ⟨_, draws, Wrapping.tokens_aroundAll _ content, fun wrapping more => ?_⟩
  have bound := spliced.maxId
  exact exists_splices spliced.numbered (by omega) draws wrapping

/-- A page whose content is cut inside of an operator, between two streams. -/
def cutOperator : Document :=
  ofKids (.array [.integer 0, .integer 0, .integer 500, .integer 600])
    [.dictionary [(ascii "Type", .name (ascii "Page")), (ascii "Parent", .reference ⟨2, 0⟩),
        (ascii "Contents", .array [.reference ⟨4, 0⟩, .reference ⟨5, 0⟩])],
      .ofContent (ascii "BT E"), .ofContent (ascii "T")]

/-- The two halves of an operator stay together through two wraps. -/
theorem cutOperator_wrapAll_tokens :
    cutOperator.IsNumbered ∧ cutOperator.maxId + 2 * 2 < UInt32.size ∧
      cutOperator.drawn? ⟨3, 0⟩ = some (ascii "BT ET") ∧
      ∃ joined, (cutOperator.wrapAll [(⟨3, 0⟩, ⟨ascii "q", []⟩), (⟨3, 0⟩, ⟨[], ascii "Q"⟩)]).drawn?
          ⟨3, 0⟩ = some joined ∧
        joined.tokens = [ascii "q", ascii "BT", ascii "ET", ascii "Q"] := by
  -- What the theorem asks for is evaluated, and so are the tokens it promises.
  have numbered : cutOperator.IsNumbered := isNumbered_ofKids _ _
  have room : cutOperator.maxId + 2 * 2 < UInt32.size := by decide +kernel
  have drawn : cutOperator.drawn? ⟨3, 0⟩ = some (ascii "BT ET") := by decide +kernel
  obtain ⟨joined, draws, tokens, _⟩ := wrapAll_tokens numbered
    [(⟨3, 0⟩, ⟨ascii "q", []⟩), (⟨3, 0⟩, ⟨[], ascii "Q"⟩)] room drawn
  refine ⟨numbered, room, drawn, joined, draws, tokens.trans ?_⟩
  decide +kernel

/-- A page whose content has the number that comes round after the largest one. -/
def fullNumbers : Document where
  objects := Store.ofEntries [(⟨1, 0⟩, .ofContent (ascii "S")),
    (⟨2, 0⟩, .dictionary [(ascii "Kids", .array [.reference ⟨3, 0⟩])]),
    (⟨3, 0⟩, .dictionary [(ascii "Type", .name (ascii "Page")), (ascii "Parent", .reference ⟨2, 0⟩),
      (ascii "Contents", .reference ⟨1, 0⟩)]),
    (⟨4, 0⟩, .dictionary [(ascii "Pages", .reference ⟨2, 0⟩)]), (⟨4294967295, 0⟩, .null)]
  trailer := [(ascii "Root", .reference ⟨4, 0⟩)]
  maxId := 4294967295

/-- Without numbers left, what comes after the content is stored in place of the content. -/
theorem fullNumbers_tokens_replaced :
    fullNumbers.IsNumbered ∧ fullNumbers.drawn? ⟨3, 0⟩ = some (ascii "S") ∧
      (fullNumbers.wrapContent ⟨3, 0⟩ ⟨ascii "q", ascii "Q"⟩).1 = .ok () ∧
      (fullNumbers.wrapContent ⟨3, 0⟩ ⟨ascii "q", ascii "Q"⟩).2.drawn? ⟨3, 0⟩ =
        some (ascii "q\n\nQ\n\nQ\n") ∧
      (ascii "q\n\nQ\n\nQ\n").tokens ≠
        (ascii "q").tokens ++ (ascii "S").tokens ++ (ascii "Q").tokens := by
  -- The runs are evaluated; that the document is numbered is looked up object by object.
  refine ⟨?_, by decide +kernel, by decide +kernel, by decide +kernel, by decide +kernel⟩
  intro id object found
  have member := Store.mem_of_get?_ofEntries found
  simp only [List.mem_cons, Prod.mk.injEq, List.not_mem_nil, or_false] at member
  show id.number ≤ 4294967295
  rcases member with ⟨rfl, _⟩ | ⟨rfl, _⟩ | ⟨rfl, _⟩ | ⟨rfl, _⟩ | ⟨rfl, _⟩ <;> decide

end PdfResize.Document
