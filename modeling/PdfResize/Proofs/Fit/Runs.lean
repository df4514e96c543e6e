import Mathlib.Data.List.Nodup
import PdfResize.Proofs.Fit.Edits
import PdfResize.Proofs.Fit.Fitted

/-! Over any run of requests, failing ones among them, the content of a page is only ever nested more deeply. -/

namespace PdfResize

/-- The content of a page, put once between two new streams. -/
structure Wrap where
  /-- Where the page is stored. -/
  place : ObjectId
  /-- The stream before the content. -/
  opening : ObjectId
  /-- The stream after the content. -/
  closing : ObjectId
  /-- The factor by which the content is scaled. -/
  factor : Single
deriving DecidableEq

namespace Wrap

/-- Items inside wraps, the last of which is outermost. -/
def nest (wraps : List Wrap) (items : List Object) : List Object :=
  (wraps.reverse.map fun wrap => .reference wrap.opening) ++ items ++
    wraps.map fun wrap => .reference wrap.closing

/-- One wrap more goes around all the others. -/
theorem nest_concat (wraps : List Wrap) (wrap : Wrap) (items : List Object) :
    nest (wraps ++ [wrap]) items =
      .reference wrap.opening :: nest wraps items ++ [.reference wrap.closing] := by
  -- Opening streams are listed from the last wrap on, and closing ones up to it.
  simp [nest]

/-- Wraps put items between as many streams on either side. -/
theorem length_nest (wraps : List Wrap) (items : List Object) :
    (nest wraps items).length = items.length + 2 * wraps.length := by
  -- Each wrap adds one stream before the items and one behind them.
  simp only [nest, List.length_append, List.length_map, List.length_reverse]
  omega

/-- The streams of wraps. -/
def streamIds (wraps : List Wrap) : List ObjectId :=
  wraps.flatMap fun wrap => [wrap.opening, wrap.closing]

/-- The wraps of the page that is stored in a place. -/
def ofPlace (wraps : List Wrap) (stored : ObjectId) : List Wrap :=
  wraps.filter fun wrap => wrap.place = stored

/-- A wrap of a place is the last of that place. -/
theorem ofPlace_concat_same (wraps : List Wrap) (wrap : Wrap) :
    ofPlace (wraps ++ [wrap]) wrap.place = ofPlace wraps wrap.place ++ [wrap] := by
  -- The list is filtered, and the last wrap passes.
  simp [ofPlace]

/-- A wrap of one place is none of another. -/
theorem ofPlace_concat_other (wraps : List Wrap) {wrap : Wrap} {stored : ObjectId}
    (apart : stored ≠ wrap.place) : ofPlace (wraps ++ [wrap]) stored = ofPlace wraps stored := by
  -- The list is filtered, and the last wrap does not pass.
  simp [ofPlace, apart.symm]

end Wrap

namespace Document

/-- The wrap that an edit makes, which it does when it scales content that can be read. -/
def editWraps (document : Document) : Edit → List Wrap
  | .boxes _ _ => []
  | .scaling id factor =>
    match document.place? id, document.contents id with
    | some stored, .ok _ =>
      [⟨stored, document.nextId, ⟨ObjectId.numberAfter document.nextId.number, 0⟩, factor⟩]
    | _, _ => []

/-- The wraps that edits make one after another, up to the first that fails. -/
def editAllWraps : Document → List Edit → List Wrap
  | _, [] => []
  | document, first :: rest =>
    document.editWraps first ++
      match document.edit first with
      | (.ok (), edited) => editAllWraps edited rest
      | (.error _, _) => []

/-- The wraps that requests make one after another. -/
def runWraps : Document → List Request → List Wrap
  | _, [] => []
  | document, request :: rest =>
    document.editAllWraps (document.edits request) ++ runWraps (document.handle request) rest

/-- The two streams of a wrap are stored. -/
def Holds (document : Document) (wrap : Wrap) : Prop :=
  document.objects.get? wrap.opening =
      some (.ofContent (Wrapping.scaling wrap.factor).separated.opening) ∧
    document.objects.get? wrap.closing =
      some (.ofContent (Wrapping.scaling wrap.factor).separated.closing)

/--
The content entry of a page, as a run has left it.

What it listed is inside the wraps of the page, and one that lists nothing at all is as it was.
-/
structure NestsEntry (start : Document) (wraps : List Wrap) (old : Option Object)
    (current : Document) (new : Option Object) : Prop where
  lists : ∀ items, start.EntryLists old items → current.EntryLists new (Wrap.nest wraps items)
  malformed : start.IsMalformed old → new = old

/-- What a document has become when contents of its pages have been wrapped. -/
structure Nests (start : Document) (log : List Wrap) (current : Document) : Prop where
  /-- Dictionaries have changed under the keys of a fit, wherever they are. -/
  rewrites : Rewrites fitKeys (fun _ => True) start current
  numbered : current.IsNumbered
  /-- Each wrap was given two numbers. -/
  maxId : current.maxId = start.maxId + 2 * log.length
  /-- These numbers were given out since. -/
  new : ∀ id ∈ Wrap.streamIds log, start.maxId < id.number ∧ id.number ≤ current.maxId
  distinct : (Wrap.streamIds log).Nodup
  streams : ∀ wrap ∈ log, current.Holds wrap
  /-- Every dictionary of the start is where it was, with its content nested. -/
  pages : ∀ {stored} {page : Dictionary}, start.objects.get? stored = some (.dictionary page) →
    ∃ later : Dictionary, current.objects.get? stored = some (.dictionary later) ∧
      NestsEntry start (Wrap.ofPlace log stored) (page.get? (ascii "Contents")) current
        (later.get? (ascii "Contents"))

variable {document start current later : Document} {id stored : ObjectId} {entries : Dictionary}
  {items : List Object} {factor : Single} {log : List Wrap} {places : ObjectId → Prop}

namespace Nests

/-- Before the first edit nothing is nested. -/
theorem refl (numbered : document.IsNumbered) : Nests document [] document where
  rewrites := .refl _ _ _
  numbered := numbered
  maxId := rfl
  new _ member := absurd member List.not_mem_nil
  distinct := .nil
  streams _ member := absurd member List.not_mem_nil
  pages found := by
    refine ⟨_, found, fun items lists => ?_, fun _ => rfl⟩
    -- Nothing is put around the items yet.
    simpa [Wrap.nest, Wrap.ofPlace] using lists

/-- More wraps have been given two numbers each, counted from where the earlier ones ended. -/
theorem maxId_eq {more : List Wrap} (nests : Nests start log current)
    (further : Nests start (log ++ more) later) : later.maxId = current.maxId + 2 * more.length := by
  -- Both logs count the numbers from the start on.
  rw [further.maxId, nests.maxId, List.length_append]
  omega

/-- A change that reaches no content entry and adds no object leaves the nest as it is. -/
theorem quiet (nests : Nests start log current) (rewrites : Rewrites PageBox.keys places current later)
    (numbered : later.IsNumbered) (maxId : later.maxId = current.maxId) : Nests start log later where
  rewrites := nests.rewrites.trans
    (rewrites.mono (fun _ inside => List.mem_cons_of_mem _ inside) fun _ _ => trivial)
  numbered := numbered
  maxId := maxId.trans nests.maxId
  new := maxId ▸ nests.new
  distinct := nests.distinct
  streams wrap member :=
    ⟨rewrites.get?_stream (nests.streams wrap member).1,
      rewrites.get?_stream (nests.streams wrap member).2⟩
  pages found := by
    obtain ⟨between, there, nested⟩ := nests.pages found
    obtain ⟨object, last, rewritten⟩ := rewrites.rewritten there
    -- The dictionary has the entry that it had before the change.
    have kept : ∃ new : Dictionary, object = .dictionary new ∧
        new.get? (ascii "Contents") = between.get? (ascii "Contents") := by
      cases rewritten with
      | same => exact ⟨between, rfl, rfl⟩
      | entries others => exact ⟨_, rfl, others _ contents_not_mem_keys⟩
    obtain ⟨new, rfl, same⟩ := kept
    refine ⟨new, last, fun items lists => ?_, fun malformed => ?_⟩
    · exact same ▸ rewrites.entryLists (nested.lists items lists)
    · exact same.trans (nested.malformed malformed)

/-- The streams of one more wrap have the two numbers behind those of all earlier ones. -/
theorem nodup_concat (nests : Nests start log current) {wrap : Wrap}
    (opening : wrap.opening = ⟨current.maxId + 1, 0⟩)
    (closing : wrap.closing = ⟨current.maxId + 2, 0⟩) :
    (Wrap.streamIds (log ++ [wrap])).Nodup := by
  -- The two new numbers differ, and both are above all earlier ones.
  have split : Wrap.streamIds (log ++ [wrap]) = Wrap.streamIds log ++ [wrap.opening, wrap.closing] := by
    simp [Wrap.streamIds]
  rw [split, List.nodup_append]
  refine ⟨nests.distinct, ?_, ?_⟩
  · simp [opening, closing]
  · -- An earlier number is not above the one given out last.
    rintro id earlier other member rfl
    have bounded := (nests.new id earlier).2
    rcases List.mem_cons.1 member with same | last
    · rw [same, opening] at bounded
      exact absurd bounded (by simp)
    · rw [List.mem_singleton.1 last, closing] at bounded
      exact absurd bounded (by simp)

/-- Wrapping the content of a page puts it one level deeper and touches no other page. -/
theorem wrap (nests : Nests start log current)
    (found : current.resolve id = .ok (stored, .dictionary entries))
    (lists : current.EntryLists (entries.get? (ascii "Contents")) items)
    (wraps : Wraps (.scaling factor) stored entries items current later) :
    Nests start (log ++ [⟨stored, ⟨current.maxId + 1, 0⟩, ⟨current.maxId + 2, 0⟩, factor⟩]) later where
  rewrites := nests.rewrites.trans (wraps.rewrites.mono
    (fun key inside => List.mem_singleton.1 inside ▸ List.mem_cons_self) fun _ _ => trivial)
  numbered := wraps.numbered
  maxId := by
    rw [wraps.maxId, nests.maxId, List.length_append, List.length_singleton]
    omega
  new id member := by
    have grown := nests.rewrites.numbers
    simp only [Wrap.streamIds, List.flatMap_append, List.flatMap_singleton, List.mem_append,
      List.mem_cons, List.not_mem_nil, or_false] at member
    rw [wraps.maxId]
    -- Earlier numbers are below the two that this wrap is given.
    rcases member with earlier | rfl | rfl
    · have bounds := nests.new id earlier
      omega
    · exact ⟨Nat.lt_succ_of_le grown, Nat.le_succ _⟩
    · exact ⟨Nat.lt_succ_of_le (Nat.le_succ_of_le grown), Nat.le_refl _⟩
  distinct := nests.nodup_concat rfl rfl
  streams wrap member := by
    rcases List.mem_append.1 member with earlier | last
    · exact ⟨wraps.rewrites.get?_stream (nests.streams wrap earlier).1,
        wraps.rewrites.get?_stream (nests.streams wrap earlier).2⟩
    · obtain rfl := List.mem_singleton.1 last
      exact ⟨wraps.opening, wraps.closing⟩
  pages {place page} present := by
    obtain ⟨between, there, nested⟩ := nests.pages present
    by_cases here : place = stored
    · -- The page that is wrapped lists what it listed, one level deeper.
      subst here
      rw [get?_of_resolve found] at there
      cases there
      refine ⟨_, wraps.list, fun listed listedBefore => ?_, fun malformed => ?_⟩
      · -- What is read now is the nest so far, as an entry lists one thing.
        obtain rfl := lists.unique (nested.lists listed listedBefore)
        rw [Dictionary.get?_set, if_pos rfl, Wrap.ofPlace_concat_same, Wrap.nest_concat]
        exact .direct _
      · -- A malformed entry would still be malformed, so it could not have been read.
        rw [nested.malformed malformed] at lists
        exact absurd lists ((nests.rewrites.isMalformed malformed).1 items)
    · -- A page in any other place is not touched, and its items are still found.
      refine ⟨between, wraps.rewrites.kept there here, fun listed listedBefore => ?_, nested.malformed⟩
      rw [Wrap.ofPlace_concat_other log here]
      exact wraps.rewrites.entryLists (nested.lists listed listedBefore)

/-- The streams of a wrap were free ids at the start and hold the scaling and its end now. -/
theorem streams_of_mem (nests : Nests start log current) (numbered : start.IsNumbered)
    {wrap : Wrap} (member : wrap ∈ log) :
    start.objects.get? wrap.opening = none ∧ start.objects.get? wrap.closing = none ∧
      current.objects.get? wrap.opening = some (.ofContent (ascii
        ("q\n" ++ wrap.factor.text ++ " 0 0 " ++ wrap.factor.text ++ " 0 0 cm\nq\n"))) ∧
      current.objects.get? wrap.closing = some (.ofContent (ascii "\nQ\nQ\n")) := by
  -- Their numbers have been given out since.
  have free : ∀ id ∈ [wrap.opening, wrap.closing], start.objects.get? id = none := by
    intro id one
    apply numbered.get?_eq_none
    exact (nests.new id (List.mem_flatMap.2 ⟨wrap, member, one⟩)).1
  obtain ⟨opening, closing⟩ := nests.streams wrap member
  rw [Wrapping.separated_scaling] at opening closing
  exact ⟨free _ List.mem_cons_self, free _ (List.mem_cons_of_mem _ List.mem_cons_self), opening, closing⟩

end Nests

/-- A scaling that can read the content wraps it where the page is stored, and succeeds. -/
theorem edit_scaling_of_contents (numbered : document.IsNumbered)
    (found : document.resolve id = .ok (stored, .dictionary entries))
    (readable : document.contents id = .ok items) (room : document.maxId + 2 < UInt32.size)
    (factor : Single) :
    document.edit (.scaling id factor) =
        (.ok (), document.wrapped stored entries items (.scaling factor)) ∧
      document.editWraps (.scaling id factor) =
        [⟨stored, ⟨document.maxId + 1, 0⟩, ⟨document.maxId + 2, 0⟩, factor⟩] := by
  -- The wrap is made, and it takes the next two numbers.
  refine ⟨wrapContent_eq numbered room found readable _, ?_⟩
  simp only [editWraps, place?_of_resolve found, readable]
  have first : document.nextId = ⟨document.maxId + 1, 0⟩ := nextId_eq (by omega)
  rw [first, ObjectId.numberAfter_eq room]

/-- A scaling that cannot read the content fails and changes nothing. -/
theorem edit_scaling_of_contents_error {error : FitError}
    (failed : document.contents id = .error error) (factor : Single) :
    document.edit (.scaling id factor) = (.error error, document) ∧
      document.editWraps (.scaling id factor) = [] := by
  -- Without contents there is nothing to be wrapped.
  refine ⟨wrapContent_of_contents_error failed _, ?_⟩
  simp [editWraps, failed]

/-- An edit leaves contents nested, whether it succeeds or fails. -/
theorem Nests.edit (nests : Nests start log current) (edit : Edit)
    (room : current.maxId + 2 * (current.editWraps edit).length < UInt32.size) :
    Nests start (log ++ current.editWraps edit) (current.edit edit).2 := by
  cases edit with
  | boxes id size =>
    -- Boxes are no content, and setting them gives out no number.
    have none : current.editWraps (.boxes id size) = [] := rfl
    rw [none, List.append_nil, edit_boxes]
    cases boxed : current.setPageBoxes id size with
    | error error => exact nests
    | ok later =>
      obtain ⟨stored, entries, found, rfl⟩ := exists_resolve_of_setPageBoxes boxed
      exact nests.quiet (rewrites_setBoxes found size)
        (fitsPage_boxed nests.numbered found size).numbered rfl
  | scaling id factor =>
    cases readable : current.contents id with
    | error error =>
      obtain ⟨same, none⟩ := edit_scaling_of_contents_error readable factor
      rw [same, none, List.append_nil]
      exact nests
    | ok items =>
      obtain ⟨stored, entries, found, lists⟩ := exists_resolve_of_contents readable
      -- The wrap is recorded before it is known that there are numbers for it.
      have one : (current.editWraps (.scaling id factor)).length = 1 := by
        simp [editWraps, place?_of_resolve found, readable]
      rw [one] at room
      obtain ⟨made, recorded⟩ :=
        edit_scaling_of_contents nests.numbered found readable room factor
      rw [made, recorded]
      exact nests.wrap found lists (wraps_wrapped nests.numbered room (get?_of_resolve found) _)

/-- Edits leave contents nested, however many of them are made before one fails. -/
theorem Nests.editAll (nests : Nests start log current) (edits : List Edit)
    (room : current.maxId + 2 * (current.editAllWraps edits).length < UInt32.size) :
    Nests start (log ++ current.editAllWraps edits) (current.editAll edits).2 := by
  induction edits generalizing current log with
  | nil => simpa [editAllWraps, Document.editAll] using nests
  | cons first rest ih =>
    unfold editAllWraps at room ⊢
    rw [List.length_append] at room
    have step := nests.edit first (by omega)
    rw [editAll_cons]
    cases made : current.edit first with
    | mk answer edited =>
      rw [made] at step
      cases answer with
      | error error =>
        -- The edit that fails is the last one that is made.
        simpa [made] using step
      | ok _ =>
        rw [made] at room
        -- The numbers that this edit was given are no longer counted as those still to come.
        have number := nests.maxId_eq step
        have done := ih step (by simp only at room number ⊢; omega)
        rwa [List.append_assoc] at done

/-- Requests leave contents nested, whether they succeed or fail. -/
theorem Nests.handleAll (nests : Nests start log current) (requests : List Request)
    (room : current.maxId + 2 * (current.runWraps requests).length < UInt32.size) :
    Nests start (log ++ current.runWraps requests) (current.handleAll requests) := by
  induction requests generalizing current log with
  | nil => simpa [runWraps, Document.handleAll] using nests
  | cons request rest ih =>
    unfold runWraps at room ⊢
    rw [List.length_append] at room
    -- The request is handled by making its edits, and the rest starts from what they leave behind.
    have step := nests.editAll (current.edits request) (by omega)
    rw [← handle_eq_editAll] at step
    have number := nests.maxId_eq step
    have done := ih step (by omega)
    rwa [List.append_assoc] at done

/--
Whatever is asked of a document, and whether it is done or refused, content is nested and never broken.

Each wrap has two streams of its own, which were free ids at first and now hold the scaling and its end.
A page lists what it listed at first, inside its own wraps, the last of them outermost; a content entry
that is malformed is as it was; and the streams that there were are all there.
-/
theorem handleAll_nests_contents {requests : List Request} (numbered : document.IsNumbered)
    (room : document.maxId + 2 * (document.runWraps requests).length < UInt32.size) :
    let log := document.runWraps requests
    let result := document.handleAll requests
    result.maxId = document.maxId + 2 * log.length ∧ (Wrap.streamIds log).Nodup ∧
    (∀ wrap ∈ log,
      document.objects.get? wrap.opening = none ∧ document.objects.get? wrap.closing = none ∧
      result.objects.get? wrap.opening = some (.ofContent (ascii
        ("q\n" ++ wrap.factor.text ++ " 0 0 " ++ wrap.factor.text ++ " 0 0 cm\nq\n"))) ∧
      result.objects.get? wrap.closing = some (.ofContent (ascii "\nQ\nQ\n"))) ∧
    (∀ stored, ∀ page : Dictionary, document.objects.get? stored = some (.dictionary page) →
      ∃ later : Dictionary, result.objects.get? stored = some (.dictionary later) ∧
        (∀ items, document.EntryLists (page.get? (ascii "Contents")) items →
          result.EntryLists (later.get? (ascii "Contents"))
            (Wrap.nest (Wrap.ofPlace log stored) items)) ∧
        (document.IsMalformed (page.get? (ascii "Contents")) →
          later.get? (ascii "Contents") = page.get? (ascii "Contents"))) ∧
    ∀ id entries bytes, document.objects.get? id = some (.stream entries bytes) →
      result.objects.get? id = some (.stream entries bytes) := by
  intro log result
  have nests : Nests document log result := (Nests.refl numbered).handleAll requests room
  -- The log of the wraps says where each of them is and what is in it.
  refine ⟨nests.maxId, nests.distinct, fun wrap member => nests.streams_of_mem numbered member, ?_, ?_⟩
  · intro stored page present
    obtain ⟨later, there, entry⟩ := nests.pages present
    exact ⟨later, there, entry.lists, entry.malformed⟩
  · intro id entries bytes held
    exact nests.rewrites.get?_stream held

/-- A page with a stream as content, and behind it a page with a number in the place of its content. -/
def brokenPage : Document :=
  ofKids (.array [.integer 0, .integer 0, .integer 500, .integer 600])
    [.dictionary [(ascii "Type", .name (ascii "Page")), (ascii "Parent", .reference ⟨2, 0⟩),
        (ascii "Contents", .reference ⟨5, 0⟩)],
      .dictionary [(ascii "Type", .name (ascii "Page")), (ascii "Parent", .reference ⟨2, 0⟩),
        (ascii "Contents", .integer 7)],
      .ofContent (ascii "0 0 1 1 re f")]

/-- A scaling, a fit that fails at the second page, a refused factor, a page that is not there, a scaling. -/
def mixedRequests : List Request :=
  [.scaleContent ⟨3, 0⟩ 1, .fit {} ⟨250, 300⟩, .scaleDown 2 ⟨250, 300⟩, .scaleContent ⟨9, 0⟩ 1,
    .scaleContent ⟨3, 0⟩ 1]

/-- Requests that fail and requests that succeed leave three wraps around one page and none around another. -/
theorem brokenPage_handleAll_nests_contents :
    brokenPage.IsNumbered ∧
      brokenPage.maxId + 2 * (brokenPage.runWraps mixedRequests).length < UInt32.size ∧
      brokenPage.runWraps mixedRequests =
        [⟨⟨3, 0⟩, ⟨6, 0⟩, ⟨7, 0⟩, 1⟩, ⟨⟨3, 0⟩, ⟨8, 0⟩, ⟨9, 0⟩, (0.5 : Double).convert⟩,
          ⟨⟨3, 0⟩, ⟨10, 0⟩, ⟨11, 0⟩, 1⟩] ∧
      (∃ first : Dictionary,
        (brokenPage.handleAll mixedRequests).objects.get? ⟨3, 0⟩ = some (.dictionary first) ∧
        (brokenPage.handleAll mixedRequests).EntryLists (first.get? (ascii "Contents"))
          ([10, 8, 6, 5, 7, 9, 11].map fun number => .reference ⟨number, 0⟩)) ∧
      ∃ second : Dictionary,
        (brokenPage.handleAll mixedRequests).objects.get? ⟨4, 0⟩ = some (.dictionary second) ∧
        second.get? (ascii "Contents") = some (.integer 7) := by
  have numbered : brokenPage.IsNumbered := isNumbered_ofKids _ _
  have log : brokenPage.runWraps mixedRequests =
      [⟨⟨3, 0⟩, ⟨6, 0⟩, ⟨7, 0⟩, 1⟩, ⟨⟨3, 0⟩, ⟨8, 0⟩, ⟨9, 0⟩, (0.5 : Double).convert⟩,
        ⟨⟨3, 0⟩, ⟨10, 0⟩, ⟨11, 0⟩, 1⟩] := by
    decide +kernel
  have room : brokenPage.maxId + 2 * (brokenPage.runWraps mixedRequests).length < UInt32.size := by
    rw [log]
    decide
  obtain ⟨_, _, _, pages, _⟩ := handleAll_nests_contents numbered room
  rw [log] at pages
  -- The first page is wrapped three times and the second one never.
  obtain ⟨first, there, lists, _⟩ := pages ⟨3, 0⟩ _ rfl
  obtain ⟨second, present, _, malformed⟩ := pages ⟨4, 0⟩ _ rfl
  have unlisted : brokenPage.IsMalformed (some (.integer 7)) := by
    -- A number lists nothing and is no reference.
    constructor
    · intro items lists
      cases lists
    · intro content same
      cases same
  exact ⟨numbered, room, log, ⟨first, there, lists _ (.single rfl)⟩, second, present,
    malformed unlisted⟩

end Document

end PdfResize
