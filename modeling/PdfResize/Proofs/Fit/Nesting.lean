import Mathlib.Data.List.Nodup
import PdfResize.Proofs.Fit.Fitted

/-! Shrinking puts the content of every page between two new streams of its own, and keeps all of it. -/

namespace PdfResize.Document

/-- The id of the stream that is put before the content of a page. -/
def openingId (document : Document) (page : Page) : ObjectId :=
  ⟨document.maxId + 2 * page.number - 1, 0⟩

/-- The id of the stream that is put after the content of a page. -/
def closingId (document : Document) (page : Page) : ObjectId := ⟨document.maxId + 2 * page.number, 0⟩

/-- The streams around the contents of all pages have ids of their own. -/
theorem nodup_streamIds (document : Document) :
    (document.pages.flatMap fun page => [document.openingId page, document.closingId page]).Nodup := by
  -- Each page has two numbers of its own, and they grow with the pages.
  rw [List.nodup_flatMap]
  constructor
  · -- The two numbers of a page follow each other.
    intro page listed
    have positive := one_le_number listed
    simp only [openingId, closingId, List.nodup_cons, List.mem_singleton, ObjectId.mk.injEq,
      List.not_mem_nil, not_false_eq_true, List.nodup_nil, and_true]
    omega
  · -- The numbers of a later page are above those of an earlier one.
    refine document.pages_ordered.imp ?_
    intro left right ordered
    simp only [Function.onFun, openingId, closingId, List.disjoint_cons_left, List.mem_cons,
      ObjectId.mk.injEq, List.not_mem_nil, or_false, List.disjoint_nil_left, and_true]
    omega

/-- The streams around the contents are new. -/
theorem get?_streamIds {document : Document} (numbered : document.IsNumbered) {page : Page}
    (listed : page ∈ document.pages) : document.objects.get? (document.openingId page) = none ∧
      document.objects.get? (document.closingId page) = none := by
  -- Their numbers are above the one given out last.
  have positive := one_le_number listed
  constructor
  · refine numbered.get?_eq_none ?_
    show document.maxId < document.maxId + 2 * page.number - 1
    omega
  · refine numbered.get?_eq_none ?_
    show document.maxId < document.maxId + 2 * page.number
    omega

variable {document start current later result : Document} {options : FitOptions} {target : PageSize}
  {measured done rest : List MeasuredPage} {page : MeasuredPage} {factor : Single}

/-- What a document has become when the contents of some pages have been wrapped. -/
structure WrapsPages (factor : Single) (target : PageSize) (before : Document)
    (done : List MeasuredPage) (after : Document) : Prop extends
    FitsPages 2 target before done after where
  /-- The streams before the contents are stored. -/
  opening : ∀ page ∈ done, after.objects.get? (before.openingId page.toPage) =
    some (.ofContent (Wrapping.scaling factor).separated.opening)
  /-- The streams after the contents are stored. -/
  closing : ∀ page ∈ done, after.objects.get? (before.closingId page.toPage) =
    some (.ofContent (Wrapping.scaling factor).separated.closing)
  /-- Each page lists its old content between its two streams. -/
  lists : ∀ {page stored items}, page ∈ done → before.place? page.id = some stored →
    before.HasContents page.id items → ∃ entries : Dictionary,
      after.objects.get? stored = some (.dictionary entries) ∧
        entries.get? (ascii "Contents") = some (.array (.reference (before.openingId page.toPage) ::
          items ++ [.reference (before.closingId page.toPage)]))

section pass

variable (found : start.measuredPages = .ok measured)
  (distinct : (start.pages.map fun page => start.place? page.id).Nodup)

include found distinct

/-- When pages are in places of their own, no page before one is in its place. -/
theorem untouched_of_nodup {stored : ObjectId} (split : measured = done ++ page :: rest)
    (located : start.place? page.id = some stored) :
    ∀ earlier ∈ done, start.place? earlier.id ≠ some stored := by
  -- The places before the page and the place of the page are listed behind each other.
  intro earlier member same
  rw [← (measuredPages_eq_ok_iff.1 found).1, List.map_map, split, List.map_append, List.map_cons,
    List.nodup_append] at distinct
  exact distinct.2.2 _ (List.mem_map_of_mem member) _ List.mem_cons_self (same.trans located.symm)

/-- One more page is wrapped, in a place where no page was wrapped before. -/
theorem WrapsPages.advance (room : start.maxId + 2 * start.pages.length < UInt32.size)
    (split : measured = done ++ page :: rest) (wraps : WrapsPages factor target start done current)
    (passed : shrinkPage target factor current page = (.ok (), later)) :
    WrapsPages factor target start (done ++ [page]) later := by
  obtain ⟨stored, old, entries, resolved, there, alike⟩ := wraps.next found split
  have located := place?_of_resolve resolved
  have untouched := untouched_of_nodup found distinct split located
  obtain ⟨items, readable, step⟩ := exists_contents_of_shrinkPage wraps.numbered
    (wraps.room found split room) there passed
  -- The two numbers given out by this step are those meant for the page.
  have number := number_eq found split
  have first : (⟨current.maxId + 1, 0⟩ : ObjectId) = start.openingId page.toPage := by
    rw [openingId, number, wraps.maxId, ObjectId.mk.injEq]
    omega
  have second : (⟨current.maxId + 2, 0⟩ : ObjectId) = start.closingId page.toPage := by
    rw [closingId, number, wraps.maxId, ObjectId.mk.injEq]
    omega
  refine ⟨wraps.toFitsPages.advance located alike step.toFitsPage, ?_, ?_, ?_⟩
  · -- The streams of earlier pages are kept, and those of this page are new.
    intro other member
    rcases List.mem_append.1 member with earlier | last
    · exact step.rewrites.get?_stream (wraps.opening other earlier)
    · rw [List.mem_singleton.1 last, ← first]
      exact step.opening
  · intro other member
    rcases List.mem_append.1 member with earlier | last
    · exact step.rewrites.get?_stream (wraps.closing other earlier)
    · rw [List.mem_singleton.1 last, ← second]
      exact step.closing
  · intro other place content member same had
    rcases List.mem_append.1 member with earlier | last
    · -- An earlier page is in another place, which this step leaves alone.
      have apart : place ≠ stored := fun here => untouched other earlier (here ▸ same)
      obtain ⟨listing, present, listed⟩ := wraps.lists earlier same had
      exact ⟨listing, step.rewrites.kept present apart, listed⟩
    · rw [List.mem_singleton.1 last] at same had ⊢
      rw [located] at same
      cases same
      -- The page is as it was at the start, and its content is read as it was read then.
      have asBefore := wraps.eq_of_untouched resolved there untouched
      subst asBefore
      have boxedFound := dictionary_of_resolve (resolve_boxed there (target.orientedLike page.size))
      have now := (wraps.rewrites_boxed there (target.orientedLike page.size)).hasContents had
        (dictionary_of_resolve resolved) boxedFound
        (entries.get?_setBoxes_other _ contents_not_mem_keys)
      rw [contents_eq_ok_iff.2 now] at readable
      cases readable
      rw [← first, ← second]
      exact step.list

end pass

/--
Shrinking puts the content of every page between two new streams and loses nothing.

Each page has two streams of its own, the first of which scales and the second of which ends that.
Between them its content entry lists what it listed, and all streams of the document are still there.
-/
theorem fit_wraps_contents {factor : Double} (numbered : document.IsNumbered)
    (room : document.maxId + 2 * document.pages.length < UInt32.size)
    (distinct : (document.pages.map fun page => document.place? page.id).Nodup)
    (fitted : document.fit options target = (.ok (.scaledDown factor), result)) :
    let factorText := (factor.convert : Single).text
    (document.pages.flatMap fun page => [document.openingId page, document.closingId page]).Nodup ∧
    (∀ page ∈ document.pages,
      document.objects.get? (document.openingId page) = none ∧
      document.objects.get? (document.closingId page) = none ∧
      result.objects.get? (document.openingId page) = some (.ofContent
        (ascii ("q\n" ++ factorText ++ " 0 0 " ++ factorText ++ " 0 0 cm\nq\n"))) ∧
      result.objects.get? (document.closingId page) = some (.ofContent (ascii "\nQ\nQ\n")) ∧
      ∀ items, document.HasContents page.id items → ∃ entries,
        result.dictionary page.id = .ok entries ∧
        Dictionary.get? entries (ascii "Contents") = some (.array
          (.reference (document.openingId page) :: items ++
            [.reference (document.closingId page)]))) ∧
    ∀ id entries bytes, document.objects.get? id = some (.stream entries bytes) →
      result.objects.get? id = some (.stream entries bytes) := by
  obtain ⟨measured, found, passed⟩ := shrinks_of_fit fitted
  have begin : WrapsPages factor.convert target document [] document :=
    ⟨.start numbered, fun _ member => absurd member List.not_mem_nil,
      fun _ member => absurd member List.not_mem_nil, fun member => absurd member List.not_mem_nil⟩
  -- What each step does for its page holds for all pages in the end.
  have wraps := eachPage_holds (fun split holds taken =>
    holds.advance found distinct room split taken) begin passed
  intro factorText
  refine ⟨document.nodup_streamIds, ?_, fun id entries bytes held => wraps.rewrites.get?_stream held⟩
  intro page listed
  obtain ⟨size, member, sized⟩ := exists_measured found listed
  obtain ⟨openingNew, closingNew⟩ := get?_streamIds numbered listed
  have opening := wraps.opening _ member
  have closing := wraps.closing _ member
  rw [Wrapping.separated_scaling] at opening closing
  refine ⟨openingNew, closingNew, opening, closing, ?_⟩
  intro items had
  -- The page is still where it was, and what is there lists the new content.
  obtain ⟨stored, old, resolved⟩ := exists_resolve_of_pageSize sized
  obtain ⟨entries, there, _⟩ := wraps.resolve resolved
  obtain ⟨listing, present, listed⟩ := wraps.lists member (place?_of_resolve resolved) had
  rw [get?_of_resolve there] at present
  cases present
  exact ⟨entries, dictionary_of_resolve there, listed⟩

/-- Two pages with one stream as content, which the second page names in an array that is stored apart. -/
def sharedStream : Document :=
  ofKids (.array [.integer 0, .integer 0, .integer 500, .integer 600])
    [.dictionary [(ascii "Type", .name (ascii "Page")), (ascii "Parent", .reference ⟨2, 0⟩),
        (ascii "Contents", .reference ⟨5, 0⟩)],
      .dictionary [(ascii "Type", .name (ascii "Page")), (ascii "Parent", .reference ⟨2, 0⟩),
        (ascii "Contents", .reference ⟨6, 0⟩)],
      .ofContent (ascii "0 0 1 1 re f"), .array [.reference ⟨5, 0⟩]]

/-- The second page has an array stored elsewhere as contents. -/
theorem sharedStream_hasContents : sharedStream.HasContents ⟨4, 0⟩ [.reference ⟨5, 0⟩] := by
  -- The entry is a reference, and it leads to an array.
  refine ⟨_, rfl, ?_⟩
  exact .stored rfl

/-- Both pages with the shared stream get streams of their own around it. -/
theorem sharedStream_fit_wraps_contents :
    sharedStream.IsNumbered ∧ sharedStream.maxId + 2 * sharedStream.pages.length < UInt32.size ∧
      (sharedStream.pages.map fun page => sharedStream.place? page.id).Nodup ∧
      (sharedStream.fit {} ⟨250, 300⟩).1 = .ok (.scaledDown 0.5) ∧
      ∃ entries, (sharedStream.fit {} ⟨250, 300⟩).2.dictionary ⟨4, 0⟩ = .ok entries ∧
        Dictionary.get? entries (ascii "Contents") =
          some (.array [.reference ⟨9, 0⟩, .reference ⟨5, 0⟩, .reference ⟨10, 0⟩]) := by
  -- What the theorem asks for is evaluated on the document.
  have numbered : sharedStream.IsNumbered := isNumbered_ofKids _ _
  have room : sharedStream.maxId + 2 * sharedStream.pages.length < UInt32.size := by decide +kernel
  have distinct : (sharedStream.pages.map fun page => sharedStream.place? page.id).Nodup := by
    decide +kernel
  have shrunk : (sharedStream.fit {} ⟨250, 300⟩).1 = .ok (.scaledDown 0.5) := by decide +kernel
  have listed : (⟨2, ⟨4, 0⟩⟩ : Page) ∈ sharedStream.pages := by decide +kernel
  obtain ⟨_, wrapped, _⟩ := fit_wraps_contents numbered room distinct (Prod.ext shrunk rfl)
  obtain ⟨_, _, _, _, lists⟩ := wrapped _ listed
  exact ⟨numbered, room, distinct, shrunk, lists _ sharedStream_hasContents⟩

end PdfResize.Document
