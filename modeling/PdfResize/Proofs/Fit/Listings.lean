import PdfResize.Proofs.Fit.Runs

/-! Shrinking scales a page once for each time that the page tree lists it, which may be more than once. -/

namespace PdfResize

namespace Document

/-- The number of times that the pages of a document list the page that is stored in a place. -/
def timesListed (document : Document) (stored : ObjectId) : Nat :=
  document.pages.countP fun page => document.place? page.id = some stored

/-- There is one wrap for each of these pages, in their order, at the place of the page and by the factor. -/
def WrapsEach (document : Document) (factor : Single) (pages : List MeasuredPage) (log : List Wrap) :
    Prop :=
  log.map (fun wrap => (some wrap.place, wrap.factor)) =
    pages.map fun page => (document.place? page.id, factor)

variable {document start current later result : Document} {id stored : ObjectId} {target : PageSize}
  {factor : Single} {entries : Dictionary} {items : List Object} {log : List Wrap}
  {measured done rest : List MeasuredPage} {page : MeasuredPage}

/-- A page in a place has as many wraps as the pages list it. -/
theorem WrapsEach.ofPlace_eq (each : start.WrapsEach factor measured log)
    (found : start.measuredPages = .ok measured) (stored : ObjectId) :
    (Wrap.ofPlace log stored).map (·.factor) = List.replicate (start.timesListed stored) factor := by
  -- All wraps have the one factor, so only their number at the place is left to be counted.
  have factors : ∀ one ∈ (Wrap.ofPlace log stored).map (·.factor), one = factor := by
    intro one member
    obtain ⟨wrap, inside, rfl⟩ := List.mem_map.1 member
    have listed := List.mem_map_of_mem (f := fun wrap : Wrap => (some wrap.place, wrap.factor))
      (List.mem_filter.1 inside).1
    rw [each] at listed
    obtain ⟨page, _, same⟩ := List.mem_map.1 listed
    exact (congrArg Prod.snd same).symm
  have counted : (Wrap.ofPlace log stored).length = start.timesListed stored := by
    have places := congrArg (List.countP fun pair => pair.1 = some stored) each
    simp only [List.countP_map] at places
    unfold timesListed Wrap.ofPlace
    rw [← List.countP_eq_length_filter, ← (measuredPages_eq_ok_iff.1 found).1, List.countP_map]
    simpa [Function.comp_def] using places
  rw [← counted, ← List.length_map (·.factor)]
  exact List.eq_replicate_length.2 factors

/-- Shrinking the next page wraps its content once more. -/
theorem Nests.shrinkPage (nests : Nests start log current) (room : current.maxId + 2 < UInt32.size)
    (found : current.resolve page.id = .ok (stored, .dictionary entries))
    (passed : shrinkPage target factor current page = (.ok (), later)) :
    ∃ opening closing, Nests start (log ++ [⟨stored, opening, closing, factor⟩]) later := by
  obtain ⟨items, readable, _⟩ := exists_contents_of_shrinkPage nests.numbered room found passed
  rw [shrinkPage_eq nests.numbered room found readable] at passed
  cases passed
  -- Setting the boxes wraps nothing, and the content is that of the page with its new boxes.
  have boxes := fitsPage_boxed nests.numbered found (target.orientedLike page.size)
  have there := resolve_boxed found (target.orientedLike page.size)
  have quiet := nests.quiet (rewrites_setBoxes found (target.orientedLike page.size)) boxes.numbered rfl
  obtain ⟨holder, holds, lists⟩ := contents_eq_ok_iff.1 readable
  rw [dictionary_of_resolve there] at holds
  cases holds
  exact ⟨_, _, quiet.wrap there lists (wraps_wrapped boxes.numbered room (get?_of_resolve there) _)⟩

/-- Shrinking all pages wraps the content of each once for each time that it comes to the page. -/
theorem exists_wrapsEach_of_eachPage (found : start.measuredPages = .ok measured)
    (numbered : start.IsNumbered) (room : start.maxId + 2 * start.pages.length < UInt32.size)
    (passed : start.eachPage (shrinkPage target factor) measured = (.ok (), result)) :
    ∃ log, Nests start log result ∧ start.WrapsEach factor measured log := by
  have all : FitsPages 2 target start measured result ∧
      ∃ log, Nests start log result ∧ start.WrapsEach factor measured log := by
    refine @eachPage_holds _ (fun done current => FitsPages 2 target start done current ∧
      ∃ log, Nests start log current ∧ start.WrapsEach factor done log) _ _ _ ?_ ?_ passed
    · rintro done page rest current later split ⟨fits, log, nests, each⟩ taken
      obtain ⟨stored, old, entries, resolved, there, _⟩ := fits.next found split
      obtain ⟨opening, closing, wrapped⟩ := nests.shrinkPage (fits.room found split room) there taken
      refine ⟨fits.shrink found split room taken, _, wrapped, ?_⟩
      -- The place of the new wrap is where the page was at the start.
      simp only [WrapsEach, List.map_append, List.map_cons, List.map_nil, place?_of_resolve resolved]
      exact congrArg (· ++ [(some stored, factor)]) each
    · exact ⟨.start numbered, [], .refl numbered, rfl⟩
  exact all.2

/--
A fit that shrinks wraps the content of a page once for each time that the page tree lists the page.

Each wrap has two new streams of its own and scales by the factor of the fit. So what a page draws is scaled
by the factor that is answered exactly when the page is listed once, and by a power of it otherwise.
-/
theorem fit_wraps_per_listing {options : FitOptions} {factor : Double} (numbered : document.IsNumbered)
    (room : document.maxId + 2 * document.pages.length < UInt32.size)
    (fitted : document.fit options target = (.ok (.scaledDown factor), result)) :
    ∃ log : List Wrap, (Wrap.streamIds log).Nodup ∧
    (∀ wrap ∈ log,
      document.objects.get? wrap.opening = none ∧ document.objects.get? wrap.closing = none ∧
      result.objects.get? wrap.opening = some (.ofContent (ascii
        ("q\n" ++ wrap.factor.text ++ " 0 0 " ++ wrap.factor.text ++ " 0 0 cm\nq\n"))) ∧
      result.objects.get? wrap.closing = some (.ofContent (ascii "\nQ\nQ\n"))) ∧
    ∀ stored, ∀ page : Dictionary, document.objects.get? stored = some (.dictionary page) →
      (Wrap.ofPlace log stored).map (·.factor) =
        List.replicate (document.timesListed stored) factor.convert ∧
      ∃ later : Dictionary, result.objects.get? stored = some (.dictionary later) ∧
        ∀ items, document.EntryLists (page.get? (ascii "Contents")) items →
          result.EntryLists (later.get? (ascii "Contents"))
            (Wrap.nest (Wrap.ofPlace log stored) items) ∧
          ((∃ opening closing, result.EntryLists (later.get? (ascii "Contents"))
            (.reference opening :: items ++ [.reference closing])) ↔
              document.timesListed stored = 1) := by
  -- The log of the pass has one wrap for each listing, and those of one place are nested around its
  -- contents.
  obtain ⟨measured, found, passed⟩ := shrinks_of_fit fitted
  obtain ⟨log, nests, each⟩ := exists_wrapsEach_of_eachPage found numbered room passed
  refine ⟨log, nests.distinct, fun wrap member => nests.streams_of_mem numbered member, ?_⟩
  intro stored page present
  have factors := each.ofPlace_eq found stored
  have times := congrArg List.length factors
  rw [List.length_map, List.length_replicate] at times
  obtain ⟨later, there, entry⟩ := nests.pages present
  refine ⟨factors, later, there, fun items lists => ⟨entry.lists items lists, ?_⟩⟩
  rw [← times]
  constructor
  · -- An entry lists one thing, so the items between two streams are the nest.
    rintro ⟨opening, closing, between⟩
    have same := congrArg List.length (between.unique (entry.lists items lists))
    rw [Wrap.length_nest] at same
    simp only [List.length_append, List.length_cons, List.length_nil] at same
    omega
  · intro once
    obtain ⟨wrap, only⟩ := List.length_eq_one_iff.1 once
    have nested := entry.lists items lists
    rw [only] at nested
    exact ⟨wrap.opening, wrap.closing, nested⟩

/-- A page with a stream as content, which a second node of the page tree lists once more. -/
def repeatedPage : Document :=
  ofKids (.array [.integer 0, .integer 0, .integer 500, .integer 600])
    [.dictionary [(ascii "Type", .name (ascii "Page")), (ascii "Parent", .reference ⟨2, 0⟩),
        (ascii "Contents", .reference ⟨5, 0⟩)],
      .dictionary [(ascii "Type", .name (ascii "Pages")), (ascii "Kids", .array [.reference ⟨3, 0⟩])],
      .ofContent (ascii "0 0 1 1 re f")]

/-- Fitting the page that is listed twice halves it. -/
theorem repeatedPage_shrinks : (repeatedPage.fit {} ⟨250, 300⟩).1 = .ok (.scaledDown 0.5) := by
  -- The run is evaluated.
  decide +kernel

/-- The page that is listed twice is wrapped twice, with the same factor. -/
theorem repeatedPage_fit_wraps_per_listing :
    repeatedPage.IsNumbered ∧ repeatedPage.maxId + 2 * repeatedPage.pages.length < UInt32.size ∧
      (repeatedPage.fit {} ⟨250, 300⟩).1 = .ok (.scaledDown 0.5) ∧
      repeatedPage.timesListed ⟨3, 0⟩ = 2 ∧
      ∃ (log : List Wrap) (later : Dictionary),
        (Wrap.ofPlace log ⟨3, 0⟩).map (·.factor) = List.replicate 2 (0.5 : Double).convert ∧
        (repeatedPage.fit {} ⟨250, 300⟩).2.objects.get? ⟨3, 0⟩ = some (.dictionary later) ∧
        (repeatedPage.fit {} ⟨250, 300⟩).2.EntryLists (later.get? (ascii "Contents"))
          (Wrap.nest (Wrap.ofPlace log ⟨3, 0⟩) [.reference ⟨5, 0⟩]) := by
  -- What the theorem asks for is evaluated, and the place of the page is counted twice.
  have numbered : repeatedPage.IsNumbered := isNumbered_ofKids _ _
  have room : repeatedPage.maxId + 2 * repeatedPage.pages.length < UInt32.size := by decide +kernel
  have twice : repeatedPage.timesListed ⟨3, 0⟩ = 2 := by decide +kernel
  obtain ⟨log, _, _, pages⟩ := fit_wraps_per_listing numbered room (Prod.ext repeatedPage_shrinks rfl)
  obtain ⟨factors, later, there, lists⟩ := pages ⟨3, 0⟩ _ rfl
  rw [twice] at factors
  exact ⟨numbered, room, repeatedPage_shrinks, twice, log, later, factors, there,
    (lists _ (.single rfl)).1⟩

/-- One fit puts a page that is listed twice between two pairs of streams. -/
theorem repeatedPage_wrapped_twice :
    (repeatedPage.fit {} ⟨250, 300⟩).1 = .ok (.scaledDown 0.5) ∧
      (repeatedPage.contents ⟨3, 0⟩).map Object.itemReferences = .ok [⟨5, 0⟩] ∧
      ((repeatedPage.fit {} ⟨250, 300⟩).2.contents ⟨3, 0⟩).map Object.itemReferences =
        .ok [⟨8, 0⟩, ⟨6, 0⟩, ⟨5, 0⟩, ⟨7, 0⟩, ⟨9, 0⟩] := by
  -- The contents are read before and after.
  decide +kernel

end Document

end PdfResize
