import Mathlib.Data.List.Forall2
import PdfResize.Proofs.Document.PageBox

/-! Measuring all pages of a document: the sizes in page order, or the error of the first page without one. -/

namespace PdfResize

section results

variable {Input Middle Output Error : Type}

/-- The error of a result that is none. -/
def failure? : Except Error Output → Option Error
  | .ok _ => none
  | .error error => some error

/-- The failure of a result is the error that it ends with. -/
theorem failure?_eq_some_iff {result : Except Error Output} {error : Error} :
    failure? result = some error ↔ result = .error error := by
  -- A result is either an output or an error.
  cases result with
  | ok output => simp [failure?]
  | error reason => simp [failure?]

/-- Two steps succeed exactly when the first one does and the second one does with its answer. -/
theorem bind_eq_ok_iff {first : Except Error Middle} {second : Middle → Except Error Output}
    {output : Output} :
    first >>= second = .ok output ↔ ∃ middle, first = .ok middle ∧ second middle = .ok output := by
  -- The second computation is reached just when the first succeeds.
  cases first with
  | ok middle => simp [bind, Except.bind]
  | error error => simp [bind, Except.bind]

/-- Two steps fail exactly when the first one does or the second one does with its answer. -/
theorem bind_eq_error_iff {first : Except Error Middle} {second : Middle → Except Error Output}
    {error : Error} : first >>= second = .error error ↔
      first = .error error ∨ ∃ middle, first = .ok middle ∧ second middle = .error error := by
  -- The second computation is reached just when the first succeeds.
  cases first with
  | ok middle => simp [bind, Except.bind]
  | error error => simp [bind, Except.bind]

/-- A result whose output passes a check is one, and its output passes. -/
theorem exists_ok_of_any {result : Except Error Output} {check : Output → Bool}
    (passed : result.toOption.any check = true) :
    ∃ output, result = .ok output ∧ check output = true := by
  -- Only an output can have passed the check.
  cases result with
  | ok output => exact ⟨output, rfl, passed⟩
  | error error => cases passed

/-- Steps all succeed with these outputs exactly when each step succeeds with its own. -/
theorem mapM_eq_ok_iff {step : Input → Except Error Output} {inputs : List Input}
    {outputs : List Output} : inputs.mapM step = .ok outputs ↔
      List.Forall₂ (fun input output => step input = .ok output) inputs outputs := by
  -- The outputs are built along with the inputs.
  induction inputs generalizing outputs with
  | nil =>
    rw [List.mapM_nil, List.forall₂_nil_left_iff]
    constructor
    · intro done
      cases done
      rfl
    · rintro rfl
      rfl
  | cons input rest ih =>
    rw [List.mapM_cons, List.forall₂_cons_left_iff, bind_eq_ok_iff]
    -- The first step has succeeded, and so have the others.
    constructor
    · rintro ⟨output, first, done⟩
      obtain ⟨later, others, same⟩ := bind_eq_ok_iff.1 done
      cases same
      exact ⟨output, later, first, ih.1 others, rfl⟩
    · rintro ⟨output, later, first, others, rfl⟩
      exact ⟨output, first, bind_eq_ok_iff.2 ⟨later, ih.2 others, rfl⟩⟩

/-- Steps taken in order fail with the error of the first one that fails. -/
theorem failure?_mapM (step : Input → Except Error Output) (inputs : List Input) :
    failure? (inputs.mapM step) = inputs.findSome? fun input => failure? (step input) := by
  induction inputs with
  | nil => rfl
  | cons input rest ih =>
    rw [List.mapM_cons, List.findSome?_cons, ← ih]
    cases step input with
    | error error =>
      -- The other steps are not taken.
      rfl
    | ok output =>
      cases rest.mapM step with
      | error error => rfl
      | ok later => rfl

end results

namespace Document

/-- Why a page has no size. -/
def sizeFault? (document : Document) (page : Page) : Option FitError :=
  failure? (document.pageSize page.number page.id)

/-- The sizes of the pages that have one. -/
def sizes (document : Document) : List PageSize :=
  document.pages.filterMap fun page => (document.pageSize page.number page.id).toOption

variable {document : Document} {measured : List MeasuredPage}

/-- Measuring one page gives the page with its size. -/
theorem measure_eq_ok_iff {page : Page} {one : MeasuredPage} :
    (do return ⟨page, ← document.pageSize page.number page.id⟩ : Except FitError MeasuredPage) =
        .ok one ↔
      one.toPage = page ∧ document.pageSize one.number one.id = .ok one.size := by
  -- The page is kept, and only its size can be missing.
  rw [bind_eq_ok_iff]
  constructor
  · rintro ⟨size, sized, same⟩
    cases same
    exact ⟨rfl, sized⟩
  · rintro ⟨rfl, sized⟩
    exact ⟨one.size, sized, rfl⟩

/-- The measured pages are the pages in their order, each with the size that it has. -/
theorem measuredPages_eq_ok_iff : document.measuredPages = .ok measured ↔
    measured.map (·.toPage) = document.pages ∧
      ∀ page ∈ measured, document.pageSize page.number page.id = .ok page.size := by
  unfold measuredPages
  rw [mapM_eq_ok_iff]
  generalize document.pages = pages
  constructor
  · -- Each page is measured on its own, so the pages can be taken one after another.
    intro all
    induction all with
    | nil => simp
    | cons first _ ih =>
      obtain ⟨same, size⟩ := measure_eq_ok_iff.1 first
      obtain ⟨others, sizes⟩ := ih
      refine ⟨by simp [same, others], ?_⟩
      intro page member
      rcases List.mem_cons.1 member with rfl | later
      · exact size
      · exact sizes page later
  · rintro ⟨rfl, sizes⟩
    -- Page and measured page are the same but for the size.
    rw [List.forall₂_map_left_iff, List.forall₂_same]
    intro page member
    exact measure_eq_ok_iff.2 ⟨rfl, sizes page member⟩

/-- The pages are not measured because of the first one that has no size. -/
theorem measuredPages_eq_error_iff {error : FitError} : document.measuredPages = .error error ↔
    document.pages.findSome? document.sizeFault? = some error := by
  rw [← failure?_eq_some_iff, measuredPages, failure?_mapM]
  -- Putting a size beside its page does not fail.
  have same : (fun page : Page => failure? (do
      return (⟨page, ← document.pageSize page.number page.id⟩ : MeasuredPage))) =
      document.sizeFault? := by
    funext page
    unfold sizeFault?
    cases document.pageSize page.number page.id with
    | error reason => rfl
    | ok size => rfl
  rw [same]

/-- When every page is measured, the sizes are those of the measured pages. -/
theorem sizes_eq (found : document.measuredPages = .ok measured) :
    document.sizes = measured.map (·.size) := by
  obtain ⟨same, each⟩ := measuredPages_eq_ok_iff.1 found
  unfold sizes
  rw [← same, List.filterMap_map]
  -- Every measured page has its size.
  have always : ∀ page ∈ measured, ((fun page : Page =>
      (document.pageSize page.number page.id).toOption) ∘ MeasuredPage.toPage) page =
        some page.size := by
    intro page member
    show (document.pageSize page.number page.id).toOption = some page.size
    rw [each page member]
    rfl
  rw [List.filterMap_congr always]
  exact congrFun List.filterMap_eq_map measured

/-- Only usable sizes are measured. -/
theorem usable_of_measuredPages (found : document.measuredPages = .ok measured) :
    ∀ size ∈ measured.map (·.size), size.isUsable := by
  -- Each size has been read from a page, and a size that is read is usable.
  intro size member
  obtain ⟨page, inside, rfl⟩ := List.mem_map.1 member
  exact (usable_of_pageSize ((measuredPages_eq_ok_iff.1 found).2 page inside)).1

/-- Pages are numbered from one. -/
theorem one_le_number {page : Page} (listed : page ∈ document.pages) : 1 ≤ page.number := by
  -- Places are counted from zero and pages from one.
  obtain ⟨index, _, rfl⟩ := List.mem_mapIdx.1 listed
  exact Nat.succ_le_succ (Nat.zero_le index)

/-- The pages are numbered upwards. -/
theorem pages_ordered (document : Document) :
    document.pages.Pairwise fun left right => left.number < right.number := by
  -- The number of a page is its place in the list and one more.
  rw [List.pairwise_iff_getElem]
  intro first second firstInside secondInside before
  simp only [pages, List.getElem_mapIdx]
  omega

/-- A page is numbered by the pages before it. -/
theorem number_eq (found : document.measuredPages = .ok measured) {done rest : List MeasuredPage}
    {page : MeasuredPage} (split : measured = done ++ page :: rest) :
    page.number = done.length + 1 := by
  obtain ⟨same, _⟩ := measuredPages_eq_ok_iff.1 found
  -- The page stands behind the others in the list of all pages too.
  have there : document.pages[done.length]? = some page.toPage := by
    rw [← same, split]
    simp
  unfold pages at there
  rw [List.getElem?_mapIdx] at there
  obtain ⟨id, _, named⟩ := Option.map_eq_some_iff.1 there
  exact (congrArg Page.number named).symm

/-- Every page is measured. -/
theorem exists_measured (found : document.measuredPages = .ok measured) {page : Page}
    (listed : page ∈ document.pages) : ∃ size, ⟨page, size⟩ ∈ measured ∧
      document.pageSize page.number page.id = .ok size := by
  -- The measured pages are the listed ones, each with its size.
  obtain ⟨same, each⟩ := measuredPages_eq_ok_iff.1 found
  rw [← same] at listed
  obtain ⟨one, member, rfl⟩ := List.mem_map.1 listed
  exact ⟨one.size, member, each one member⟩

/-- Pages that all have a size are measured. -/
theorem exists_measuredPages
    (sized : ∀ page ∈ document.pages, ∃ size, document.pageSize page.number page.id = .ok size) :
    ∃ measured, document.measuredPages = .ok measured := by
  -- If measuring failed, it would be at a page whose size cannot be read.
  cases found : document.measuredPages with
  | ok measured => exact ⟨measured, rfl⟩
  | error error =>
    obtain ⟨page, listed, fault⟩ := List.exists_of_findSome?_eq_some (measuredPages_eq_error_iff.1 found)
    obtain ⟨size, measures⟩ := sized page listed
    rw [sizeFault?, measures] at fault
    cases fault

/-- A size is among those of a document just when a listed page has it. -/
theorem mem_sizes_iff {size : PageSize} : size ∈ document.sizes ↔
    ∃ page ∈ document.pages, document.pageSize page.number page.id = .ok size := by
  -- A page that cannot be measured contributes no size.
  unfold sizes
  rw [List.mem_filterMap]
  constructor
  · rintro ⟨page, listed, there⟩
    cases sized : document.pageSize page.number page.id with
    | error error =>
      rw [sized] at there
      cases there
    | ok found =>
      rw [sized] at there
      cases there
      exact ⟨page, listed, sized⟩
  · rintro ⟨page, listed, sized⟩
    exact ⟨page, listed, by rw [sized]; rfl⟩

end Document

end PdfResize
