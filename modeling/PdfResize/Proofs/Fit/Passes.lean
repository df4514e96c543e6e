import PdfResize.Fit.Apply

/-! A pass over the pages: what its steps establish page by page, and the result that it ends with. -/

namespace PdfResize.Document

variable {step : Document → MeasuredPage → Except FitError Unit × Document}
  {Holds : List MeasuredPage → Document → Prop} {pages : List MeasuredPage} {document final : Document}

/-- What every successful step carries on to one more page holds for all pages after a whole pass. -/
theorem eachPage_holds
    (advance : ∀ {done page rest current later}, pages = done ++ page :: rest →
      Holds done current → step current page = (.ok (), later) → Holds (done ++ [page]) later)
    (start : Holds [] document) (passed : document.eachPage step pages = (.ok (), final)) :
    Holds pages final := by
  -- The pages that are left shrink, those that are done grow, and together they stay all pages.
  suffices run : ∀ rest done current, pages = done ++ rest → Holds done current →
      eachPage step current rest = (.ok (), final) → Holds pages final from
    run pages [] document rfl start passed
  intro rest
  induction rest with
  | nil =>
    -- All pages are done.
    intro done current split holds passed
    rw [List.append_nil] at split
    cases passed
    exact split ▸ holds
  | cons page rest ih =>
    intro done current split holds passed
    unfold eachPage at passed
    split at passed
    · -- The step has succeeded and carries the property on, so the rest follows by induction.
      rename_i stepped taken
      refine ih (done ++ [page]) stepped ?_ (advance split holds taken) passed
      rw [split, List.append_assoc, List.singleton_append]
    · cases passed

/--
A pass ends with the first fault of a page, or without an error when no page has a fault.

It is enough that each step behaves like this as long as no page before it had a fault.
-/
theorem eachPage_result {fault? : MeasuredPage → Option FitError}
    (advance : ∀ {done page rest current}, pages = done ++ page :: rest →
      (∀ earlier ∈ done, fault? earlier = none) → Holds done current →
      match fault? page with
      | none => ∃ later, step current page = (.ok (), later) ∧ Holds (done ++ [page]) later
      | some error => (step current page).1 = .error error)
    (start : Holds [] document) : (document.eachPage step pages).1 =
      match pages.findSome? fault? with
      | none => .ok ()
      | some error => .error error := by
  -- As above, with the pages that are done all without a fault.
  suffices run : ∀ rest done current, pages = done ++ rest →
      (∀ earlier ∈ done, fault? earlier = none) → Holds done current →
      (eachPage step current rest).1 =
        match rest.findSome? fault? with
        | none => .ok ()
        | some error => .error error from
    run pages [] document rfl (fun _ member => absurd member List.not_mem_nil) start
  intro rest
  induction rest with
  | nil =>
    intro done current split clean holds
    rfl
  | cons page rest ih =>
    intro done current split clean holds
    have advanced := advance split clean holds
    unfold eachPage
    rw [List.findSome?_cons]
    cases fault : fault? page with
    | none =>
      rw [fault] at advanced
      obtain ⟨later, taken, holds⟩ := advanced
      rw [taken]
      -- The page joins those that are done without a fault.
      refine ih (done ++ [page]) later (by simp [split]) ?_ holds
      intro earlier member
      rcases List.mem_append.1 member with before | here
      · exact clean earlier before
      · rw [List.mem_singleton.1 here, fault]
    | some error =>
      rw [fault] at advanced
      -- The step has failed, and the pages that are left are not looked at.
      split
      · rename_i taken
        rw [taken] at advanced
        cases advanced
      · rename_i taken
        rw [taken] at advanced
        exact advanced

/-- A pass that fails has taken the steps of all pages before one, and the step of that one has failed. -/
theorem exists_stop_of_eachPage {error : FitError}
    (failed : document.eachPage step pages = (.error error, final)) :
    ∃ done page rest current, pages = done ++ page :: rest ∧
      document.eachPage step done = (.ok (), current) ∧ step current page = (.error error, final) := by
  induction pages generalizing document with
  | nil => cases failed
  | cons page rest ih =>
    unfold eachPage at failed
    cases taken : step document page with
    | mk answer stepped =>
      rw [taken] at failed
      cases answer with
      | error reason =>
        -- The pass ends with the first page, before which there is none.
        cases failed
        exact ⟨[], page, rest, document, rfl, rfl, taken⟩
      | ok _ =>
        obtain ⟨done, stop, behind, current, split, passed, stopped⟩ := ih failed
        refine ⟨page :: done, stop, behind, current, by rw [split, List.cons_append], ?_, stopped⟩
        unfold eachPage
        rw [taken]
        exact passed

end PdfResize.Document
