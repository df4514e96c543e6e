import PdfResize.Fit.Apply
import PdfResize.Proofs.Document.Measuring
import PdfResize.Proofs.Fit.Decision

/-! The branches of a fit, each under what the target and the measured pages have to be for it. -/

namespace PdfResize

variable {options : FitOptions} {target : PageSize}

namespace Scaling

variable {sizes : List PageSize}

/-- A factor that is not zero leaves something, and no factor enlarges. -/
theorem validateFactor_factorFor {worst : Single} (fraction : worst.IsFraction)
    (nonzero : (factorFor worst).isZero = false) :
    Document.validateFactor (factorFor worst) = .ok () := by
  obtain ⟨value, exact, nonneg, atMost⟩ := isFraction_factorFor fraction
  -- A fraction that is not zero is above zero, and none is above one.
  have above := (Binary.lt_iff Binary.toRat?_zero exact).2 (Binary.pos_of_isZero exact nonzero nonneg)
  have below := (Binary.le_iff exact Double.toRat?_one).2 atMost
  unfold Document.validateFactor
  rw [if_pos ⟨above, below⟩]

/-- Usable pages grow when one of them is too small in some extent, and shrink unless nothing would be left. -/
theorem required_eq (targetUsable : target.isUsable) (pagesUsable : ∀ size ∈ sizes, size.isUsable) :
    required target sizes =
      if sizes.any target.exceeds then .ok .grow
      else if (factorFor (worstExcess target sizes)).isZero then .error (.target (.tooSmall target))
      else .ok (.shrink (factorFor (worstExcess target sizes))) := by
  -- A page falls short exactly when it is smaller in some extent.
  have short : sizes.any (fallsShort target) = sizes.any target.exceeds := by
    rw [Bool.eq_iff_iff, List.any_eq_true, List.any_eq_true]
    constructor
    · rintro ⟨size, member, falls⟩
      exact ⟨size, member, fallsShort_eq_exceeds targetUsable (pagesUsable size member) ▸ falls⟩
    · rintro ⟨size, member, exceeds⟩
      exact ⟨size, member, (fallsShort_eq_exceeds targetUsable (pagesUsable size member)).trans exceeds⟩
  -- A factor is a fraction, which is at most zero only when it is zero.
  obtain ⟨value, exact, nonneg, _⟩ :=
    isFraction_factorFor (isFraction_worstExcess targetUsable pagesUsable)
  have nothing : factorFor (worstExcess target sizes) ≤ 0 ↔
      (factorFor (worstExcess target sizes)).isZero = true := by
    rw [Binary.le_iff exact Binary.toRat?_zero]
    simp only [Binary.isZero, exact, beq_iff_eq, Option.some.injEq]
    constructor
    · intro atMost
      linarith
    · intro same
      exact le_of_eq same
  simp only [required, short, nothing]

end Scaling

namespace Document

variable {document : Document} {measured : List MeasuredPage}

/-- A target that is not usable is refused, whatever the document is like. -/
theorem isWithin_of_not_isUsable (unusable : target.isUsable = false) :
    document.isWithin options target = .error (.target (.unusable target)) := by
  -- The target is looked at before any page is.
  simp [isWithin, PageSize.validate, unusable, bind, Except.bind]

/-- A target that is not usable is refused before a scaling is looked for. -/
theorem requiredScaling_of_not_isUsable (unusable : target.isUsable = false) :
    document.requiredScaling target = .error (.target (.unusable target)) := by
  -- The target is looked at before any page is.
  simp [requiredScaling, PageSize.validate, unusable, bind, Except.bind]

/-- A document with a page that cannot be measured is not tested against the tolerance. -/
theorem isWithin_of_measuredPages_error {error : FitError} (usable : target.isUsable)
    (failed : document.measuredPages = .error error) :
    document.isWithin options target = .error error := by
  -- The target is accepted, and measuring comes next.
  simp [isWithin, PageSize.validate, usable, failed, bind, Except.bind]

/-- A document with a page that cannot be measured has no required scaling. -/
theorem requiredScaling_of_measuredPages_error {error : FitError} (usable : target.isUsable)
    (failed : document.measuredPages = .error error) :
    document.requiredScaling target = .error error := by
  -- The target is accepted, and measuring comes next.
  simp [requiredScaling, PageSize.validate, usable, failed, bind, Except.bind]

/-- A document that cannot be checked cannot be fitted, for the same reason, and is left alone. -/
theorem fit_of_isWithin_error {error : FitError}
    (failed : document.isWithin options target = .error error) :
    document.fit options target = (.error error, document) := by
  -- A fit begins with the test.
  simp only [fit, failed, bind, Except.bind]

/-- A document that is within the tolerance is left alone. -/
theorem fit_of_isWithin (within : document.isWithin options target = .ok true) :
    document.fit options target = (.ok .unchanged, document) := by
  -- A fit begins with the test, and has nothing to do when it is passed.
  simp only [fit, within, bind, Except.bind, pure, Except.pure, if_true]

/-- A document with a page that cannot be measured is not fitted. -/
theorem fit_of_measuredPages_error (usable : target.isUsable) {error : FitError}
    (failed : document.measuredPages = .error error) :
    document.fit options target = (.error error, document) :=
  -- The test, with which a fit begins, measures every page.
  fit_of_isWithin_error (isWithin_of_measuredPages_error usable failed)

/-- A document is not fitted to a target that is no usable size. -/
theorem fit_of_not_isUsable (unusable : target.isUsable = false) :
    document.fit options target = (.error (.target (.unusable target)), document) :=
  -- The test, with which a fit begins, looks at the target.
  fit_of_isWithin_error (isWithin_of_not_isUsable unusable)

/-- A document that can be measured is within the tolerance when each size fits. -/
theorem isWithin_of_measuredPages (usable : target.isUsable)
    (found : document.measuredPages = .ok measured) :
    document.isWithin options target = .ok (document.sizes.all (options.pageFits target)) := by
  -- Both checks are passed, and what is left is the test of all sizes.
  rw [sizes_eq found, List.all_map]
  simp [isWithin, PageSize.validate, usable, found, bind, Except.bind, pure, Except.pure,
    Function.comp_def]

/-- The scaling to a usable target grows or shrinks the pages, or there is nothing to shrink them to. -/
theorem requiredScaling_of_measuredPages (usable : target.isUsable)
    (found : document.measuredPages = .ok measured) :
    document.requiredScaling target =
      if document.sizes.any target.exceeds then .ok .grow
      else
        let factor := Scaling.factorFor (Scaling.worstExcess target document.sizes)
        if factor.isZero then .error (.target (.tooSmall target)) else .ok (.shrink factor) := by
  -- What is measured is usable, so the scaling is the one of usable sizes.
  rw [sizes_eq found, ← Scaling.required_eq usable (usable_of_measuredPages found)]
  simp [requiredScaling, PageSize.validate, usable, found, bind, Except.bind]

/-- A fit to a usable target is decided by the sizes of the pages and then passes over them. -/
theorem fit_of_measuredPages (usable : target.isUsable)
    (found : document.measuredPages = .ok measured) :
    document.fit options target =
      if document.sizes.all (options.pageFits target) then (.ok .unchanged, document)
      else if document.sizes.any target.exceeds then
        ((document.eachPage (growPage target) measured).1.map fun _ => .scaledUp,
          (document.eachPage (growPage target) measured).2)
      else
        let factor := Scaling.factorFor (Scaling.worstExcess target document.sizes)
        if factor.isZero then (.error (.target (.tooSmall target)), document)
        else ((document.eachPage (shrinkPage target factor.convert) measured).1.map
            fun _ => .scaledDown factor,
          (document.eachPage (shrinkPage target factor.convert) measured).2) := by
  -- What is measured is usable, so the factor is a fraction.
  have fraction := Scaling.isFraction_worstExcess usable (usable_of_measuredPages found)
  rw [← sizes_eq found] at fraction
  unfold fit
  rw [isWithin_of_measuredPages usable found, requiredScaling_of_measuredPages usable found]
  -- The cases of the decision are those of the statement, one after another.
  cases document.sizes.all (options.pageFits target) with
  | true => rfl
  | false =>
    cases document.sizes.any target.exceeds with
    | true => simp [scaleUp, PageSize.validate, usable, found, bind, Except.bind, pure, Except.pure]
    | false =>
      cases zero : (Scaling.factorFor (Scaling.worstExcess target document.sizes)).isZero with
      | true => simp [zero, bind, Except.bind]
      | false =>
        -- The factor has been checked once, and the second check does not refuse it.
        have allowed := Scaling.validateFactor_factorFor fraction zero
        simp [zero, scaleDown, PageSize.validate, usable, allowed, found, bind, Except.bind, pure,
          Except.pure]

/-- A fit that succeeds has left the document alone, or it has passed over all pages with one of two steps. -/
theorem fit_eq_ok_cases {outcome : Outcome} {result : Document}
    (fitted : document.fit options target = (.ok outcome, result)) :
    target.isUsable ∧ ∃ measured, document.measuredPages = .ok measured ∧
      (outcome = .unchanged ∧ result = document ∨
        outcome = .scaledUp ∧ document.eachPage (growPage target) measured = (.ok (), result) ∨
        ∃ factor, outcome = .scaledDown factor ∧
          document.eachPage (shrinkPage target factor.convert) measured = (.ok (), result)) := by
  -- A pass whose result carries an outcome has succeeded.
  have passed : ∀ {pass : Except FitError Unit × Document} {reached : Outcome},
      (pass.1.map (fun _ => reached), pass.2) = (.ok outcome, result) →
        outcome = reached ∧ pass = (.ok (), result) := by
    intro pass reached same
    obtain ⟨ended, left⟩ := pass
    cases ended with
    | error error => cases same
    | ok _ =>
      cases same
      exact ⟨rfl, rfl⟩
  cases usable : target.isUsable with
  | false =>
    -- This and the next branch end in an error.
    rw [fit_of_not_isUsable usable] at fitted
    cases fitted
  | true =>
    refine ⟨rfl, ?_⟩
    cases found : document.measuredPages with
    | error error =>
      rw [fit_of_measuredPages_error usable found] at fitted
      cases fitted
    | ok measured =>
      refine ⟨measured, rfl, ?_⟩
      rw [fit_of_measuredPages usable found] at fitted
      simp only at fitted
      split at fitted
      · cases fitted
        exact .inl ⟨rfl, rfl⟩
      · split at fitted
        · exact .inr (.inl (passed fitted))
        · split at fitted
          · cases fitted
          · exact .inr (.inr ⟨_, passed fitted⟩)

/-- A fit that shrinks has passed over all pages with the step that shrinks one. -/
theorem shrinks_of_fit {factor : Double} {result : Document}
    (fitted : document.fit options target = (.ok (.scaledDown factor), result)) :
    ∃ measured, document.measuredPages = .ok measured ∧
      document.eachPage (shrinkPage target factor.convert) measured = (.ok (), result) := by
  obtain ⟨_, measured, found, branch⟩ := fit_eq_ok_cases fitted
  refine ⟨measured, found, ?_⟩
  -- The other two outcomes are named differently.
  rcases branch with ⟨same, _⟩ | ⟨same, _⟩ | ⟨other, same, passed⟩
  · cases same
  · cases same
  · cases same
    exact passed

/-- A fit that shrinks had no page that the target exceeds, and has taken its factor from the worst page. -/
theorem factor_of_fit {factor : Double} {result : Document}
    (fitted : document.fit options target = (.ok (.scaledDown factor), result)) :
    document.sizes.any target.exceeds = false ∧
      factor = Scaling.factorFor (Scaling.worstExcess target document.sizes) := by
  -- The outcome of a pass that succeeds is the one that goes with its branch.
  have reached : ∀ {ended : Except FitError Unit} {branch outcome : Outcome},
      (ended.map fun _ => branch) = .ok outcome → branch = outcome := by
    intro ended branch outcome same
    cases ended with
    | error error => cases same
    | ok _ =>
      cases same
      rfl
  obtain ⟨usable, measured, found, _⟩ := fit_eq_ok_cases fitted
  rw [fit_of_measuredPages usable found] at fitted
  simp only at fitted
  split at fitted
  · cases fitted
  · split at fitted
    · cases reached (Prod.mk.inj fitted).1
    · rename_i inside
      split at fitted
      · cases fitted
      · have same := Outcome.scaledDown.inj (reached (Prod.mk.inj fitted).1)
        exact ⟨Bool.not_eq_true _ ▸ inside, same.symm⟩

end Document

end PdfResize
