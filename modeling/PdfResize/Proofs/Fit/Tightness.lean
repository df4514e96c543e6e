import PdfResize.Proofs.Fit.Factor
import PdfResize.Proofs.Fit.Faults
import PdfResize.Proofs.Fit.Sides

/-! The factor that a document needs: it shrinks, it takes every page inside the target, and none further than needed. -/

namespace PdfResize

namespace Scaling

/-- The extent and the limit of an axis stand for these values. -/
def Axis.Reads (axis : Axis) (extent limit : Rat) : Prop :=
  axis.extent.toRat? = some extent ∧ axis.limit.toRat? = some limit

/-- On no axis of any page a scale leaves more than the limit, up to a ten-thousandth of the extent. -/
def TakesInside (target : PageSize) (pages : List PageSize) (scale : Rat) : Prop :=
  ∀ page ∈ pages, ∀ axis ∈ axes target page, ∃ extent limit, axis.Reads extent limit ∧
    scale * extent ≤ limit + extent / 10000

/-- On some axis of some page a scale leaves what the limit is, up to a ten-thousandth of the extent. -/
def TakesToLimit (target : PageSize) (pages : List PageSize) (scale : Rat) : Prop :=
  ∃ page ∈ pages, ∃ axis ∈ axes target page, ∃ extent limit, axis.Reads extent limit ∧
    |scale * extent - limit| ≤ extent / 10000

/-- On some axis of some page the limit is at most a ten-thousandth of the extent. -/
def LeavesNothing (target : PageSize) (pages : List PageSize) : Prop :=
  ∃ page ∈ pages, ∃ axis ∈ axes target page, ∃ extent limit, axis.Reads extent limit ∧
    limit ≤ extent / 10000

variable {target : PageSize} {pages : List PageSize} {scale : Rat}

section factor

variable (targetUsable : target.isUsable) (pagesUsable : ∀ page ∈ pages, page.isUsable)
  (large : pages.any target.exceeds = false)
  (exact : (factorFor (worstExcess target pages)).toRat? = some scale)

include targetUsable pagesUsable large exact

/-- The factor takes every axis to its limit, but for the last place. -/
theorem takesInside_factorFor : TakesInside target pages scale := by
  intro page listed axis member
  obtain ⟨extent, limit, extentExact, limitExact, positive, _⟩ :=
    exists_values_of_mem_axes targetUsable (pagesUsable page listed) member
  refine ⟨extent, limit, ⟨extentExact, limitExact⟩, ?_⟩
  -- The rounding of the factor and the errors of the arithmetic are less than the last decimal place.
  have reached :=
    factorFor_mul_le targetUsable pagesUsable large exact listed member extentExact limitExact
  linarith

/-- The factor takes some axis close to its limit. -/
theorem takesToLimit_factorFor (nonempty : pages ≠ []) : TakesToLimit target pages scale := by
  -- The axis with the worst excess is the one that is close.
  obtain ⟨page, listed, axis, member, extent, limit, extentExact, limitExact, positive, close⟩ :=
    exists_factorFor_mul_close targetUsable pagesUsable large nonempty exact
  exact ⟨page, listed, axis, member, extent, limit, ⟨extentExact, limitExact⟩, by linarith⟩

end factor

/-- Without pages there is nothing to shrink, and the factor is not zero. -/
theorem isZero_factorFor_nil : (factorFor (worstExcess target [])).isZero = false := by
  -- The search for the worst fraction ends with the zero that it begins with, which leaves all of one.
  obtain ⟨factor, stands, _, _, close⟩ := exists_factorFor Binary.toRat?_zero le_rfl zero_le_one
  have near := (abs_le.1 close).1
  show (factorFor 0).isZero = false
  rw [Binary.isZero, stands, beq_eq_false_iff_ne, Ne, Option.some.injEq]
  rintro rfl
  norm_num at near

/-- A factor is zero only where a limit is next to nothing. -/
theorem leavesNothing_of_isZero (targetUsable : target.isUsable)
    (pagesUsable : ∀ page ∈ pages, page.isUsable) (large : pages.any target.exceeds = false)
    (zero : (factorFor (worstExcess target pages)).isZero) : LeavesNothing target pages := by
  have nonempty : pages ≠ [] := by
    rintro rfl
    rw [isZero_factorFor_nil] at zero
    cases zero
  -- A scale of zero takes some extent to its limit.
  have exact : (factorFor (worstExcess target pages)).toRat? = some 0 := beq_iff_eq.1 zero
  obtain ⟨page, listed, axis, member, extent, limit, reads, close⟩ :=
    takesToLimit_factorFor targetUsable pagesUsable large exact nonempty
  rw [zero_mul, zero_sub, abs_neg] at close
  exact ⟨page, listed, axis, member, extent, limit, reads, (le_abs_self limit).trans close⟩

end Scaling

namespace Document

variable {document : Document} {target : PageSize}

/-- What the scaling to a target is, and for which documents. -/
theorem requiredScaling_cases (document : Document) (target : PageSize) :
    target.isUsable = false ∧ document.requiredScaling target = .error (.target (.unusable target)) ∨
      (∃ error, document.measuredPages = .error error ∧
        document.requiredScaling target = .error error) ∨
      ∃ measured factor, target.isUsable ∧ document.measuredPages = .ok measured ∧
        factor = Scaling.factorFor (Scaling.worstExcess target document.sizes) ∧
        (document.requiredScaling target = .ok .grow ∨
          document.sizes.any target.exceeds = false ∧
            (factor.isZero ∧ document.requiredScaling target = .error (.target (.tooSmall target)) ∨
              factor.isZero = false ∧ document.requiredScaling target = .ok (.shrink factor))) := by
  -- The target is looked at first and the sizes of the pages next, and a factor comes last of all.
  cases usable : target.isUsable with
  | false => exact .inl ⟨rfl, requiredScaling_of_not_isUsable usable⟩
  | true =>
    cases found : document.measuredPages with
    | error error => exact .inr (.inl ⟨error, rfl, requiredScaling_of_measuredPages_error usable found⟩)
    | ok measured =>
      refine .inr (.inr ⟨measured, _, rfl, rfl, rfl, ?_⟩)
      rw [requiredScaling_of_measuredPages usable found]
      generalize Scaling.factorFor (Scaling.worstExcess target document.sizes) = factor
      cases document.sizes.any target.exceeds with
      | true => exact .inl rfl
      | false =>
        refine .inr ⟨rfl, ?_⟩
        cases zero : factor.isZero with
        | true => exact .inl ⟨rfl, if_pos zero⟩
        | false => exact .inr ⟨rfl, if_neg (Bool.eq_false_iff.1 zero)⟩

/-- A document that is shrunk has the factor for the sizes of its pages, none of which has to grow. -/
theorem measured_of_requiredScaling_shrink {factor : Double}
    (scaling : document.requiredScaling target = .ok (.shrink factor)) :
    ∃ measured, target.isUsable ∧ document.measuredPages = .ok measured ∧
      document.sizes.any target.exceeds = false ∧
      factor = Scaling.factorFor (Scaling.worstExcess target document.sizes) ∧
      factor.isZero = false := by
  rcases requiredScaling_cases document target with ⟨_, other⟩ | ⟨_, _, other⟩ |
    ⟨measured, _, usable, found, named, other | ⟨large, ⟨_, other⟩ | ⟨nonzero, same⟩⟩⟩
  -- Only the last case shrinks.
  · cases scaling.symm.trans other
  · cases scaling.symm.trans other
  · cases scaling.symm.trans other
  · cases scaling.symm.trans other
  · cases scaling.symm.trans same
    exact ⟨measured, usable, found, large, named, nonzero⟩

/-- A target is too small for a document when the factor for the sizes of its pages is zero. -/
theorem measured_of_requiredScaling_tooSmall {size : PageSize}
    (scaling : document.requiredScaling target = .error (.target (.tooSmall size))) :
    ∃ measured, target.isUsable ∧ document.measuredPages = .ok measured ∧
      document.sizes.any target.exceeds = false ∧
      (Scaling.factorFor (Scaling.worstExcess target document.sizes)).isZero := by
  -- Of all ends of the decision only one says that the target is too small.
  rcases requiredScaling_cases document target with ⟨_, other⟩ | ⟨error, failed, other⟩ |
    ⟨measured, _, usable, found, named, other | ⟨large, ⟨zero, _⟩ | ⟨_, other⟩⟩⟩
  · cases scaling.symm.trans other
  · -- A page that is not measured is no matter of the target.
    obtain ⟨page, _, rfl | ⟨_, _, rfl⟩⟩ := exists_page_of_measuredPages_error failed
    · cases scaling.symm.trans other
    · cases scaling.symm.trans other
  · cases scaling.symm.trans other
  · exact ⟨measured, usable, found, large, named ▸ zero⟩
  · cases scaling.symm.trans other

/-- A fit does not fail for the factor that it has found itself. -/
theorem fit_ne_factor_error (options : FitOptions) (value : Double) :
    (document.fit options target).1 ≠ .error (.operation (.factor value)) := by
  intro failed
  cases checked : document.isWithin options target with
  | error error =>
    rw [fit_of_isWithin_error checked] at failed
    cases failed
    -- Neither a target nor a page that is not measured has to do with a factor.
    rcases isWithin_eq_error_cases checked with ⟨_, other⟩ | unmeasured
    · cases other
    · obtain ⟨_, _, other | ⟨_, _, other⟩⟩ := exists_page_of_measuredPages_error unmeasured
      · cases other
      · cases other
  | ok within =>
    cases within with
    | true =>
      rw [fit_of_isWithin checked] at failed
      cases failed
    | false =>
      rcases fit_of_not_isWithin checked with ⟨_, other, _⟩ | other | ⟨_, _, error, other, refused⟩
      · cases failed.symm.trans other
      · cases failed.symm.trans other
      · -- An operation that is refused for a page is another one.
        cases failed.symm.trans other
        cases refused

/--
The factor by which a document is to shrink takes every page inside the target and the worst one to its limit.

It is above zero and at most one, so that a fit does not refuse it. On both axes of every page it leaves no
more than the limit, up to a ten-thousandth of the extent, and where there are pages it leaves on some axis
of one of them what the limit is, up to as much. The target is too small only where on some axis of some page the
limit is at most a ten-thousandth of the extent.
-/
theorem requiredScaling_tight (document : Document) (target : PageSize) :
    (∀ factor, document.requiredScaling target = .ok (.shrink factor) →
      ∃ scale measured, factor.toRat? = some scale ∧ 0 < scale ∧ scale ≤ 1 ∧
        validateFactor factor = .ok () ∧ document.measuredPages = .ok measured ∧
        Scaling.TakesInside target (measured.map (·.size)) scale ∧
        (document.pages ≠ [] → Scaling.TakesToLimit target (measured.map (·.size)) scale)) ∧
    (∀ options value, (document.fit options target).1 ≠ .error (.operation (.factor value))) ∧
    ∀ size, document.requiredScaling target = .error (.target (.tooSmall size)) →
      ∃ measured, document.measuredPages = .ok measured ∧
        Scaling.LeavesNothing target (measured.map (·.size)) := by
  refine ⟨?_, fit_ne_factor_error, ?_⟩
  · intro factor scaling
    obtain ⟨measured, usable, found, large, named, nonzero⟩ := measured_of_requiredScaling_shrink scaling
    have pagesUsable := usable_of_measuredPages found
    rw [named, sizes_eq found] at nonzero
    rw [sizes_eq found] at large
    rw [named, sizes_eq found]
    have fraction := Scaling.isFraction_worstExcess usable pagesUsable
    obtain ⟨scale, exact, nonneg, atMost⟩ := Scaling.isFraction_factorFor fraction
    refine ⟨scale, measured, exact, Binary.pos_of_isZero exact nonzero nonneg, atMost,
      Scaling.validateFactor_factorFor fraction nonzero, found, Scaling.takesInside_factorFor usable pagesUsable large exact, ?_⟩
    intro nonempty
    refine Scaling.takesToLimit_factorFor usable pagesUsable large exact ?_
    -- There are as many sizes as pages.
    intro none
    rw [← (measuredPages_eq_ok_iff.1 found).1, List.map_eq_nil_iff.1 none] at nonempty
    exact nonempty rfl
  · intro size scaling
    obtain ⟨measured, usable, found, large, zero⟩ := measured_of_requiredScaling_tooSmall scaling
    rw [sizes_eq found] at large zero
    exact ⟨measured, found,
      Scaling.leavesNothing_of_isZero usable (usable_of_measuredPages found) large zero⟩

/-- The factor of two pages is tight, and a tiny target leaves nothing of them. -/
theorem mixedPages_requiredScaling_tight :
    mixedPages.requiredScaling ⟨300, 400⟩ = .ok (.shrink 0.6) ∧ mixedPages.pages ≠ [] ∧
      mixedPages.requiredScaling ⟨0.01, 0.02⟩ = .error (.target (.tooSmall ⟨0.01, 0.02⟩)) ∧
      ∃ scale measured, (0.6 : Double).toRat? = some scale ∧ 0 < scale ∧ scale ≤ 1 ∧
        mixedPages.measuredPages = .ok measured ∧
        Scaling.TakesInside ⟨300, 400⟩ (measured.map (·.size)) scale ∧
        Scaling.TakesToLimit ⟨300, 400⟩ (measured.map (·.size)) scale ∧
        Scaling.LeavesNothing ⟨0.01, 0.02⟩ (measured.map (·.size)) := by
  -- Both decisions are evaluated, and the theorem bounds what they lead to.
  have shrinks : mixedPages.requiredScaling ⟨300, 400⟩ = .ok (.shrink 0.6) := by decide +kernel
  have vanishes : mixedPages.requiredScaling ⟨0.01, 0.02⟩ =
      .error (.target (.tooSmall ⟨0.01, 0.02⟩)) := by
    decide +kernel
  have listed : mixedPages.pages ≠ [] := by decide +kernel
  obtain ⟨scale, measured, exact, positive, atMost, _, found, inside, close⟩ :=
    (requiredScaling_tight mixedPages ⟨300, 400⟩).1 _ shrinks
  obtain ⟨again, same, nothing⟩ := (requiredScaling_tight mixedPages ⟨0.01, 0.02⟩).2.2 _ vanishes
  cases found.symm.trans same
  exact ⟨shrinks, listed, vanishes, scale, measured, exact, positive, atMost, found, inside,
    close listed, nothing⟩

end Document

end PdfResize
