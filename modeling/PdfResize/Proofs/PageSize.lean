import PdfResize.PageSize
import PdfResize.Proofs.Number.Order

/-! The extents of usable sizes, and sizes turned like the pages they are meant for. -/

namespace PdfResize.PageSize

/-- A size is usable when each of its extents is finite and above zero. -/
theorem isUsable_iff {size : PageSize} : size.isUsable ↔
    (size.width.isFinite ∧ 0 < size.width) ∧ size.height.isFinite ∧ 0 < size.height := by
  -- The check asks both extents whether they are finite before it compares them.
  simp only [isUsable, Bool.and_eq_true, decide_eq_true_eq]
  tauto

/-- Both extents of a usable size stand for values above zero. -/
theorem exists_extents {size : PageSize} (usable : size.isUsable) :
    ∃ width height : Rat, size.width.toRat? = some width ∧ size.height.toRat? = some height ∧
      0 < width ∧ 0 < height := by
  -- A finite number stands for a value, and the comparison with zero reads it.
  simp only [isUsable, Binary.isFinite, Bool.and_eq_true, decide_eq_true_eq] at usable
  obtain ⟨⟨⟨wide, high⟩, widthPositive⟩, heightPositive⟩ := usable
  obtain ⟨width, widthExact⟩ := Option.isSome_iff_exists.1 wide
  obtain ⟨height, heightExact⟩ := Option.isSome_iff_exists.1 high
  exact ⟨width, height, widthExact, heightExact,
    (Binary.lt_iff Binary.toRat?_zero widthExact).1 widthPositive,
    (Binary.lt_iff Binary.toRat?_zero heightExact).1 heightPositive⟩

/-- A size stays usable when it is turned. -/
theorem isUsable_turned {size : PageSize} (usable : size.isUsable) : size.turned.isUsable := by
  -- The same two extents are looked at in the other order.
  simp only [isUsable, turned, Bool.and_eq_true] at usable ⊢
  obtain ⟨⟨⟨wide, high⟩, widthPositive⟩, heightPositive⟩ := usable
  exact ⟨⟨⟨high, wide⟩, heightPositive⟩, widthPositive⟩

/-- A target stays usable as it applies to a page. -/
theorem isUsable_orientedLike {target : PageSize} (usable : target.isUsable) (page : PageSize) :
    (target.orientedLike page).isUsable := by
  -- The target is taken as it is or with its sides exchanged.
  unfold orientedLike
  split
  · exact usable
  · exact isUsable_turned usable

/--
An upright target applies to a page that was fitted to it as it applied to the page before.

A square is both upright and on its side, and turning it changes nothing.
-/
theorem orientedLike_orientedLike {target : PageSize} (usable : target.isUsable)
    (upright : target.width ≤ target.height) (page : PageSize) :
    target.orientedLike (target.orientedLike page) = target.orientedLike page := by
  obtain ⟨width, height, widthExact, heightExact, positive, _⟩ := exists_extents usable
  have ordered := (Binary.le_iff widthExact heightExact).1 upright
  cases portrait : page.isPortrait with
  | true =>
    simp only [orientedLike, portrait, ↓reduceIte]
    split
    · rfl
    · -- An upright target that is not taller than wide is a square.
      rename_i notTaller
      have equal : width = height := by
        simp only [isPortrait, decide_eq_true_eq, Binary.lt_iff widthExact heightExact] at notTaller
        linarith
      subst equal
      have same := Binary.eq_of_toRat? widthExact heightExact positive.ne'
      cases target
      cases same
      rfl
  | false =>
    -- Turned on its side the target is no taller than wide.
    have lying : target.turned.isPortrait = false := by
      simp only [isPortrait, turned, decide_eq_false_iff_not, Binary.lt_iff heightExact widthExact]
      linarith
    simp [orientedLike, portrait, lying]

end PdfResize.PageSize
