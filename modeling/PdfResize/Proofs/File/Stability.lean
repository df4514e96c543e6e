import PdfResize.Proofs.Command.Agreement
import PdfResize.Proofs.Document.ExactBox
import PdfResize.Proofs.Fit.Remaining

/-! A file that has been fitted and saved is left alone when it is loaded and fitted to the same target again. -/

namespace PdfResize

namespace Codec

/--
What is saved of a file is loaded again with the same pages and with the same numbers in their media boxes.

The numbers may be written in another way than before, as a real number without a fraction is read as a whole one.
-/
def ReadsBack (codec : Codec) (file : File codec.Layout) : Prop :=
  ∀ bytes left, codec.save file = .ok (bytes, left) →
    ∃ again, codec.load bytes = .ok again ∧ again.document.pages = file.document.pages ∧
      ∀ page ∈ file.document.pages,
        again.document.exactBox? page.id = file.document.exactBox? page.id

instance (codec : Codec) (file : File codec.Layout) : Decidable (codec.ReadsBack file) :=
  decidable_of_iff ((codec.save file).toOption.all fun saved =>
    (codec.load saved.1).toOption.any fun again =>
      again.document.pages = file.document.pages ∧ ∀ page ∈ file.document.pages,
        again.document.exactBox? page.id = file.document.exactBox? page.id) <| by
    -- There are bytes to load only where the file has been saved.
    unfold ReadsBack
    cases codec.save file with
    | error cause => simp [Except.toOption]
    | ok saved =>
      obtain ⟨bytes, left⟩ := saved
      cases loaded : codec.load bytes with
      | error cause => simp [Except.toOption, loaded]
      | ok again => simp [Except.toOption, loaded]

variable {codec : Codec} {bytes out : Bytes} {file fitted : File codec.Layout} {options : FitOptions}
  {target : PageSize} {outcome : Outcome}

/-- New bytes are those of a file that has been read, changed and saved. -/
theorem exists_changed_of_fit (fitted : codec.fit bytes target options = .ok (some out)) :
    options.validate = .ok () ∧ ∃ file outcome result left, codec.read bytes = .ok file ∧
      file.fitDocument options target = .ok (outcome, result) ∧ outcome.isChanged ∧
      codec.save result = .ok (out, left) := by
  -- Each stage of the run has succeeded, and bytes are only given when the outcome is a change.
  unfold fit at fitted
  obtain ⟨_, allowed, fitted⟩ := bind_eq_ok_iff.1 fitted
  obtain ⟨file, loaded, fitted⟩ := bind_eq_ok_iff.1 fitted
  obtain ⟨⟨outcome, result⟩, done, answer⟩ := bind_eq_ok_iff.1 fitted
  refine ⟨allowed, file, outcome, result, ?_⟩
  simp only at answer
  split at answer
  · rename_i changed
    obtain ⟨⟨written, left⟩, saved, same⟩ := bind_eq_ok_iff.1 answer
    cases same
    exact ⟨left, loaded, done, changed, write_eq_ok_iff.1 saved⟩
  · cases answer

/-- Pages that all measure an upright target as it applies to some page are within every tolerance. -/
theorem fit_eq_none {again : File codec.Layout} (loaded : codec.read bytes = .ok again)
    (allowed : options.validate = .ok ()) (usable : target.isUsable)
    (upright : target.width ≤ target.height)
    (sized : ∀ page ∈ again.document.pages, ∃ size,
      again.document.pageSize page.number page.id = .ok (target.orientedLike size)) :
    codec.fit bytes target options = .ok none := by
  -- A page that measures as the target, turned its way, is within every allowed tolerance.
  obtain ⟨_, nonneg, below⟩ := FitOptions.validate_eq_ok_iff.1 allowed
  obtain ⟨measured, found⟩ := Document.exists_measuredPages fun page listed =>
    let ⟨size, measures⟩ := sized page listed
    ⟨_, measures⟩
  have within : again.document.isWithin options target = .ok true := by
    rw [Document.isWithin_of_measuredPages usable found, Except.ok.injEq, List.all_eq_true]
    intro size among
    obtain ⟨page, listed, measures⟩ := Document.mem_sizes_iff.1 among
    obtain ⟨old, oriented⟩ := sized page listed
    cases measures.symm.trans oriented
    exact FitOptions.pageFits_orientedLike nonneg below usable upright old
  rw [fit_of_read allowed loaded, File.fitDocument_eq, Document.fit_of_isWithin within]
  rfl

end Codec

end PdfResize
