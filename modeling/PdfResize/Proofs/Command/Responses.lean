import PdfResize.Command.Basic
import PdfResize.Proofs.Document.Measuring

/-! The response to a command: what a carried out command says, and that any error becomes a failure. -/

namespace PdfResize

/-- A file is fitted by fitting its document; what it has beyond that stays. -/
theorem File.fitDocument_eq {Layout : Type} (file : File Layout) (options : FitOptions)
    (target : PageSize) : file.fitDocument options target =
      (file.document.fit options target).1.map fun outcome =>
        (outcome, { file with document := (file.document.fit options target).2 }) := by
  -- Either the result is an error, and nothing is kept, or both are handed on together.
  unfold fitDocument
  cases file.document.fit options target with
  | mk result left =>
    cases result with
    | error error => rfl
    | ok outcome => rfl

/-- A fit of a file that succeeds is one of its document. -/
theorem File.fit_of_fitDocument {Layout : Type} {file fitted : File Layout} {options : FitOptions}
    {target : PageSize} {outcome : Outcome}
    (done : file.fitDocument options target = .ok (outcome, fitted)) :
    file.document.fit options target = (.ok outcome, fitted.document) := by
  -- The file only carries the document through the fit, so both results can be read off the pair.
  rw [fitDocument_eq] at done
  cases result : file.document.fit options target with
  | mk answer left =>
    rw [result] at done
    cases answer with
    | error error => cases done
    | ok reached =>
      cases done
      rfl

namespace Codec

variable {codec : Codec} {command : Command} {options : FitOptions} {target : PageSize}
  {file fitted left : File codec.Layout} {outcome : Outcome} {bytes : Bytes} {cause : String}
  {error : FitError} {response : Response}

/-! ### Preparing -/

/-- A command is prepared when its options, its target and its file all are. -/
theorem prepare_eq_ok_iff : codec.prepare command = .ok (options, target, file) ↔
    command.options = .ok options ∧ command.target.resolve = .ok target ∧
      codec.read command.file = .ok file := by
  -- Each of the three steps has to succeed, with what the next ones are given.
  simp only [prepare, bind_eq_ok_iff]
  constructor
  · rintro ⟨_, chosen, _, resolved, _, read, same⟩
    cases same
    exact ⟨chosen, resolved, read⟩
  · rintro ⟨chosen, resolved, read⟩
    exact ⟨options, chosen, target, resolved, file, read, rfl⟩

/-- A command that cannot be prepared fails for that reason, whatever it was to do. -/
theorem run_of_prepare_error (refused : codec.prepare command = .error error) :
    codec.run command = Command.failure error := by
  -- Both jobs begin with the preparation.
  unfold run
  cases command.job with
  | fit => simp only [runFit, refused, bind, Except.bind]
  | check => simp only [runCheck, refused, bind, Except.bind]

/-- A command that is carried out has been prepared. -/
theorem exists_prepared_of_success (done : (codec.run command).success = true) :
    ∃ options target file, codec.prepare command = .ok (options, target, file) := by
  cases prepared : codec.prepare command with
  | error error =>
    -- Its response would be that of a failure.
    rw [run_of_prepare_error prepared] at done
    cases done
  | ok parts => exact ⟨_, _, _, rfl⟩

/-! ### Saving -/

/-- Saving fails for the reason that the codec gives. -/
theorem write_of_save_error (failed : codec.save file = .error cause) :
    codec.write file = .error (.operation (.save cause)) := by
  -- The cause is wrapped as the error of an operation and kept.
  rw [write, failed]
  rfl

/-- Saving gives what the codec gives. -/
theorem write_eq_ok_iff : codec.write file = .ok (bytes, left) ↔ codec.save file = .ok (bytes, left) := by
  -- Only the reason of a failure is put in another form.
  unfold write
  cases codec.save file with
  | error cause => simp [Except.mapError]
  | ok saved => simp [Except.mapError]

/-! ### Fits -/

/-- A file that a fit has not changed is not saved. -/
theorem output_of_unchanged (same : outcome.isChanged = false) :
    codec.output outcome fitted = .ok (none, fitted) := by
  -- Nothing is saved when nothing has changed.
  simp only [output, same]
  rfl

/-- A file that a fit has changed gives the bytes that it is saved as. -/
theorem output_of_save (changed : outcome.isChanged) (saved : codec.save fitted = .ok (bytes, left)) :
    codec.output outcome fitted = .ok (some bytes, left) := by
  -- A change is saved, and the file that saving leaves takes the place of the fitted one.
  simp only [output, changed, write_eq_ok_iff.2 saved]
  rfl

/-- A file that a fit has changed gives nothing when it cannot be saved. -/
theorem output_of_save_error (changed : outcome.isChanged) (failed : codec.save fitted = .error cause) :
    codec.output outcome fitted = .error (.operation (.save cause)) := by
  -- A change has to be saved, so the failure is that of the whole output.
  simp only [output, changed, write_of_save_error failed]
  rfl

section Prepared

variable (prepared : codec.prepare command = .ok (options, target, file))

include prepared

/-- A fit fails when the fit of the document does. -/
theorem runFit_of_fitDocument_error (failed : file.fitDocument options target = .error error) :
    codec.runFit command = .error error := by
  -- The fit comes after the preparation, which has been done.
  simp only [runFit, prepared, failed, bind, Except.bind]

/-- A fit that changes nothing answers no bytes. -/
theorem runFit_of_unchanged (fits : file.fitDocument options target = .ok (outcome, fitted))
    (same : outcome.isChanged = false) :
    codec.runFit command = .ok (command.fitResponse outcome none fitted.document.pages.length) := by
  -- Each stage is known to succeed, and the response is put together from what they give.
  simp only [runFit, prepared, fits, output_of_unchanged same, bind, Except.bind]
  rfl

/-- A fit that changes a file answers the bytes that it is saved as, and counts the pages that saving leaves. -/
theorem runFit_of_save (fits : file.fitDocument options target = .ok (outcome, fitted))
    (changed : outcome.isChanged) (saved : codec.save fitted = .ok (bytes, left)) :
    codec.runFit command =
      .ok (command.fitResponse outcome (some bytes) left.document.pages.length) := by
  -- The pages are counted in the file that saving has left.
  simp only [runFit, prepared, fits, output_of_save changed saved, bind, Except.bind]
  rfl

/-- A fit that changes a file fails when the file cannot be saved. -/
theorem runFit_of_save_error (fits : file.fitDocument options target = .ok (outcome, fitted))
    (changed : outcome.isChanged) (failed : codec.save fitted = .error cause) :
    codec.runFit command = .error (.operation (.save cause)) := by
  -- The fit has been made, and only the last stage fails.
  simp only [runFit, prepared, fits, output_of_save_error changed failed, bind, Except.bind]

/--
Everything that a fit of a prepared file can come to.

The fit of its document fails, or it leaves the file unchanged, or the changed file cannot be saved, or it is saved.
-/
theorem runFit_cases :
    (∃ error, file.fitDocument options target = .error error ∧ codec.runFit command = .error error) ∨
    ∃ outcome fitted, file.fitDocument options target = .ok (outcome, fitted) ∧
      (outcome.isChanged = false ∧ codec.runFit command =
          .ok (command.fitResponse outcome none fitted.document.pages.length) ∨
        outcome.isChanged ∧
          ((∃ cause, codec.save fitted = .error cause ∧
            codec.runFit command = .error (.operation (.save cause))) ∨
          ∃ bytes left, codec.save fitted = .ok (bytes, left) ∧ codec.runFit command =
            .ok (command.fitResponse outcome (some bytes) left.document.pages.length))) := by
  cases fits : file.fitDocument options target with
  | error error => exact .inl ⟨error, rfl, runFit_of_fitDocument_error prepared fits⟩
  | ok result =>
    obtain ⟨outcome, fitted⟩ := result
    refine .inr ⟨outcome, fitted, rfl, ?_⟩
    -- Only a changed file is saved, and only then can saving fail.
    cases changed : outcome.isChanged with
    | false => exact .inl ⟨rfl, runFit_of_unchanged prepared fits changed⟩
    | true =>
      cases saved : codec.save fitted with
      | error cause => exact .inr ⟨rfl, .inl ⟨cause, rfl, runFit_of_save_error prepared fits changed saved⟩⟩
      | ok result =>
        exact .inr ⟨rfl, .inr ⟨result.1, result.2, rfl, runFit_of_save prepared fits changed saved⟩⟩

end Prepared

/-! ### Responses -/

/-- A command to fit a file answers what the fit answers. -/
theorem run_of_runFit (job : command.job = .fit) (done : codec.runFit command = .ok response) :
    codec.run command = response := by
  -- The response of the fit is handed on.
  simp only [run, job, done]

/-- A command to fit a file fails when the fit does. -/
theorem run_of_runFit_error (job : command.job = .fit) (failed : codec.runFit command = .error error) :
    codec.run command = Command.failure error := by
  -- An error of the run becomes a response that reports it.
  simp only [run, job, failed]

/-- A command that checks a file says whether it fits. -/
theorem run_of_check (job : command.job = .check)
    (prepared : codec.prepare command = .ok (options, target, file)) :
    codec.run command =
      match file.document.isWithin options target with
      | .error error => Command.failure error
      | .ok within => command.checkResponse within file.document.pages.length := by
  -- Once prepared, a check can fail only where the document is measured.
  simp only [run, job, runCheck, prepared, bind, Except.bind]
  cases file.document.isWithin options target with
  | error error => rfl
  | ok within => rfl

end Codec

end PdfResize
